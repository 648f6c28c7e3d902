import NoteForms.Json.Basic
import NoteForms.Text.Blank
import NoteForms.Validation.Validated

/-!
# Checking the members of an object

Each check reads one member of the object found at a path, and depends on nothing else.  A member
that is null counts as missing.
-/

namespace NoteForms

/-- The type of a JSON value, in words. -/
def Json.typeName : Json → String
  | .null => "null"
  | .bool _ => "boolean"
  | .num _ => "number"
  | .str _ => "string"
  | .arr _ => "array"
  | .obj _ => "object"

/-- The members of an object. -/
abbrev Members := List (String × Json)

/-- The message for a value of another type than expected. -/
def expectedMessage (expected : String) (found : Json) : String :=
  "expected " ++ expected ++ ", received " ++ found.typeName

/-- The members of a value that must be an object. -/
def Members.ofJson (base : KeyPath) : Json → Validated Members
  | .obj members => .valid members
  | v => .issue base (expectedMessage "an object" v)

namespace Members

/-- The value of a member that is there and not null. -/
def present? (members : Members) (key : String) : Option Json :=
  match lookup key members with
  | some .null => none
  | found => found

/-- A text that must be there. -/
def text (members : Members) (base : KeyPath) (key : String) : Validated String :=
  match present? members key with
  | some (.str s) => .valid s
  | some v => .issueAt base key (expectedMessage "a string" v)
  | none => .issueAt base key "is required"

/-- A text that must be there and must not be blank; it is kept as it is. -/
def nonBlankText (members : Members) (base : KeyPath) (key : String) : Validated String :=
  (text members base key).andThen fun s =>
    if Text.isBlankText s then .issueAt base key "must not be empty" else .valid s

/-- A text that may be missing. -/
def optionalText (members : Members) (base : KeyPath) (key : String) : Validated (Option String) :=
  match present? members key with
  | some (.str s) => .valid (some s)
  | some v => .issueAt base key (expectedMessage "a string" v)
  | none => .valid none

/-- A truth value that may be missing. -/
def optionalFlag (members : Members) (base : KeyPath) (key : String) : Validated (Option Bool) :=
  match present? members key with
  | some (.bool b) => .valid (some b)
  | some v => .issueAt base key (expectedMessage "a boolean" v)
  | none => .valid none

/-- A truth value that must be there. -/
def flag (members : Members) (base : KeyPath) (key : String) : Validated Bool :=
  match present? members key with
  | some (.bool b) => .valid b
  | some v => .issueAt base key (expectedMessage "a boolean" v)
  | none => .issueAt base key "is required"

/-- A number that must be there. -/
def number (members : Members) (base : KeyPath) (key : String) : Validated Binary64 :=
  match present? members key with
  | some (.num n) => .valid n.toBinary64
  | some v => .issueAt base key (expectedMessage "a number" v)
  | none => .issueAt base key "is required"

/-- An array that must be there. -/
def array (members : Members) (base : KeyPath) (key : String) : Validated (List Json) :=
  match present? members key with
  | some (.arr items) => .valid items
  | some v => .issueAt base key (expectedMessage "an array" v)
  | none => .issueAt base key "is required"

/-- One text and no other. -/
def literal (members : Members) (base : KeyPath) (key expected : String) :
    Validated Unit :=
  match present? members key with
  | some (.str s) =>
    if s = expected then .valid ()
    else .issueAt base key ("expected \"" ++ expected ++ "\", received \"" ++ s ++ "\"")
  | some v => .issueAt base key (expectedMessage ("\"" ++ expected ++ "\"") v)
  | none => .issueAt base key ("expected \"" ++ expected ++ "\"")

end Members

end NoteForms
