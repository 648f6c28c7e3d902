import NoteForms.Json.Basic
import NoteForms.Text.Quoted

/-!
# Decoding values into types

A structure is decoded from an object, or from an array that lists its parts in the order in which
they are declared.  Of several faults in an object the one whose name comes first is reported, and
missing parts only after the others; in an array faults are reported in the order of the parts.
-/

namespace NoteForms.Json

/-- Why a value does not decode. -/
inductive DecodeError
  /-- Another type of value was expected. -/
  | mismatch (found : Json) (expected : String)
  /-- A part of a structure is missing. -/
  | missing (name : String)
  /-- A name is none of those known. -/
  | unknown (name : String) (known : List String)
  /-- A number is not the index of one of so many names. -/
  | noSuchIndex (index : Nat) (count : Nat)
  /-- A name given as an object needs exactly one member. -/
  | notSingle
  /-- An array has too many or too few items. -/
  | length (found : Nat) (expected : String)

/-- What a value is, for a message that expected another. -/
def described : Json → String
  | .null => "null"
  | .bool b => "boolean `" ++ (if b then "true" else "false") ++ "`"
  | .num (.integer n) => "integer `" ++ String.ofList (writeInt n) ++ "`"
  | .num (.real x) => "floating point `" ++ String.ofList (NumberLayout.json.writeReal x) ++ "`"
  | .num .negativeZero => "floating point `-0.0`"
  | .str s => "string " ++ Text.quoted s
  | .arr _ => "sequence"
  | .obj _ => "map"

/-- Some names as alternatives. -/
def alternatives : List String → String
  | [] => ""
  | [a] => "`" ++ a ++ "`"
  | [a, b] => "`" ++ a ++ "` or `" ++ b ++ "`"
  | names => "one of " ++ String.intercalate ", " (names.map fun a => "`" ++ a ++ "`")

/-- The words of a decoding error. -/
def DecodeError.message : DecodeError → String
  | .mismatch found expected => "invalid type: " ++ found.described ++ ", expected " ++ expected
  | .missing name => "missing field `" ++ name ++ "`"
  | .unknown name known => "unknown variant `" ++ name ++ "`, expected " ++ alternatives known
  | .noSuchIndex index count =>
    "invalid value: integer `" ++ toString index ++ "`, expected variant index 0 <= i < "
      ++ toString count
  | .notSingle => "invalid value: map, expected map with a single key"
  | .length found expected =>
    "invalid length " ++ toString found ++ ", expected " ++ expected

/-- The result of decoding. -/
abbrev Decoded := Except DecodeError

/-! ## Simple values -/

/-- A text. -/
def decodeString : Json → Decoded String
  | .str s => .ok s
  | v => .error (.mismatch v "a string")

/-- A truth value. -/
def decodeBool : Json → Decoded Bool
  | .bool b => .ok b
  | v => .error (.mismatch v "a boolean")

/-- A number, whole or not. -/
def decodeNumber : Json → Decoded Binary64
  | .num n => .ok n.toBinary64
  | v => .error (.mismatch v "f64")

/-- A value that may be absent, which null stands for. -/
def decodeOptional (decode : Json → Decoded α) : Json → Decoded (Option α)
  | .null => .ok none
  | v => (decode v).map some

/-- Every item of a list of values. -/
def decodeItems (decode : Json → Decoded α) : List Json → Decoded (List α)
  | [] => .ok []
  | v :: vs => do
    let a ← decode v
    let as ← decodeItems decode vs
    return a :: as

/-- An array of values of one type. -/
def decodeList (decode : Json → Decoded α) : Json → Decoded (List α)
  | .arr items => decodeItems decode items
  | v => .error (.mismatch v "a sequence")

/-! ## Names -/

/-- One of some named values. -/
def decodeName (choices : List (String × α)) (name : String) : Decoded α :=
  match lookup name choices with
  | some a => .ok a
  | none => .error (.unknown name (choices.map (·.1)))

/-- A named value: its name, or an object with the name as its only member and nothing in it.  In a
part that was set aside for its tag, an empty object counts as nothing too. -/
def decodeChoice (setAside : Bool) (choices : List (String × α)) : Json → Decoded α
  | .str name => decodeName choices name
  | .obj [(name, content)] => do
    let a ← decodeName choices name
    match content with
    | .null => return a
    | .obj [] => if setAside then return a else throw (.mismatch (.obj []) "unit")
    | v => throw (.mismatch v "unit")
  | .obj _ => .error .notSingle
  | v => .error (.mismatch v "string or map")

/-- The tag of a tagged structure.  In a part that was set aside for an outer tag, a tag may also be
given by its index. -/
def decodeTag (setAside : Bool) (choices : List (String × α)) : Json → Decoded α
  | .str name => decodeName choices name
  | .num (.integer (.ofNat index)) =>
    if setAside then
      match choices[index]? with
      | some choice => .ok choice.2
      | none => .error (.noSuchIndex index choices.length)
    else .error (.mismatch (.num (.integer index)) "variant identifier")
  | v => .error (.mismatch v "variant identifier")

/-! ## Structures -/

/-- The parts of a structure: by name, or in the order in which they are declared.  `setAside` says
whether they were set aside for a tag. -/
inductive Parts
  | named (members : List (String × Json))
  | listed (items : List Json) (setAside : Bool)

/-- The parts of a value that should be a structure. -/
def parts (expected : String) : Json → Decoded Parts
  | .obj members => .ok (.named members)
  | .arr items => .ok (.listed items false)
  | v => .error (.mismatch v expected)

/-- The parts of a structure that is itself a part set aside for a tag. -/
def innerParts (expected : String) : Json → Decoded Parts
  | .obj members => .ok (.named members)
  | .arr items => .ok (.listed items true)
  | v => .error (.mismatch v expected)

/-- The tag of a structure and the parts that are left: a member, or the first item. -/
def taggedParts (setAside : Bool) (expected tag : String) (choices : List (String × α)) :
    Json → Decoded (α × Parts)
  | .obj members =>
    match lookup tag members with
    | some v => do
      let a ← decodeTag setAside choices v
      return (a, .named (members.filter fun m => m.1 != tag))
    | none => .error (.missing tag)
  | .arr [] => .error (.missing tag)
  | .arr (v :: items) => do
    let a ← decodeTag setAside choices v
    return (a, .listed items true)
  | v => .error (.mismatch v expected)

/-- The parts as a value again. -/
def Parts.toJson : Parts → Json
  | .named members => .obj members
  | .listed items _ => .arr items

/-- The member of this name, decoded if it is there. -/
def member? (members : List (String × Json)) (name : String) (decode : Json → Decoded α) :
    Decoded (Option α) :=
  match lookup name members with
  | some v => (decode v).map some
  | none => .ok none

/-- A part that must be there. -/
def required (name : String) : Option α → Decoded α
  | some a => .ok a
  | none => .error (.missing name)

/-- The item at an index, decoded if it is there. -/
def item? (items : List Json) (index : Nat) (decode : Json → Decoded α) : Decoded (Option α) :=
  match items[index]? with
  | some v => (decode v).map some
  | none => .ok none

/-- The item at an index, which must be there. -/
def item (expected : String) (items : List Json) (index : Nat) (decode : Json → Decoded α) :
    Decoded α := do
  match ← item? items index decode with
  | some a => return a
  | none => throw (.length index expected)

/-- There must be no items from this index on. -/
def noMoreItems (items : List Json) (setAside : Bool) (count : Nat) : Decoded Unit :=
  if items.length ≤ count then .ok ()
  else if setAside then
    .error (.length items.length
      (toString count ++ (if count = 1 then " element" else " elements") ++ " in sequence"))
  else .error (.length items.length "fewer elements in array")

/-- A structure whose only part must be there. -/
def Parts.single (p : Parts) (expected name : String) (decode : Json → Decoded α) : Decoded α :=
  match p with
  | .named members => do
    required name (← member? members name decode)
  | .listed items setAside => do
    let a ← item (expected ++ " with 1 element") items 0 decode
    noMoreItems items setAside 1
    return a

/-- A structure whose only part may be absent. -/
def Parts.singleOptional (p : Parts) (name : String) (decode : Json → Decoded α) :
    Decoded (Option α) :=
  match p with
  | .named members => do
    return (← member? members name (decodeOptional decode)).join
  | .listed items setAside => do
    let a ← item? items 0 (decodeOptional decode)
    noMoreItems items setAside 1
    return a.join

/-- A structure without parts: an object of any members, or an empty array. -/
def Parts.none (p : Parts) : Decoded Unit :=
  match p with
  | .named _ => .ok ()
  | .listed items setAside => noMoreItems items setAside 0

end NoteForms.Json
