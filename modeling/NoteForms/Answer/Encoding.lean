import NoteForms.Answer.Basic
import NoteForms.Json.Decode

/-!
# Answers as JSON

An answer is the JSON value that looks like it.
-/

namespace NoteForms

namespace Answer

/-- An answer as JSON. -/
def toJson : Answer → Json
  | .text s => .str s
  | .number x => Json.ofBinary64 x
  | .flag b => .bool b
  | .list items => Json.ofStrings items

/-- An answer from JSON. -/
def decode : Json → Json.Decoded Answer
  | .str s => .ok (.text s)
  | .num n => .ok (.number n.toBinary64)
  | .bool b => .ok (.flag b)
  | .arr items => (Json.decodeItems Json.decodeString items).map .list
  | v => .error (.mismatch v "a string, number, boolean or list of strings")

end Answer

namespace Answers

/-- Answers as JSON. -/
def toJson (answers : Answers) : Json :=
  .obj (answers.entries.map fun e => (e.1, e.2.toJson))

/-- Answers from the members of an object, added to those before. -/
def decodeMembers (answers : Answers) : List (String × Json) → Json.Decoded Answers
  | [] => .ok answers
  | (name, v) :: members => do
    let a ← Answer.decode v
    decodeMembers (answers.insert name a) members

/-- Answers from JSON. -/
def decode : Json → Json.Decoded Answers
  | .obj members => decodeMembers ∅ members
  | v => .error (.mismatch v "a map")

end Answers

end NoteForms
