import NoteForms.Condition.Basic
import NoteForms.Json.Decode

/-!
# Conditions as JSON

A condition is an object that holds the name of the other field beside the members of its test.
-/

namespace NoteForms

open Json

namespace TestKind

/-- A kind of test from JSON. -/
def decode : Json → Decoded TestKind := decodeChoice false (all.map fun kind => (kind.name, kind))

end TestKind

namespace Test

/-- The members behind the type of a test. -/
def members : Test → List (String × Json)
  | .isSet => []
  | .startsWith start => [("value", .str start)]
  | .contains needle => [("value", .str needle)]
  | .above bound => [("value", ofBound bound)]
  | .below bound => [("value", ofBound bound)]
  | .boolean expected => [("value", .bool expected)]

/-- A test as JSON. -/
def toJson (t : Test) : Json := .obj (("type", .str t.kind.name) :: t.members)

/-- A test from JSON; `setAside` says whether it is part of a condition. -/
def decodeTest (setAside : Bool) (v : Json) : Decoded Test := do
  let (kind, p) ← taggedParts setAside "internally tagged enum ConditionPredicate" "type"
    (TestKind.all.map fun kind => (kind.name, kind)) v
  match kind with
  | .isSet => p.none.map fun _ => .isSet
  | .startsWith =>
    (p.single "struct variant ConditionPredicate::StartsWith" "value" decodeString).map .startsWith
  | .contains =>
    (p.single "struct variant ConditionPredicate::Contains" "value" decodeString).map .contains
  | .above =>
    (p.single "struct variant ConditionPredicate::Above" "value" decodeNumber).map (.above ·)
  | .below =>
    (p.single "struct variant ConditionPredicate::Below" "value" decodeNumber).map (.below ·)
  | .boolean =>
    (p.single "struct variant ConditionPredicate::Boolean" "value" decodeBool).map .boolean

/-- A test from JSON. -/
def decode : Json → Decoded Test := decodeTest false

end Test

namespace Condition

/-- The members of a condition. -/
def members (c : Condition) : List (String × Json) :=
  ("dependencyName", .str c.dependency) :: ("type", .str c.test.kind.name) :: c.test.members

/-- A condition as JSON. -/
def toJson (c : Condition) : Json := .obj c.members

/-- A condition from JSON. -/
def decode : Json → Decoded Condition
  | .obj members => do
    let dependency ← member? members "dependencyName" decodeString
    let dependency ← required "dependencyName" dependency
    let test ← Test.decodeTest true (.obj (members.filter fun m => m.1 != "dependencyName"))
    return ⟨dependency, test⟩
  | v => .error (.mismatch v "struct Condition")

end Condition

end NoteForms
