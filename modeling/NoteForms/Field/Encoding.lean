import NoteForms.Condition.Encoding
import NoteForms.Field.Basic
import NoteForms.Input.Encoding

/-!
# Fields as JSON
-/

namespace NoteForms.Field

open Json

/-- The members of a field. -/
def members (f : Field) : List (String × Json) :=
  ("name", .str f.name) :: Json.optional "label" .str f.label
    ++ ("description", .str f.description) :: ("input", f.input.toJson)
      :: Json.optional "isRequired" .bool f.required
      ++ Json.optional "condition" Condition.toJson f.condition

/-- A field as JSON. -/
def toJson (f : Field) : Json := .obj f.members

/-- What an array that is too short for a field is told. -/
def expectedParts : String := "struct FieldDefinition with 6 elements"

/-- A field from JSON. -/
def decode (v : Json) : Decoded Field := do
  match ← parts "struct FieldDefinition" v with
  | .named members => do
    let condition ← member? members "condition" (decodeOptional Condition.decode)
    let description ← member? members "description" decodeString
    let input ← member? members "input" Input.decode
    let isRequired ← member? members "isRequired" (decodeOptional decodeBool)
    let label ← member? members "label" (decodeOptional decodeString)
    let name ← member? members "name" decodeString
    let name ← Json.required "name" name
    let input ← Json.required "input" input
    return ⟨name, label.join, description.getD "", input, isRequired.join, condition.join⟩
  | .listed items setAside => do
    let name ← item expectedParts items 0 decodeString
    let label ← item? items 1 (decodeOptional decodeString)
    let description ← item? items 2 decodeString
    let input ← item expectedParts items 3 Input.decode
    let isRequired ← item? items 4 (decodeOptional decodeBool)
    let condition ← item? items 5 (decodeOptional Condition.decode)
    noMoreItems items setAside 6
    return ⟨name, label.join, description.getD "", input, isRequired.join, condition.join⟩

end NoteForms.Field
