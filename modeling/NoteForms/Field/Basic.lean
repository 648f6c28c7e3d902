import NoteForms.Condition.Basic
import NoteForms.Input.Basic

/-!
# Fields

A field of a form has a name, under which its answer is kept, and an input.
-/

namespace NoteForms

/-- A field of a form. -/
structure Field where
  name : String
  label : Option String
  description : String
  input : Input
  required : Option Bool
  condition : Option Condition
  deriving DecidableEq

namespace Field

/-- Whether the field must be answered. -/
def isRequired (f : Field) : Bool := f.required.getD false

/-- The label, or the name where there is no label or a blank one. -/
def labelOrName (f : Field) : String := labelOr f.label f.name

/-- The field as it is shown in a list. -/
def display (f : Field) : String := f.labelOrName ++ " (" ++ f.input.kind.name ++ ")"

end Field

end NoteForms
