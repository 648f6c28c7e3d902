import NoteForms.Pattern.Check
import NoteForms.Pattern.Size

/-!
# Valid patterns

A pattern is valid if it can be read, means something, and does not grow beyond the limit.
-/

namespace NoteForms.Pattern

/-- The words for a pattern that grows too large. -/
def tooLargeMessage : String :=
  "Compiled regex exceeds size limit of " ++ toString sizeLimit ++ " bytes."

/-- What is wrong with a pattern, in words; none for a valid one. -/
def faultOf (source : String) : Option String :=
  match readPattern source.toList with
  | .error f => some (f.message source.toList)
  | .ok e =>
    match e.fault? with
    | some f => some (f.message source.toList)
    | none => if sizeLimit < e.size then some tooLargeMessage else none

end NoteForms.Pattern
