import NoteForms.Condition.Basic
import NoteForms.Field.Basic
import NoteForms.Number.Typed

/-!
# The state of a session

While a form is filled in, each of its fields has an answer, maybe a rule, and the errors that the
last attempt to submit left on it.
-/

namespace NoteForms

/-- How far filling in a form has come. -/
inductive SessionStatus
  | draft
  | submitted
  | cancelled
  deriving DecidableEq

/-- The name of a status. -/
def SessionStatus.name : SessionStatus → String
  | .draft => "draft"
  | .submitted => "submitted"
  | .cancelled => "cancelled"

/-- The state of a field. -/
structure FieldState where
  answer : Option Answer
  /-- What is said when the field has no answer, if it must have one. -/
  requirement : Option String
  errors : List String

namespace FieldState

/-- The answer, unless it is empty. -/
def filled? (f : FieldState) : Option Answer := f.answer.filter fun a => !a.isEmpty

/-- The errors that stand against the answer. -/
def faults (f : FieldState) : List String :=
  match f.requirement, f.filled? with
  | some message, none => [message]
  | _, _ => []

/-- The field after an attempt to submit. -/
def checked (f : FieldState) : FieldState := { f with errors := f.faults }

end FieldState

/-- The state of a session: its status, and its fields by name. -/
structure SessionState where
  status : SessionStatus
  fields : Table FieldState

namespace SessionState

/-- A session without fields. -/
def start : SessionState := ⟨.draft, ∅⟩

/-- The answer to a field, if it is there and answered. -/
def answer? (s : SessionState) (name : String) : Option Answer :=
  (s.fields.get? name).bind (·.answer)

/-- The errors left on a field. -/
def errors (s : SessionState) (name : String) : List String :=
  ((s.fields.get? name).map (·.errors)).getD []

/-- Whether no errors are left on any field. -/
def isValid (s : SessionState) : Bool := s.fields.entries.all fun e => e.2.errors.isEmpty

/-- The answers that are not empty. -/
def answers (s : SessionState) : Answers := s.fields.filterMap FieldState.filled?

/-- The session with another answer to a field, which clears its errors.  A field that is not there
is left out. -/
def setAnswer (s : SessionState) (name : String) (answer : Option Answer) : SessionState :=
  match s.fields.get? name with
  | some f => { s with fields := s.fields.insert name { f with answer := answer, errors := [] } }
  | none => s

/-- The session with every field checked. -/
def checkAll (s : SessionState) : SessionState :=
  { s with fields := s.fields.map FieldState.checked }

/-- The session after an attempt to submit: every field checked, and submitted if none has
errors. -/
def attempted (s : SessionState) : SessionState :=
  { s.checkAll with status := if s.checkAll.isValid then .submitted else .draft }

/-- The session after it was cancelled, with its fields as they are. -/
def cancelled (s : SessionState) : SessionState := { s with status := .cancelled }

end SessionState

/-- An answer as an input keeps it: a text that spells a number becomes the number where numbers
are expected. -/
def InputKind.coerce (kind : InputKind) : Answer → Answer
  | .text s =>
    if kind.isNumeric then
      match readTyped? (Text.trimChars s.toList) with
      | some x => .number x
      | none => .text s
    else .text s
  | a => a

namespace Field

/-- What is said when a field that must be answered is not. -/
def requirement (f : Field) : Option String :=
  if f.isRequired then some ("'" ++ f.labelOrName ++ "' is required") else none

/-- The state of a field at first, with its default answer if there is one. -/
def initialState (f : Field) (defaults : Answers) : FieldState :=
  ⟨(defaults.get? f.name).map f.input.kind.coerce, f.requirement, []⟩

/-- Whether a field is shown, or why that cannot be said. -/
def visibility (f : Field) (s : SessionState) : Except String Bool :=
  if f.input.isHidden then .ok false
  else if f.isRequired then .ok true
  else
    match f.condition with
    | none => .ok true
    | some c =>
      match s.fields.get? c.dependency with
      | some dependency => .ok (c.test.holds dependency.answer)
      | none =>
        .error ("Condition dependency '" ++ c.dependency ++ "' not found for field '" ++ f.name
          ++ "'")

end Field

/-- The session with a field put in, in the place of one of the same name. -/
def SessionState.register (s : SessionState) (f : Field) (defaults : Answers) : SessionState :=
  { s with fields := s.fields.insert f.name (f.initialState defaults) }

end NoteForms
