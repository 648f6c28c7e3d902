import NoteForms.Input.Typed
import NoteForms.Outcome.Basic
import NoteForms.Session.Run

/-!
# Interviews

In an interview the fields of a form are asked for one after the other.  Here are the words that
both sides exchange: questions and responses, remarks, and how an interview ends.
-/

namespace NoteForms

/-- A question for a field: its answer and its errors so far, and its place among the fields. -/
structure Question where
  field : Field
  current : Option Answer
  errors : List String
  index : Nat
  total : Nat

/-- The label of a question, starred if the field must be answered. -/
def Question.label (q : Question) : String :=
  q.field.labelOrName ++ (if q.field.isRequired then " *" else "")

/-- What is responded to a question. -/
inductive Response
  | typed (text : String)
  | items (chosen : List String)
  /-- Leaves the field as it is. -/
  | skip
  /-- Gives up the whole form. -/
  | cancel

/-- What comes up in an interview, in the order in which it does. -/
inductive Remark
  | notice (text : String)
  | trouble (reason : String)
  | asked (question : Question)
  | rejected (field : Field) (reason : Refusal)
  /-- The answers so far, to be confirmed before they are submitted. -/
  | review (summary : List String)

/-- How an interview ends; the respondent may fail in a way of their own. -/
inductive Conclusion (φ : Type)
  | finished (outcome : Outcome)
  | failed (reason : φ)
  /-- A field that must be answered is not shown. -/
  | stuck (formName : String)
  deriving DecidableEq

/-- The words for an interview that is stuck. -/
def stuckMessage (formName : String) : String :=
  "Form \"" ++ formName ++ "\" cannot be submitted: a required field is hidden"

/-- An interview that was given up. -/
def Conclusion.cancelled {φ : Type} : Conclusion φ := .finished .cancelled

/-- The outcome of a form that an event of its session tells of. -/
def Event.outcome? {ε : Type} : Event ε → Option Outcome
  | .submitted answers => some (.submitted answers)
  | .cancelled => some .cancelled
  | _ => none

/-- The outcome of a form, as its session ended last; a session that has not ended counts as
cancelled. -/
def Session.outcome {ε : Type} (s : Session ε) : Outcome :=
  (s.events.findSome? Event.outcome?).getD .cancelled

/-- What a respondent will say, however they come to it: a response to each question and a word on
each review.  One who has no more responses gives up, and one who has no more words confirms. -/
structure Respondent (φ : Type) where
  responses : List (Except φ Response)
  confirmations : List (Except φ Bool)

/-- The answer in a response, if the response is one. -/
def Input.answerResponse (input : Input) : Response → Option (Except Refusal Answer)
  | .typed text => some (input.answerTyped text)
  | .items chosen => some (input.answerItems chosen)
  | .skip => none
  | .cancel => none

end NoteForms
