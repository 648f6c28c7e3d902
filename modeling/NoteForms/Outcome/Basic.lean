import NoteForms.Answer.Frontmatter
import NoteForms.Answer.Encoding
import NoteForms.Template.Reader
import NoteForms.Template.Render

/-!
# Outcomes

The outcome of filling in a form: whether it was submitted, and the answers.  It can be written as
frontmatter, as a line for each answer, as JSON, or by a template.
-/

namespace NoteForms

/-- How filling in a form ended. -/
inductive OutcomeStatus
  | ok
  | cancelled
  deriving DecidableEq

/-- The name of a status. -/
def OutcomeStatus.name : OutcomeStatus → String
  | .ok => "ok"
  | .cancelled => "cancelled"

/-- The outcome of filling in a form. -/
structure Outcome where
  status : OutcomeStatus
  answers : Answers
  deriving DecidableEq

namespace Outcome

/-- A submitted form. -/
def submitted (answers : Answers) : Outcome := ⟨.ok, answers⟩

/-- A cancelled form, which has no answers. -/
def cancelled : Outcome := ⟨.cancelled, ∅⟩

/-- Whether the form was submitted. -/
def isOk (o : Outcome) : Bool := o.status = .ok

/-- The outcome with only some answers; no names pick all of them. -/
def pick (o : Outcome) (names : List String) : Outcome :=
  { o with answers := o.answers.select names [] }

/-- The outcome without some answers. -/
def omitting (o : Outcome) (names : List String) : Outcome :=
  { o with answers := o.answers.select [] names }

/-- A line for each answer. -/
def lines (o : Outcome) (line : String → String → String) : String :=
  String.intercalate "\n" (o.answers.entries.map fun e => line e.1 e.2.display)

/-- The answers as inline properties, one a line. -/
def properties (o : Outcome) : String := o.lines fun name shown => name ++ ":: " ++ shown

/-- The answers as a bullet list. -/
def bullets (o : Outcome) : String := o.lines fun name shown => "- " ++ name ++ ": " ++ shown

/-- The answers put into a template given by its source. -/
def render (o : Outcome) (source : String) : Except Template.SourceError String :=
  (Template.parse source).map fun t => t.render o.answers

/-- The outcome as JSON. -/
def toJson (o : Outcome) : Json :=
  .obj [("status", .str o.status.name), ("data", o.answers.toJson)]

/-- The status of an outcome from JSON. -/
def decodeStatus : Json → Json.Decoded OutcomeStatus :=
  Json.decodeChoice false [("ok", .ok), ("cancelled", .cancelled)]

section Decoding

open Json

/-- An outcome from JSON. -/
def decode (v : Json) : Decoded Outcome := do
  match ← parts "struct FormResult" v with
  | .named members => do
    let answers ← member? members "data" Answers.decode
    let status ← member? members "status" decodeStatus
    let status ← required "status" status
    return ⟨status, ← required "data" answers⟩
  | .listed items setAside => do
    let status ← item "struct FormResult with 2 elements" items 0 decodeStatus
    let answers ← item "struct FormResult with 2 elements" items 1 Answers.decode
    noMoreItems items setAside 2
    return ⟨status, answers⟩

end Decoding

end Outcome

end NoteForms
