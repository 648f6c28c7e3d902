import NoteForms.Form.Basic
import NoteForms.Json.Printer
import NoteForms.Outcome.Basic

/-!
# Formats of outcomes
-/

namespace NoteForms

/-- The ways in which the outcome of a form is written. -/
inductive OutcomeFormat
  | frontmatter
  | properties
  | bullets
  | json
  /-- The note that the template of the form makes of the answers. -/
  | note
  deriving DecidableEq

/-- The outcome of a form in a format; a form without a template has only the frontmatter of a
note. -/
def Form.present (form : Form) (o : Outcome) : OutcomeFormat → String
  | .frontmatter => o.answers.frontmatter
  | .properties => o.properties
  | .bullets => o.bullets
  | .json => o.toJson.indented
  | .note => (form.noteBody o.answers).getD o.answers.frontmatter

end NoteForms
