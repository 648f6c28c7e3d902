import NoteForms.Answer.Frontmatter
import NoteForms.Template.Basic

/-!
# Rendering templates

A variable becomes the answer of that name, or nothing if there is none; a frontmatter block becomes
the answers it selects.
-/

namespace NoteForms

/-- The text put in for a segment. -/
def Segment.render (answers : Answers) : Segment → String
  | .text value => value
  | .variable name transform =>
    let shown := ((answers.get? name).map Answer.display).getD ""
    match transform with
    | some t => t.apply shown
    | none => shown
  | .frontmatter picked omitted => (answers.select picked omitted).frontmatter

/-- The text of a template for some answers. -/
def Template.render (t : Template) (answers : Answers) : String :=
  String.join (t.map (Segment.render answers))

end NoteForms
