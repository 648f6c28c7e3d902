import NoteForms.Field.Basic
import NoteForms.Template.Render

/-!
# Forms

A form has a title, a name, fields, and possibly a template for the note made of its answers.
-/

namespace NoteForms

/-- The template of a form, and whether a command makes notes from it. -/
structure NoteTemplate where
  createCommand : Bool
  template : Template
  deriving DecidableEq

/-- A form. -/
structure Form where
  title : String
  name : String
  className : Option String
  fields : List Field
  template : Option NoteTemplate
  deriving DecidableEq

/-- The version of forms as they are written. -/
def formVersion : String := "1"

namespace Form

/-- The form as it is shown in a list. -/
def display (f : Form) : String := f.title ++ " [" ++ f.name ++ "]"

/-- The names of the fields. -/
def fieldNames (f : Form) : List String := f.fields.map (·.name)

/-- The note made of some answers, if the form has a template. -/
def noteBody (f : Form) (answers : Answers) : Option String :=
  f.template.map fun t => t.template.render answers

end Form

end NoteForms
