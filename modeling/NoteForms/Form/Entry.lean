import NoteForms.Form.Encoding
import NoteForms.Form.Validation

/-!
# Entries of a collection

A stored form that the current version accepts, or accepts once its version is set, is usable.  One
that still has the outline of a form is broken: it is kept as it is stored, with the issues that
stand against it.  Anything else is no form.
-/

namespace NoteForms

/-- What every form has had in every version. -/
structure FormOutline where
  title : String
  name : String
  className : Option String
  fields : List Json

namespace FormOutline

/-- The outline of a raw form; its title and name may be blank. -/
def validate (raw : Json) : Validated FormOutline :=
  (Members.ofJson [] raw).andThen fun members =>
    FormOutline.mk <$> members.text [] "title" <*> members.text [] "name"
      <*> members.optionalText [] "customClassname" <*> members.array [] "fields"

end FormOutline

/-- A form that needs a fix by hand: its outline, the value it is stored as, and the issues. -/
structure BrokenForm where
  outline : FormOutline
  raw : Json
  issues : List Issue

/-- The words for a broken form. -/
def BrokenForm.message (b : BrokenForm) : String :=
  "Form \"" ++ b.outline.name ++ "\" needs a manual fix: " ++ summarize b.issues

/-- A stored value that is no form, and the issues. -/
structure NotAForm where
  raw : Json
  issues : List Issue

namespace NotAForm

/-- The words for a value that is no form. -/
def message (n : NotAForm) : String := "Invalid form data: " ++ summarize n.issues

/-- A member that is a text. -/
def textMember? (key : String) : Json → Option String
  | .obj members =>
    match lookup key members with
    | some (.str s) => some s
    | _ => none
  | _ => none

/-- The name to report the value by, or else its title. -/
def nameHint (n : NotAForm) : Option String :=
  (textMember? "name" n.raw).or (textMember? "title" n.raw)

end NotAForm

/-- An entry of a collection of forms. -/
inductive Entry
  | usable (form : Form)
  | broken (form : BrokenForm)

namespace Entry

/-- The form of a usable entry. -/
def form? : Entry → Option Form
  | .usable form => some form
  | .broken _ => none

/-- The broken form of an entry that is not usable. -/
def broken? : Entry → Option BrokenForm
  | .usable _ => none
  | .broken form => some form

/-- The name of an entry. -/
def name : Entry → String
  | .usable form => form.name
  | .broken form => form.outline.name

/-- The title of an entry. -/
def title : Entry → String
  | .usable form => form.title
  | .broken form => form.outline.title

/-- Whether the entry can be filled in. -/
def isUsable : Entry → Bool
  | .usable _ => true
  | .broken _ => false

/-- An entry as it is stored; a broken one as it was found. -/
def toJson : Entry → Json
  | .usable form => form.toJson
  | .broken form => form.raw

end Entry

/-- A raw form with its version set to the current one. -/
def stampVersion : Json → Json
  | .obj members => .obj (insertEntry "version" (.str formVersion) members)
  | v => v

/-- The entry that a stored value stands for. -/
def Entry.ofJson (faultOf : String → Option String) (raw : Json) : Except NotAForm Entry :=
  match Form.validate faultOf raw with
  | .valid form => .ok (.usable form)
  | .invalid _ =>
    match FormOutline.validate raw with
    | .invalid issues => .error ⟨raw, issues⟩
    | .valid outline =>
      match Form.validate faultOf (stampVersion raw) with
      | .valid form => .ok (.usable form)
      | .invalid issues => .ok (.broken ⟨outline, raw, issues⟩)

/-- Whether a stored value is not what the current version would store. -/
def needsMigration (faultOf : String → Option String) (raw : Json) : Bool :=
  !(Form.validate faultOf raw).isValid

/-- The usable forms among some entries. -/
def usableForms (entries : List Entry) : List Form := entries.filterMap Entry.form?

/-- The first usable form of a name. -/
def findForm? (entries : List Entry) (name : String) : Option Form :=
  (usableForms entries).find? fun form => form.name == name

end NoteForms
