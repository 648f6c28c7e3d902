import NoteForms.Field.Validation
import NoteForms.Form.Basic
import NoteForms.Template.Encoding

/-!
# Validating forms

A raw form is checked key by key against the current version, and every issue is kept.
-/

namespace NoteForms

namespace NoteTemplate

/-- The segments of a raw template.  Here null is a value like any other. -/
def segmentsOf (members : Members) (base : KeyPath) : Validated Template :=
  match lookup "parsedTemplate" members with
  | none => .issueAt base "parsedTemplate" "is required"
  | some v =>
    match Template.decode v with
    | .ok t => .valid t
    | .error e => .issueAt base "parsedTemplate" ("invalid template tokens: " ++ e.message)

/-- The template block that a raw value at a path stands for. -/
def validateAt (base : KeyPath) (raw : Json) : Validated NoteTemplate :=
  (Members.ofJson base raw).andThen fun members =>
    NoteTemplate.mk <$> members.flag base "createCommand" <*> segmentsOf members base

/-- The template block that a raw value stands for; it is looked at as that of a form. -/
def validate (raw : Json) : Validated NoteTemplate := validateAt ["template"] raw

end NoteTemplate

namespace Form

/-- The fields of a raw form. -/
def fieldsOf (faultOf : String → Option String) (members : Members) (base : KeyPath) :
    Validated (List Field) :=
  (members.array base "fields").andThen (Field.checkAllAt faultOf (base ++ ["fields"]))

/-- The template of a raw form, if it has one. -/
def templateOf (members : Members) : Validated (Option NoteTemplate) :=
  match members.present? "template" with
  | none => .valid none
  | some v => some <$> NoteTemplate.validate v

/-- A form with its parts in the order in which they are checked. -/
def ofParts (title name : String) (className : Option String) (_version : Unit)
    (fields : List Field) (template : Option NoteTemplate) : Form :=
  ⟨title, name, className, fields, template⟩

/-- The form that a raw value of the current version stands for, or all its issues. -/
def validate (faultOf : String → Option String) (raw : Json) : Validated Form :=
  (Members.ofJson [] raw).andThen fun members =>
    ofParts <$> members.nonBlankText [] "title" <*> members.nonBlankText [] "name"
      <*> members.optionalText [] "customClassname" <*> members.literal [] "version" formVersion
      <*> fieldsOf faultOf members [] <*> templateOf members

end Form

end NoteForms
