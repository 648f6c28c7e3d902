import NoteForms.Field.Encoding
import NoteForms.Form.Basic
import NoteForms.Template.Encoding

/-!
# Forms as JSON
-/

namespace NoteForms

open Json

namespace NoteTemplate

/-- The template of a form as JSON. -/
def toJson (t : NoteTemplate) : Json :=
  .obj [("createCommand", .bool t.createCommand), ("parsedTemplate", t.template.toJson)]

/-- The template of a form from JSON. -/
def decode (v : Json) : Decoded NoteTemplate := do
  match ← parts "struct FormTemplate" v with
  | .named members => do
    let createCommand ← member? members "createCommand" decodeBool
    let template ← member? members "parsedTemplate" Template.decode
    let createCommand ← required "createCommand" createCommand
    return ⟨createCommand, ← required "parsedTemplate" template⟩
  | .listed items setAside => do
    let createCommand ← item "struct FormTemplate with 2 elements" items 0 decodeBool
    let template ← item "struct FormTemplate with 2 elements" items 1 Template.decode
    noMoreItems items setAside 2
    return ⟨createCommand, template⟩

end NoteTemplate

namespace Form

/-- The members of a form. -/
def members (f : Form) : List (String × Json) :=
  ("title", .str f.title) :: ("name", .str f.name)
    :: Json.optional "customClassname" .str f.className
    ++ ("version", .str formVersion) :: ("fields", .arr (f.fields.map Field.toJson))
      :: Json.optional "template" NoteTemplate.toJson f.template

/-- A form as JSON. -/
def toJson (f : Form) : Json := .obj f.members

/-- The version of a form from JSON, of which there is one. -/
def decodeVersion : Json → Decoded Unit := decodeChoice false [(formVersion, ())]

/-- What an array that is too short for a form is told. -/
def expectedParts : String := "struct FormDefinition with 6 elements"

/-- A form from JSON. -/
def decode (v : Json) : Decoded Form := do
  match ← parts "struct FormDefinition" v with
  | .named members => do
    let className ← member? members "customClassname" (decodeOptional decodeString)
    let fields ← member? members "fields" (decodeList Field.decode)
    let name ← member? members "name" decodeString
    let template ← member? members "template" (decodeOptional NoteTemplate.decode)
    let title ← member? members "title" decodeString
    let version ← member? members "version" decodeVersion
    let title ← required "title" title
    let name ← required "name" name
    required "version" version
    let fields ← required "fields" fields
    return ⟨title, name, className.join, fields, template.join⟩
  | .listed items setAside => do
    let title ← item expectedParts items 0 decodeString
    let name ← item expectedParts items 1 decodeString
    let className ← item? items 2 (decodeOptional decodeString)
    item expectedParts items 3 decodeVersion
    let fields ← item expectedParts items 4 (decodeList Field.decode)
    let template ← item? items 5 (decodeOptional NoteTemplate.decode)
    noMoreItems items setAside 6
    return ⟨title, name, className.join, fields, template.join⟩

end Form

end NoteForms
