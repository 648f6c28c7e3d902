import NoteForms.Form.Entry
import NoteForms.Form.Example
import NoteForms.Text.Blank

/-!
# Settings

The settings hold where the form editor opens and a collection of forms.  Loading them brings every
form to the current version and drops what is no form.
-/

namespace NoteForms

/-- Where the form editor opens. -/
inductive EditorPosition
  | left
  | right
  | mainView
  deriving DecidableEq

namespace EditorPosition

/-- The name of a position. -/
def name : EditorPosition → String
  | .left => "left"
  | .right => "right"
  | .mainView => "mainView"

/-- The position of a name; any other text stands for the right. -/
def ofText (text : String) : EditorPosition :=
  match Text.trim text with
  | "left" => .left
  | "mainView" => .mainView
  | _ => .right

/-- The position that a stored value stands for; anything but a text stands for the right. -/
def ofJson : Json → EditorPosition
  | .str text => ofText text
  | _ => .right

end EditorPosition

/-- The settings. -/
structure Settings where
  position : EditorPosition
  entries : List Entry

namespace Settings

/-- The settings without any form. -/
def empty : Settings := ⟨.right, []⟩

/-- The settings with the example form. -/
def withExample : Settings := ⟨.right, [.usable exampleForm]⟩

/-- The usable forms. -/
def forms (s : Settings) : List Form := usableForms s.entries

/-- The first usable form of a name. -/
def findForm? (s : Settings) (name : String) : Option Form := NoteForms.findForm? s.entries name

/-- Entries with a form in the place of the first of its name, or else behind them. -/
def upsertEntry (form : Form) : List Entry → List Entry
  | [] => [.usable form]
  | entry :: entries =>
    if entry.name = form.name then .usable form :: entries else entry :: upsertEntry form entries

/-- The settings with a form added or replaced. -/
def upsert (s : Settings) (form : Form) : Settings :=
  { s with entries := upsertEntry form s.entries }

/-- The settings as JSON. -/
def toJson (s : Settings) : Json :=
  .obj [("editorPosition", .str s.position.name),
    ("formDefinitions", .arr (s.entries.map Entry.toJson))]

end Settings

/-! ## Loading -/

/-- Settings as they are stored, with no form looked at. -/
structure StoredSettings where
  position : EditorPosition
  forms : List Json

section Decoding

open Json

/-- Stored settings from JSON.  Only the list of forms can be of a wrong type. -/
def StoredSettings.decode (v : Json) : Decoded StoredSettings := do
  match ← parts "struct RawSettings" v with
  | .named members => do
    let position ← member? members "editorPosition" fun v => .ok (EditorPosition.ofJson v)
    let forms ← member? members "formDefinitions" (decodeList .ok)
    return ⟨position.getD .right, forms.getD []⟩
  | .listed items setAside => do
    let position ← item? items 0 fun v => .ok (EditorPosition.ofJson v)
    let forms ← item? items 1 (decodeList .ok)
    noMoreItems items setAside 2
    return ⟨position.getD .right, forms.getD []⟩

end Decoding

/-- What loading settings found. -/
structure LoadReport where
  settings : Settings
  /-- What was dropped because it is no form. -/
  invalid : List NotAForm
  /-- The names of the forms that were brought to the current version. -/
  migrated : List String

namespace LoadReport

/-- Nothing found, and nothing to report. -/
def empty : LoadReport := ⟨.empty, [], []⟩

/-- Whether saving the settings would change what is stored. -/
def needsMigration (r : LoadReport) : Bool := !r.migrated.isEmpty || !r.invalid.isEmpty

/-- The forms that need a fix by hand. -/
def broken (r : LoadReport) : List Entry := r.settings.entries.filter fun e => !e.isUsable

/-- A report with one more stored form. -/
def addForm (faultOf : String → Option String) (r : LoadReport) (raw : Json) : LoadReport :=
  match Entry.ofJson faultOf raw with
  | .error invalid => { r with invalid := r.invalid ++ [invalid] }
  | .ok entry =>
    let settings := { r.settings with entries := r.settings.entries ++ [entry] }
    if entry.isUsable && NoteForms.needsMigration faultOf raw then
      { r with settings := settings, migrated := r.migrated ++ [entry.name] }
    else { r with settings := settings }

/-- The report on stored settings. -/
def ofStored (faultOf : String → Option String) (stored : StoredSettings) : LoadReport :=
  stored.forms.foldl (addForm faultOf) ⟨⟨stored.position, []⟩, [], []⟩

/-- The report on a stored value. -/
def ofJson (faultOf : String → Option String) (raw : Json) : Json.Decoded LoadReport :=
  (StoredSettings.decode raw).map (ofStored faultOf)

end LoadReport

end NoteForms
