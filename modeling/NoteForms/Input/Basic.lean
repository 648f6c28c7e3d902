import NoteForms.Number.Bound
import NoteForms.Text.Blank

/-!
# Inputs

An input says how a field is filled in: one of nine plain kinds, or a kind with a payload of its
own, such as the bounds of a slider or the options of a choice.
-/

namespace NoteForms

/-- The kinds of input that have no payload but whether they are hidden. -/
inductive BasicKind
  | text
  | number
  | date
  | time
  | datetime
  | textarea
  | toggle
  | email
  | tel
  deriving DecidableEq

/-- The kinds of input. -/
inductive InputKind
  | basic (kind : BasicKind)
  | tag
  | slider
  | note
  | folder
  | dataview
  | select
  | multiselect
  | documentBlock
  deriving DecidableEq

/-- The name of a plain kind. -/
def BasicKind.name : BasicKind → String
  | .text => "text"
  | .number => "number"
  | .date => "date"
  | .time => "time"
  | .datetime => "datetime"
  | .textarea => "textarea"
  | .toggle => "toggle"
  | .email => "email"
  | .tel => "tel"

namespace InputKind

/-- Every kind of input. -/
def all : List InputKind :=
  [.basic .text, .basic .number, .basic .date, .basic .time, .basic .datetime, .basic .textarea,
    .basic .toggle, .basic .email, .basic .tel, .tag, .slider, .note, .folder, .dataview, .select,
    .multiselect, .documentBlock]

/-- The name of a kind. -/
def name : InputKind → String
  | .basic kind => kind.name
  | .tag => "tag"
  | .slider => "slider"
  | .note => "note"
  | .folder => "folder"
  | .dataview => "dataview"
  | .select => "select"
  | .multiselect => "multiselect"
  | .documentBlock => "document_block"

/-- The kind of a name. -/
def ofName? (name : String) : Option InputKind := all.find? fun kind => kind.name == name

/-- Whether answers of the kind are lists. -/
def isList (kind : InputKind) : Bool := kind = .multiselect || kind = .tag

/-- Whether a text answered to the kind is read as a number if it is one. -/
def isNumeric (kind : InputKind) : Bool := kind = .basic .number || kind = .slider

end InputKind

/-- An option of a choice. -/
structure SelectOption where
  value : String
  label : Option String
  deriving DecidableEq

/-- A label if it is there and not blank, and otherwise the text it would stand for. -/
def labelOr (label : Option String) (fallback : String) : String :=
  match label with
  | some s => if Text.isBlankText s then fallback else s
  | none => fallback

/-- An option as it is shown. -/
def SelectOption.display (o : SelectOption) : String := labelOr o.label o.value

/-- Where the options of a single choice come from. -/
inductive SelectSource
  | notes (folder : String)
  | fixed (options : List SelectOption)
  deriving DecidableEq

/-- Where the options of a multiple choice come from. -/
inductive MultiselectSource
  | notes (folder : String)
  | fixed (options : List String) (allowUnknown : Bool)
  | dataview (query : String) (allowUnknown : Bool)
  deriving DecidableEq

/-- How a field is filled in. -/
inductive Input
  | basic (kind : BasicKind) (hidden : Option Bool)
  | tag (exclude : Option String)
  | slider (min max : Bound)
  | note (folder : String)
  | folder
  | dataview (query : String)
  | select (source : SelectSource)
  | multiselect (source : MultiselectSource)
  | documentBlock (body : String)
  deriving DecidableEq

namespace Input

/-- The kind of an input. -/
def kind : Input → InputKind
  | .basic kind _ => .basic kind
  | .tag _ => .tag
  | .slider _ _ => .slider
  | .note _ => .note
  | .folder => .folder
  | .dataview _ => .dataview
  | .select _ => .select
  | .multiselect _ => .multiselect
  | .documentBlock _ => .documentBlock

/-- The plain input of a kind, if the kind is plain. -/
def ofKind? : InputKind → Option Input
  | .basic kind => some (.basic kind none)
  | _ => none

/-- Whether the input is never shown. -/
def isHidden : Input → Bool
  | .basic _ hidden => hidden.getD false
  | _ => false

/-- Whether the input is plain. -/
def isBasic : Input → Bool
  | .basic _ _ => true
  | _ => false

end Input

end NoteForms
