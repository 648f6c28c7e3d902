import NoteForms.Input.Basic
import NoteForms.Json.Decode

/-!
# Inputs as JSON

An input is an object with a type; the two kinds of choice have a second tag for their source.
-/

namespace NoteForms

open Json

namespace SelectOption

/-- An option as JSON. -/
def toJson (o : SelectOption) : Json :=
  .obj (("value", .str o.value) :: optional "label" .str o.label)

/-- An option from JSON; it is always part of a tagged structure. -/
def decode (v : Json) : Decoded SelectOption := do
  match ← innerParts "struct SelectOption" v with
  | .named members => do
    let label ← member? members "label" (decodeOptional decodeString)
    let value ← member? members "value" decodeString
    return ⟨← required "value" value, label.join⟩
  | .listed items setAside => do
    let value ← item "struct SelectOption with 2 elements" items 0 decodeString
    let label ← item? items 1 (decodeOptional decodeString)
    noMoreItems items setAside 2
    return ⟨value, label.join⟩

end SelectOption

namespace SelectSource

/-- The members of a source. -/
def members : SelectSource → List (String × Json)
  | .notes folder => [("source", .str "notes"), ("folder", .str folder)]
  | .fixed options =>
    [("source", .str "fixed"), ("options", .arr (options.map SelectOption.toJson))]

/-- The tags of the sources. -/
inductive Tag
  | notes
  | fixed

/-- A source from the parts of its input. -/
def decode (p : Parts) : Decoded SelectSource := do
  let (tag, p) ← taggedParts true "internally tagged enum SelectInput" "source"
    [("notes", Tag.notes), ("fixed", Tag.fixed)] p.toJson
  match tag with
  | .notes => (p.single "struct variant SelectInput::Notes" "folder" decodeString).map .notes
  | .fixed =>
    (p.single "struct variant SelectInput::Fixed" "options"
      (decodeList SelectOption.decode)).map .fixed

end SelectSource

namespace MultiselectSource

/-- The members of a source. -/
def members : MultiselectSource → List (String × Json)
  | .notes folder => [("source", .str "notes"), ("folder", .str folder)]
  | .fixed options allowUnknown =>
    [("source", .str "fixed"), ("multi_select_options", ofStrings options),
      ("allowUnknownValues", .bool allowUnknown)]
  | .dataview query allowUnknown =>
    [("source", .str "dataview"), ("query", .str query),
      ("allowUnknownValues", .bool allowUnknown)]

/-- The tags of the sources. -/
inductive Tag
  | notes
  | fixed
  | dataview

/-- Fixed options from their parts. -/
def decodeFixed : Parts → Decoded MultiselectSource
  | .named members => do
    let allowUnknown ← member? members "allowUnknownValues" decodeBool
    let options ← member? members "multi_select_options" (decodeList decodeString)
    return .fixed (← required "multi_select_options" options) (allowUnknown.getD false)
  | .listed items setAside => do
    let options ← item "struct variant MultiselectInput::Fixed with 2 elements" items 0
      (decodeList decodeString)
    let allowUnknown ← item? items 1 decodeBool
    noMoreItems items setAside 2
    return .fixed options (allowUnknown.getD false)

/-- A query from its parts. -/
def decodeDataview : Parts → Decoded MultiselectSource
  | .named members => do
    let allowUnknown ← member? members "allowUnknownValues" decodeBool
    let query ← member? members "query" decodeString
    return .dataview (← required "query" query) (allowUnknown.getD false)
  | .listed items setAside => do
    let query ← item "struct variant MultiselectInput::Dataview with 2 elements" items 0
      decodeString
    let allowUnknown ← item? items 1 decodeBool
    noMoreItems items setAside 2
    return .dataview query (allowUnknown.getD false)

/-- A source from the parts of its input. -/
def decode (p : Parts) : Decoded MultiselectSource := do
  let (tag, p) ← taggedParts true "internally tagged enum MultiselectInput" "source"
    [("notes", Tag.notes), ("fixed", Tag.fixed), ("dataview", Tag.dataview)] p.toJson
  match tag with
  | .notes =>
    (p.single "struct variant MultiselectInput::Notes" "folder" decodeString).map .notes
  | .fixed => decodeFixed p
  | .dataview => decodeDataview p

end MultiselectSource

namespace Input

/-- The members behind the type of an input. -/
def members : Input → List (String × Json)
  | .basic _ hidden => optional "hidden" .bool hidden
  | .tag exclude => optional "exclude" .str exclude
  | .slider min max => [("min", ofBound min), ("max", ofBound max)]
  | .note directory => [("folder", .str directory)]
  | .folder => []
  | .dataview query => [("query", .str query)]
  | .select source => source.members
  | .multiselect source => source.members
  | .documentBlock body => [("body", .str body)]

/-- An input as JSON. -/
def toJson (i : Input) : Json := .obj (("type", .str i.kind.name) :: i.members)

/-- The bounds of a slider from their parts. -/
def decodeSlider : Parts → Decoded Input
  | .named members => do
    let max ← member? members "max" decodeNumber
    let min ← member? members "min" decodeNumber
    let min ← required "min" min
    return .slider min (← required "max" max)
  | .listed items setAside => do
    let min ← item "struct SliderInput with 2 elements" items 0 decodeNumber
    let max ← item "struct SliderInput with 2 elements" items 1 decodeNumber
    noMoreItems items setAside 2
    return .slider min max

/-- An input from JSON. -/
def decode (v : Json) : Decoded Input := do
  let (kind, p) ← taggedParts false "internally tagged enum InputDefinition" "type"
    (InputKind.all.map fun kind => (kind.name, kind)) v
  match kind with
  | .basic kind => (p.singleOptional "hidden" decodeBool).map (.basic kind)
  | .tag => (p.singleOptional "exclude" decodeString).map .tag
  | .slider => decodeSlider p
  | .note => (p.single "struct NoteInput" "folder" decodeString).map .note
  | .folder => p.none.map fun _ => .folder
  | .dataview => (p.single "struct DataviewInput" "query" decodeString).map .dataview
  | .select => (SelectSource.decode p).map .select
  | .multiselect => (MultiselectSource.decode p).map .multiselect
  | .documentBlock =>
    (p.single "struct DocumentBlockInput" "body" decodeString).map .documentBlock

end Input

end NoteForms
