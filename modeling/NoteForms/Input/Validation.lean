import NoteForms.Input.Basic
import NoteForms.Json.Printer
import NoteForms.Validation.Members

/-!
# Validating inputs

A raw input is an object with a known type whose payload passes the checks of that type.  Patterns
are checked by a function that gives the fault of a pattern, if it has one.

The two kinds of choice have several shapes, told apart by their source.  The shapes are tried one
after the other, and the first that a raw value passes is taken.  Meanwhile the issues that would be
reported are kept: those of the first shape, until the one comes that the source names.
-/

namespace NoteForms

/-- Why a raw value is no input. -/
inductive InputError
  /-- It is no object with a text for its type. -/
  | structure (issues : List Issue)
  /-- Its type is not known. -/
  | unknownType (name : String)
  /-- Its payload does not pass the checks of its type. -/
  | payload (kind : InputKind) (issues : List Issue)

namespace InputError

/-- The words of an error. -/
def message : InputError → String
  | .structure issues => "Invalid input definition: " ++ summarize issues
  | .unknownType name => "Invalid input type \"" ++ name ++ "\""
  | .payload kind issues => "Invalid " ++ kind.name ++ " input: " ++ summarize issues

/-- The issues of an error.  An unknown type is an issue found under `base`; the others keep the
place that they were found at. -/
def issuesUnder (base : KeyPath) : InputError → List Issue
  | .structure issues => issues
  | .unknownType name => [⟨base ++ ["type"], "unknown input type \"" ++ name ++ "\"", none⟩]
  | .payload _ issues => issues

end InputError

namespace Input

/-! ## Payloads -/

/-- The text that the value of an option is given by: a text without blanks around it, a number or a
truth value. -/
def optionText? : Json → Option String
  | .str s => some (Text.trim s)
  | .num n => some (String.ofList n.write)
  | .bool b => some (if b then "true" else "false")
  | _ => none

/-- The value of an option. -/
def optionValue (members : Members) (base : KeyPath) : Validated String :=
  match lookup "value" members with
  | none => .issueAt base "value" "is required"
  | some v =>
    match optionText? v with
    | none => .issueAt base "value" (expectedMessage "a string" v)
    | some s => if s.isEmpty then .issueAt base "value" "must not be empty" else .valid s

/-- An option of a single choice. -/
def selectOption (base : KeyPath) (v : Json) : Validated SelectOption :=
  (Members.ofJson base v).andThen fun members =>
    SelectOption.mk <$> optionValue members base <*> members.optionalText base "label"

/-- The options of a single choice. -/
def selectOptions (members : Members) (base : KeyPath) : Validated (List SelectOption) :=
  (members.array base "options").andThen (Validated.items selectOption (base ++ ["options"]) 0)

/-- A text of a list. -/
def listedText (base : KeyPath) : Json → Validated String
  | .str s => .valid s
  | v => .issue base (expectedMessage "a string" v)

/-- A list of texts. -/
def textList (members : Members) (base : KeyPath) (key : String) : Validated (List String) :=
  (members.array base key).andThen (Validated.items listedText (base ++ [key]) 0)

/-- A pattern that may be missing. -/
def pattern (faultOf : String → Option String) (members : Members) (base : KeyPath) :
    Validated (Option String) :=
  (members.optionalText base "exclude").andThen fun exclude =>
    match exclude.bind faultOf with
    | some fault => .issueAt base "exclude" ("invalid regular expression: " ++ fault)
    | none => .valid exclude

/-! ## Shapes -/

/-- A shape of a choice: the source that names it, and the check of what else it needs. -/
structure Shape (α : Type) where
  source : String
  payload : Members → KeyPath → Validated α

/-- The check of a raw value against a shape: its source first, then the rest. -/
def Shape.attempt {α : Type} (s : Shape α) (members : Members) (base : KeyPath) : Validated α :=
  (fun _ a => a) <$> members.literal base "source" s.source <*> s.payload members base

/-- The source that a raw value names, if it is a text. -/
def sourceOf? (members : Members) : Option String :=
  match lookup "source" members with
  | some (.str s) => some s
  | _ => none

/-- The issues that are to be reported so far, and whether they stand against the shape that the
source names. -/
structure Reported where
  issues : List Issue
  isNamed : Bool

/-- What is to be reported behind a shape that was refused: the issues against it take the place of
others if they are the first, or if only they stand against the shape that the source names. -/
def Reported.next (members : Members) (source : String) (issues : List Issue) :
    Option Reported → Reported
  | none => ⟨issues, sourceOf? members == some source⟩
  | some r =>
    if (sourceOf? members == some source) && !r.isNamed then ⟨issues, true⟩ else r

/-- Trying shapes one after the other, from what is to be reported of those before. -/
def tryInTurn {α : Type} (members : Members) (base : KeyPath) :
    Option Reported → List (Shape α) → Validated α
  | reported, [] => .invalid ((reported.map (·.issues)).getD [])
  | reported, s :: shapes =>
    match s.attempt members base with
    | .valid a => .valid a
    | .invalid issues =>
      tryInTurn members base (Reported.next members s.source issues reported) shapes

/-- The first shape that a raw value passes, or the issues to report if it passes none. -/
def firstMatch {α : Type} (members : Members) (base : KeyPath) (shapes : List (Shape α)) :
    Validated α := tryInTurn members base none shapes

/-- The shapes of a single choice. -/
def selectShapes : List (Shape SelectSource) :=
  [⟨"notes", fun members base => .notes <$> members.nonBlankText base "folder"⟩,
    ⟨"fixed", fun members base => .fixed <$> selectOptions members base⟩]

/-- Whether answers other than the options are allowed. -/
def allowUnknown (members : Members) (base : KeyPath) : Validated Bool :=
  (·.getD false) <$> members.optionalFlag base "allowUnknownValues"

/-- The shapes of a multiple choice. -/
def multiselectShapes : List (Shape MultiselectSource) :=
  [⟨"notes", fun members base => .notes <$> members.nonBlankText base "folder"⟩,
    ⟨"fixed", fun members base =>
      .fixed <$> textList members base "multi_select_options" <*> allowUnknown members base⟩,
    ⟨"dataview", fun members base => .dataview <$> members.nonBlankText base "query"
      <*> allowUnknown members base⟩]

/-! ## Inputs -/

/-- The payload of an input of some kind. -/
def payload (faultOf : String → Option String) (members : Members) (base : KeyPath) :
    InputKind → Validated Input
  | .basic kind => .basic kind <$> members.optionalFlag base "hidden"
  | .tag => .tag <$> pattern faultOf members base
  | .slider => (fun min max => .slider (.finite min) (.finite max)) <$> members.number base "min"
      <*> members.number base "max"
  | .note => .note <$> members.nonBlankText base "folder"
  | .folder => .valid .folder
  | .dataview => .dataview <$> members.nonBlankText base "query"
  | .select => .select <$> firstMatch members base selectShapes
  | .multiselect => .multiselect <$> firstMatch members base multiselectShapes
  | .documentBlock => .documentBlock <$> members.text base "body"

/-- The name of the type of a raw input.  Here null is a value like any other. -/
def typeName (members : Members) (base : KeyPath) : Validated String :=
  match lookup "type" members with
  | some (.str name) => .valid name
  | some v => .issueAt base "type" (expectedMessage "a string" v)
  | none => .issueAt base "type" "is required"

/-- The input that a raw value at a path stands for. -/
def validateAt (faultOf : String → Option String) (base : KeyPath) (raw : Json) :
    Except InputError Input :=
  match Members.ofJson base raw with
  | .invalid issues => .error (.structure issues)
  | .valid members =>
    match typeName members base with
    | .invalid issues => .error (.structure issues)
    | .valid name =>
      match InputKind.ofName? name with
      | none => .error (.unknownType name)
      | some kind =>
        match payload faultOf members base kind with
        | .valid input => .ok input
        | .invalid issues => .error (.payload kind issues)

/-- The input that a raw value stands for. -/
def validate (faultOf : String → Option String) (raw : Json) : Except InputError Input :=
  validateAt faultOf [] raw

end Input

end NoteForms
