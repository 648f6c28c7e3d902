import NoteForms.CommandLine.Argument
import NoteForms.Outcome.Format
import NoteForms.Storage.Path

/-!
# Commands

The commands, the arguments of each, and how the words of a command line are read as a request.
-/

namespace NoteForms.CommandLine

/-- What is to be done. -/
inductive Command
  /-- Reports on every form of the settings; may save the migrated forms. -/
  | check (settings : Path) (write : Bool)
  /-- Fills in a form and writes the outcome. -/
  | fill (settings : Path) (form : String) (format : OutcomeFormat) (defaults : Option Path)
  /-- Writes the note that a form makes of the answers in a file. -/
  | render (settings : Path) (form : String) (data : Path)
  /-- Shows what a template is read as, and whether a form has fields for its variables. -/
  | template (source : String) (form : Option (Path × String))
  /-- Makes settings with the example form. -/
  | init (path : Option Path) (force : Bool)

/-- A command, and how its messages are shown. -/
structure Request where
  /-- Whether messages have no colours. -/
  isPlain : Bool
  /-- Whether only problems are shown. -/
  isQuiet : Bool
  command : Command

/-- The names of the commands. -/
inductive CommandName
  | check
  | fill
  | render
  | template
  | init
  deriving DecidableEq

namespace CommandName

/-- The command that a word names. -/
def ofText? : String → Option CommandName
  | "check" => some .check
  | "fill" => some .fill
  | "render" => some .render
  | "template" => some .template
  | "init" => some .init
  | _ => none

end CommandName

/-- The word that asks for help on a command. -/
def helpWord : String := "help"

/-! ## Signatures -/

/-- The options that every command has, and that may stand before the command as well. -/
def commonOptions : List NamedOption :=
  [.flag .plain "plain", .flag .quiet "quiet" (some 'q'), .flag .help "help" (some 'h')]

/-- What may stand before the command. -/
def leadingSignature : Signature :=
  ⟨commonOptions ++ [.flag .version "version" (some 'V')], []⟩

/-- The arguments of a command. -/
def CommandName.signature (name : CommandName) : Signature :=
  let own : Signature :=
    match name with
    | .check => ⟨[.flag .write "write"], [.settings]⟩
    | .fill => ⟨[.valued .format "format", .valued .defaults "defaults"], [.settings, .form]⟩
    | .render => ⟨[], [.settings, .form, .data]⟩
    | .template => ⟨[.valued .settings "settings", .valued .form "form"], [.source]⟩
    | .init => ⟨[.flag .force "force"], [.path]⟩
  { own with options := own.options ++ commonOptions }

/-- The formats by name. -/
def formats : List (String × OutcomeFormat) :=
  [("frontmatter", .frontmatter), ("dataview", .properties), ("bullets", .bullets),
    ("json", .json), ("template", .note)]

/-- Whether a value is one that an argument can have: the name of a format, or a path that is not
empty. -/
def isValue : ValueCheck
  | .format, value => (lookup value formats).isSome
  | .settings, value => !value.isEmpty
  | .defaults, value => !value.isEmpty
  | .data, value => !value.isEmpty
  | .path, value => !value.isEmpty
  | _, _ => true

/-! ## Reading -/

namespace Given

/-- The value of an argument, if it was given. -/
def value? (given : Given) (a : Argument) : Option String :=
  (given.find? fun g => g.1 = a).map (·.2)

/-- Whether an argument was given. -/
def has (given : Given) (a : Argument) : Bool := (Given.value? given a).isSome

/-- The value of an argument that must be given. -/
def need (given : Given) (a : Argument) : Except UsageFault String :=
  match Given.value? given a with
  | some value => .ok value
  | none => .error .missingArgument

/-- The path of an argument, if it was given. -/
def path? (given : Given) (a : Argument) : Option Path := (Given.value? given a).map Path.mk

/-- The path of an argument that must be given. -/
def needPath (given : Given) (a : Argument) : Except UsageFault Path :=
  (Given.need given a).map Path.mk

/-- The form to check a template against, which settings need. -/
def templateForm (given : Given) : Except UsageFault (Option (Path × String)) :=
  match Given.path? given .settings with
  | none => .ok none
  | some settings => (Given.need given .form).map fun form => some (settings, form)

/-- The command of a name with the arguments given. -/
def toCommand (given : Given) : CommandName → Except UsageFault Command
  | .check => do return .check (← Given.needPath given .settings) (Given.has given .write)
  | .fill => do
    let settings ← Given.needPath given .settings
    let form ← Given.need given .form
    let format := ((Given.value? given .format).bind fun name => lookup name formats).getD .note
    return .fill settings form format (Given.path? given .defaults)
  | .render => do
    let settings ← Given.needPath given .settings
    let form ← Given.need given .form
    return .render settings form (← Given.needPath given .data)
  | .template => do
    let source ← Given.need given .source
    return .template source (← Given.templateForm given)
  | .init => .ok (.init (Given.path? given .path) (Given.has given .force))

end Given

/-- The help that is asked for behind the word for it: on a command, or on all. -/
def helpOn : List String → UsageFault
  | [] => .helpAsked
  | [word] =>
    if word == helpWord || (CommandName.ofText? word).isSome then .helpAsked else .unknownCommand
  | _ => .unknownCommand

/-- The request of a command with the words behind it. -/
def readCommand (leading : Given) (name : CommandName) (words : List String) :
    Except UsageFault Request := do
  let given ← name.signature.readWords isValue words
  let command ← Given.toCommand given name
  let all := leading ++ given
  return ⟨Given.has all .plain, Given.has all .quiet, command⟩

/-- What is wrong when the words end without a command. -/
def withoutCommand (leading : Given) : UsageFault :=
  if leading.isEmpty then .nothingAsked else .missingCommand

/-- What is wrong with a word that is taken for a command.  Behind two hyphens, the name of one is
not looked for. -/
def noCommand (isTrailing : Bool) (word : String) : UsageFault :=
  if isTrailing && (word == helpWord || (CommandName.ofText? word).isSome) then .unknownArgument
  else .unknownCommand

/-- The request of a command line behind some options. -/
def readFrom (t : Taken) : List String → Except UsageFault Request
  | [] => .error (withoutCommand t.given)
  | word :: words =>
    match t.isTrailing, CommandName.ofText? word with
    | false, some name => readCommand t.given name words
    | _, _ =>
      if !t.isTrailing && word == helpWord then .error (helpOn words)
      else
        match Word.ofText word with
        | .value _ => .error (noCommand t.isTrailing word)
        | _ =>
          if t.isTrailing then .error (noCommand true word)
          else do
            let t ← t.take isValue leadingSignature word
            readFrom t words

/-- The request of a command line. -/
def Request.ofWords (words : List String) : Except UsageFault Request :=
  readFrom (Taken.start leadingSignature) words

end NoteForms.CommandLine
