/-!
# Arguments of a command line

A command line is a list of words.  Each command has options, which are named, and positions, which
are filled in order; the words are taken one after the other, and an option that has a value takes
it from its own word behind an equals sign or from the word that follows.

The value of an argument is looked at only when the next argument begins or the words end, so of two
faults the one that is noticed first is reported.
-/

namespace NoteForms.CommandLine

/-- What is wrong with the words of a command line, or asked for in the place of a command. -/
inductive UsageFault
  | helpAsked
  | versionAsked
  | nothingAsked
  | missingCommand
  | unknownCommand
  | missingArgument
  | unknownArgument
  | repeatedArgument
  | unexpectedValue
  | badValue
  deriving DecidableEq

/-- The arguments of all commands. -/
inductive Argument
  | help
  | version
  | plain
  | quiet
  | settings
  | form
  | write
  | format
  | defaults
  | data
  | source
  | path
  | force
  deriving DecidableEq

/-- An argument that is given by name. -/
structure NamedOption where
  argument : Argument
  name : String
  letter : Option Char
  takesValue : Bool

namespace NamedOption

/-- An option that is there or not. -/
def flag (argument : Argument) (name : String) (letter : Option Char := none) : NamedOption :=
  ⟨argument, name, letter, false⟩

/-- An option that has a value. -/
def valued (argument : Argument) (name : String) : NamedOption := ⟨argument, name, none, true⟩

end NamedOption

/-- The arguments that a command has. -/
structure Signature where
  options : List NamedOption
  positions : List Argument

namespace Signature

/-- The option of a name. -/
def named? (s : Signature) (name : String) : Option NamedOption :=
  s.options.find? fun o => o.name == name

/-- The option of a letter. -/
def lettered? (s : Signature) (letter : Char) : Option NamedOption :=
  s.options.find? fun o => o.letter == some letter

end Signature

/-! ## Words -/

/-- What a word is by its looks. -/
inductive Word
  /-- Two hyphens, behind which no word names an option. -/
  | endOfOptions
  /-- The name of an option, and what stands behind an equals sign. -/
  | name (name : String) (value : Option String)
  /-- The letters of options. -/
  | letters (cs : List Char)
  | value (text : String)

namespace Word

/-- A name with the value that may stand behind it. -/
def ofName (cs : List Char) : Word :=
  match cs.dropWhile (· != '=') with
  | [] => .name (String.ofList cs) none
  | _ :: rest => .name (String.ofList (cs.takeWhile (· != '='))) (some (String.ofList rest))

/-- What a word is by its looks. -/
def ofText (text : String) : Word :=
  match text.toList with
  | ['-', '-'] => .endOfOptions
  | '-' :: '-' :: cs => ofName cs
  | ['-'] => .value text
  | '-' :: cs => .letters cs
  | _ => .value text

end Word

/-! ## Taking words -/

/-- The arguments given, each with its value. -/
abbrev Given := List (Argument × String)

/-- An argument whose value has not been looked at, if it has one yet. -/
structure Pending where
  argument : Argument
  value : Option String

/-- What was taken of the words of a command. -/
structure Taken where
  given : Given
  pending : Option Pending
  /-- Whether the next word is the value of the option that is pending. -/
  isAwaiting : Bool
  /-- Whether no more options may come. -/
  isTrailing : Bool
  positions : List Argument

/-- A check of the values of arguments. -/
abbrev ValueCheck := Argument → String → Bool

namespace Taken

/-- Nothing taken yet. -/
def start (s : Signature) : Taken := ⟨[], none, false, false, s.positions⟩

/-- Whether an argument was given. -/
def has (t : Taken) (a : Argument) : Bool := t.given.any fun g => g.1 = a

/-- An argument with its value looked at: it must not have been given before. -/
def give (check : ValueCheck) (t : Taken) (a : Argument) (value : String) :
    Except UsageFault Taken :=
  if t.has a then .error .repeatedArgument
  else if check a value then .ok { t with given := t.given ++ [(a, value)] }
  else .error .badValue

/-- The argument that is pending looked at. -/
def settle (check : ValueCheck) (t : Taken) : Except UsageFault Taken :=
  match t.pending with
  | none => .ok t
  | some ⟨a, some value⟩ => ({ t with pending := none }).give check a value
  | some ⟨_, none⟩ => .error .badValue

/-- A flag taken. -/
def takeFlag (check : ValueCheck) (t : Taken) (a : Argument) : Except UsageFault Taken := do
  let t ← t.settle check
  match a with
  | .help => throw .helpAsked
  | .version => throw .versionAsked
  | a => ({ t with isAwaiting := false }).give check a ""

/-- An option taken, with the value in its own word. -/
def takeOption (check : ValueCheck) (t : Taken) (o : NamedOption) (value : Option String) :
    Except UsageFault Taken :=
  match o.takesValue, value with
  | false, some _ => .error .unexpectedValue
  | false, none => t.takeFlag check o.argument
  | true, some value => do
    let t ← t.settle check
    ({ t with isAwaiting := false }).give check o.argument value
  | true, none => do
    let t ← t.settle check
    return { t with pending := some ⟨o.argument, none⟩, isAwaiting := true }

/-- Letters taken, all of which must be those of flags. -/
def takeLetters (check : ValueCheck) (s : Signature) (t : Taken) :
    List Char → Except UsageFault Taken
  | [] => .ok t
  | c :: cs =>
    match s.lettered? c with
    | some o => do
      let t ← t.takeFlag check o.argument
      t.takeLetters check s cs
    | none => .error .unknownArgument

/-- A word taken for the next position. -/
def takePosition (check : ValueCheck) (t : Taken) (text : String) : Except UsageFault Taken :=
  match t.positions with
  | [] => .error .unknownArgument
  | a :: positions => do
    let t ← t.settle check
    return { t with pending := some ⟨a, some text⟩, positions := positions, isAwaiting := false }

/-- A word that names no option taken: the value that is awaited, or the next position. -/
def takeValue (check : ValueCheck) (t : Taken) (text : String) : Except UsageFault Taken :=
  match t.isAwaiting, t.pending with
  | true, some p =>
    .ok { t with pending := some { p with value := some text }, isAwaiting := false }
  | _, _ => t.takePosition check text

/-- A word taken. -/
def take (check : ValueCheck) (s : Signature) (t : Taken) (text : String) :
    Except UsageFault Taken :=
  if t.isTrailing then t.takePosition check text
  else
    match Word.ofText text with
    | .endOfOptions => .ok { t with isTrailing := true }
    | .name name value =>
      match s.named? name with
      | some o => t.takeOption check o value
      | none => .error .unknownArgument
    | .letters cs => t.takeLetters check s cs
    | .value text => t.takeValue check text

end Taken

/-- The arguments that the words of a command give. -/
def Signature.readWords (s : Signature) (check : ValueCheck) (words : List String) :
    Except UsageFault Given := do
  let t ← words.foldlM (Taken.take check s) (Taken.start s)
  return (← t.settle check).given

end NoteForms.CommandLine
