import NoteForms.Answer.Reader
import NoteForms.CommandLine.Command
import NoteForms.CommandLine.Fault
import NoteForms.Console.Message
import NoteForms.Interview.Run
import NoteForms.Interview.Transcript
import NoteForms.Template.Source

/-!
# Carrying out commands

A command reads and changes files and says something about it.  What it has done and said before it
fails stands.
-/

namespace NoteForms.CommandLine

/-- What a command finds beside the files. -/
structure Surroundings where
  /-- The directory in which programs keep the settings of a person. -/
  configuration : Path
  now : Stamp
  /-- The lines that answer in the place of a person. -/
  script : Option ByteArray

/-- What a command works on. -/
structure Desk where
  files : FileSystem
  said : List Saying

/-- The steps of a command. -/
abbrev Steps := ExceptT CommandFault (StateM Desk)

namespace Steps

/-- Says something. -/
def say (sayings : List Saying) : Steps Unit :=
  modify fun desk => { desk with said := desk.said ++ sayings }

/-- Says a message. -/
def tell (kind : MessageKind) (text : String) : Steps Unit := say [.message kind text]

/-- Steps with settings as steps of a command. -/
def keep (steps : Keeping α) : Steps α := fun desk =>
  match steps.run.run desk.files with
  | (.ok a, files) => (.ok a, { desk with files := files })
  | (.error fault, files) => (.error (.settings fault), { desk with files := files })

/-- The text of a file. -/
def readFile (path : Path) : Steps String := do
  match (← get).files.read path with
  | .ok text => return text
  | .error fault => throw (.files fault)

end Steps

open Steps

/-! ## Settings and forms -/

/-- The settings at a path, which must be there. -/
def existingSettings (path : Path) : Steps SettingsFile := do
  let file := SettingsFile.beside path
  if file.isThere (← get).files then return file else throw (.noSettings path)

/-- The settings at a path, with a warning if saving them would change them. -/
def loadSettings (path : Path) : Steps Settings := do
  let file ← existingSettings path
  let report ← keep file.load
  if report.needsMigration then
    tell .warning (path.text ++ " holds forms that need migrating; run \x60check --write\x60.")
  return report.settings

/-- The form of a name. -/
def loadForm (path : Path) (name : String) : Steps Form := do
  let settings ← loadSettings path
  match settings.entries.find? fun entry => entry.name == name with
  | some (.usable form) => return form
  | some (.broken _) => throw (.brokenForm name)
  | none => throw (.unknownForm name)

/-- The answers in a file. -/
def loadAnswers (path : Path) : Steps Answers := do
  let text ← readFile path
  match Answers.parse text with
  | .ok answers => return answers
  | .error message => throw (.data message)

/-! ## Commands -/

/-- What is said of a form of the settings. -/
def entrySaying (migrated : List String) : Entry → Saying
  | .usable form =>
    if migrated.contains form.name then
      .message .success (form.display ++ ": migrated to version " ++ formVersion)
    else .message .success (form.display ++ ": ok")
  | .broken form => .message .warning form.message

/-- How many forms there are of each sort. -/
def countsText (report : LoadReport) : String :=
  toString report.settings.forms.length ++ " usable, " ++ toString report.broken.length
    ++ " need a manual fix, " ++ toString report.invalid.length ++ " invalid"

/-- What is said of loaded settings. -/
def reportSayings (path : Path) (report : LoadReport) : List Saying :=
  .message .heading ("Forms in " ++ path.text)
    :: report.settings.entries.map (entrySaying report.migrated)
    ++ report.invalid.map (fun invalid => .message .failure invalid.message)
    ++ [.message .info (countsText report)]

/-- The note of the backup that is taken before migrated forms are saved. -/
def migrationNote : String := "before migration"

/-- The note of the backup that is taken before settings are replaced. -/
def initNote : String := "before init"

/-- Reports on the settings, and saves what loading changed if that is wanted. -/
def checkSettings (around : Surroundings) (path : Path) (write : Bool) : Steps Unit := do
  let file ← existingSettings path
  let report ← keep file.load
  say (reportSayings path report)
  if report.needsMigration then
    if write then
      let backup ← keep (file.backUp around.now migrationNote)
      keep (file.save report.settings)
      tell .success ("Saved migrated settings (backup " ++ backup ++ ").")
    else tell .info "Run again with --write to save the migrated forms."

/-- Who answers, and how the remarks of the interview are shown to them. -/
def Surroundings.respondent (around : Surroundings) :
    Respondent CommandFault × (Remark → List Saying) :=
  match around.script with
  | some script => (.ofScript (.files .notText) script, Remark.scripted)
  | none => (.absent .noTerminal, Remark.atTerminal)

/-- Fills in a form and writes the outcome. -/
def fillForm (around : Surroundings) (settings : Path) (formName : String) (format : OutcomeFormat)
    (defaults : Option Path) : Steps Unit := do
  let form ← loadForm settings formName
  let answers ← match defaults with
    | some path => loadAnswers path
    | none => pure ∅
  let (respondent, sayings) := around.respondent
  let (conclusion, remarks) := form.interview answers respondent
  say (remarks.flatMap sayings)
  match conclusion with
  | .failed fault => throw fault
  | .stuck name => throw (.stuck name)
  | .finished outcome =>
    if outcome.isOk then say [.document (form.present outcome format)]
    else tell .warning ("Form \"" ++ form.name ++ "\" was cancelled.")

/-- Writes the note that a form makes of some answers. -/
def renderNote (settings : Path) (formName : String) (data : Path) : Steps Unit := do
  let form ← loadForm settings formName
  let answers ← loadAnswers data
  match form.noteBody answers with
  | some body => say [.document body]
  | none => throw (.noTemplate form.name)

/-- The path of the file that a word names behind an at sign, if it does. -/
def sourcePath? (word : String) : Option Path :=
  match word.toList with
  | '@' :: path => some ⟨String.ofList path⟩
  | _ => none

/-- The source that a word stands for: itself, or the text of the file it names. -/
def sourceOf (word : String) : Steps String :=
  match sourcePath? word with
  | some path => readFile path
  | none => pure word

/-- Whether a form has fields for the variables of a template. -/
def variablesSaying (form : Form) (template : Template) : Saying :=
  match template.unknownVariables form.fieldNames with
  | [] => .message .success ("Every variable is a field of \"" ++ form.name ++ "\".")
  | unknown =>
    .message .warning
      ("Not fields of \"" ++ form.name ++ "\": " ++ String.intercalate ", " unknown)

/-- Shows what a template is read as. -/
def showTemplate (word : String) (form : Option (Path × String)) : Steps Unit := do
  let source ← sourceOf word
  match Template.parse source with
  | .error fault => throw (.template fault)
  | .ok template =>
    say [.document template.toJson.indented,
      .message .info ("Normalized: " ++ Text.quoted template.source)]
    match form with
    | none => return ()
    | some (settings, name) =>
      let form ← loadForm settings name
      say [variablesSaying form template]

/-- The directory of the settings that are used when no path is given. -/
def Surroundings.settingsDirectory (around : Surroundings) : Path :=
  around.configuration.join "form_core"

/-- The settings that are used when no path is given. -/
def defaultSettings (around : Surroundings) : Keeping SettingsFile :=
  SettingsFile.inDirectory around.settingsDirectory

/-- Makes settings with the example form. -/
def initSettings (around : Surroundings) (path : Option Path) (force : Bool) : Steps Unit := do
  let file ← match path with
    | some path => pure (SettingsFile.beside path)
    | none => keep (defaultSettings around)
  if file.isThere (← get).files then
    if !force then throw (.alreadyThere file.path)
    let backup ← keep (file.backUp around.now initNote)
    tell .info ("Backed up the previous settings to " ++ backup ++ ".")
  keep (file.save .withExample)
  tell .success ("Created " ++ file.path.text ++ " with the example form.")

/-- The steps of a command. -/
def Command.steps (around : Surroundings) : Command → Steps Unit
  | .check settings write => checkSettings around settings write
  | .fill settings form format defaults => fillForm around settings form format defaults
  | .render settings form data => renderNote settings form data
  | .template source form => showTemplate source form
  | .init path force => initSettings around path force

/-- The style of the messages of a request, where colours can be shown or not. -/
def Request.style (r : Request) (canColor : Bool) : ConsoleStyle :=
  ⟨canColor && !r.isPlain, r.isQuiet⟩

/-- How a command went, what was printed, and the files as they are after it. -/
structure Run where
  result : Except CommandFault Unit
  printed : Printed
  files : FileSystem

/-- Carries out a request. -/
def Request.run (r : Request) (around : Surroundings) (canColor : Bool) (files : FileSystem) :
    Run :=
  let (result, desk) := (r.command.steps around).run.run ⟨files, []⟩
  ⟨result, printAll (r.style canColor) desk.said, desk.files⟩

end NoteForms.CommandLine
