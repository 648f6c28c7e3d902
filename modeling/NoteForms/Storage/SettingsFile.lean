import NoteForms.Json.Printer
import NoteForms.Json.Reader
import NoteForms.Pattern.Validity
import NoteForms.Settings.Basic
import NoteForms.Storage.FileSystem
import NoteForms.Storage.Stamp
import NoteForms.Text.Ascii

/-!
# The file of the settings

The settings are kept in one file, and copies of it in a directory of backups.  A backup is the file
as it was, named for the minute in which it was taken and for the note that came with it.
-/

namespace NoteForms

/-- Why settings cannot be loaded, saved or backed up. -/
inductive SettingsFault
  | files (fault : FileFault)
  | syntaxFault (message : String)
  | content (fault : Json.DecodeError)
  | nothingToBackUp (path : Path)
  | noSuchBackup (name : String)

/-- The words of a fault. -/
def SettingsFault.message : SettingsFault → String
  | .files fault => "I/O error: " ++ fault.message
  | .syntaxFault message => "Serialization error: " ++ message
  | .content fault => "Serialization error: " ++ fault.message
  | .nothingToBackUp path => "Backup error: no settings file at " ++ path.text
  | .noSuchBackup name => "Backup error: settings backup \x60" ++ name ++ "\x60 not found"

/-- Steps that load, save and back up settings. -/
abbrev Keeping := ExceptT SettingsFault (StateM FileSystem)

namespace Keeping

/-- Steps with files as steps with settings. -/
def ofFiling (steps : Filing α) : Keeping α := fun fs =>
  match steps.run.run fs with
  | (.ok a, fs) => (.ok a, fs)
  | (.error fault, fs) => (.error (.files fault), fs)

/-- What can be read of the files as they are. -/
def look (f : FileSystem → Except FileFault α) : Keeping α := ofFiling (Filing.look f)

end Keeping

/-! ## Names of backups -/

/-- What the name of every backup begins with. -/
def backupStart : String := "settings_"

/-- What the name of every backup ends with. -/
def backupEnd : String := ".json"

/-- What a note adds to the name of a backup: its words, joined by hyphens. -/
def noteSuffix (note : String) : String :=
  match (Text.words note).map Text.lowerAscii with
  | [] => ""
  | words => "_" ++ String.intercalate "-" words

/-- The name of a backup. -/
def backupName (stamp : Stamp) (note : String) : String :=
  backupStart ++ stamp.text ++ noteSuffix note ++ backupEnd

/-- Some characters without others that they begin with. -/
def dropStart? : List Char → List Char → Option (List Char)
  | [], cs => some cs
  | _ :: _, [] => none
  | a :: start, c :: cs => if a = c then dropStart? start cs else none

/-- Some characters without others that they end with. -/
def dropEnd? (ending cs : List Char) : Option (List Char) :=
  (dropStart? ending.reverse cs.reverse).map List.reverse

/-- Whether a file is listed as a backup. -/
def isBackupName (name : String) : Bool := (dropEnd? backupEnd.toList name.toList).isSome

/-- The stamp in the name of a backup, if it has one. -/
def stampOf? (name : String) : Option Stamp := do
  let stem ← dropEnd? backupEnd.toList name.toList
  let rest ← dropStart? backupStart.toList stem
  match Text.splitChars '_' rest with
  | date :: time :: _ =>
    if (String.ofList date).utf8ByteSize = 8 && (String.ofList time).utf8ByteSize = 4 then
      Stamp.ofChars? (date ++ time)
    else none
  | _ => none

/-- What backups are ordered by: the parts of the stamp, none coming before all others. -/
def stampKey (name : String) : List Int := ((stampOf? name).map Stamp.parts).getD []

/-- Whether a backup is listed before another, or is the same: the newest first, and of one minute
the name that comes last. -/
def isListedBefore (a b : String) : Bool :=
  if stampKey a = stampKey b then b ≤ a else stampKey b < stampKey a

/-! ## The settings and their backups -/

/-- Where settings and their backups are kept. -/
structure SettingsFile where
  path : Path
  backups : Path

namespace SettingsFile

/-- The directory of backups beside a file. -/
def backupsIn (directory : Path) : Path := directory.join "backups"

/-- The settings at a path, with the backups beside them. -/
def beside (path : Path) : SettingsFile := ⟨path, backupsIn (path.parent?.getD ⟨""⟩)⟩

/-- The settings in a directory. -/
def within (directory : Path) : SettingsFile :=
  ⟨directory.join "settings.json", backupsIn directory⟩

/-- The settings in a directory, which is made if it is not there. -/
def inDirectory (directory : Path) (disk : Disk := .sound) : Keeping SettingsFile := do
  Keeping.ofFiling (Filing.makeDirectories directory disk)
  return within directory

/-- Whether there are settings. -/
def isThere (s : SettingsFile) (fs : FileSystem) : Bool := fs.isThere s.path

/-- The report on the text of settings. -/
def reportOn (text : String) : Except SettingsFault LoadReport := do
  match Json.parse text with
  | .error message => throw (.syntaxFault message)
  | .ok raw =>
    match LoadReport.ofJson Pattern.faultOf raw with
    | .error fault => throw (.content fault)
    | .ok report => return report

/-- Loads the settings; where there are none, they are empty. -/
def load (s : SettingsFile) (disk : Disk := .sound) : Keeping LoadReport := do
  if s.isThere (← get) then
    let text ← Keeping.ofFiling (Filing.fetch s.path disk)
    liftExcept (reportOn text)
  else return .empty

/-- Saves settings. -/
def save (s : SettingsFile) (settings : Settings) (disk : Disk := .sound) : Keeping Unit :=
  Keeping.ofFiling do
    Filing.makeParent s.path disk
    Filing.replace s.path settings.toJson.indented disk

/-- Copies the settings to a file behind the directory of backups, which is made if it is not
there. -/
def copyTo (s : SettingsFile) (target : Path) (disk : Disk) : Filing Unit := do
  Filing.makeDirectories s.backups disk
  let text ← Filing.fetch s.path disk
  Filing.write target text disk

/-- Copies the settings to the backups, and says under which name. -/
def backUp (s : SettingsFile) (stamp : Stamp) (note : String) (disk : Disk := .sound) :
    Keeping String := do
  if !s.isThere (← get) then throw (.nothingToBackUp s.path)
  let name := backupName stamp note
  Keeping.ofFiling (s.copyTo (s.backups.join name) disk)
  return name

/-- Puts the text of a file in the place of the settings. -/
def putInPlace (s : SettingsFile) (source : Path) (disk : Disk) : Filing Unit := do
  let text ← Filing.fetch source disk
  Filing.replace s.path text disk

/-- Puts a backup in the place of the settings, and loads it. -/
def restore (s : SettingsFile) (name : String) (disk : Disk := .sound) : Keeping LoadReport := do
  let source := s.backups.join name
  if !(← get).isThere source then throw (.noSuchBackup name)
  Keeping.ofFiling (s.putInPlace source disk)
  s.load disk

/-- The names of the backups, the newest first. -/
def listBackups (s : SettingsFile) : Keeping (List String) := do
  if (← get).isDirectory s.backups then
    let names ← Keeping.look fun fs => fs.list s.backups
    return (names.filter isBackupName).mergeSort isListedBefore
  else return []

end SettingsFile

end NoteForms
