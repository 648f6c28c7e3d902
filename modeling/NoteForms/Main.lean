import NoteForms.CommandLine.Reach
import NoteForms.CommandLine.Usage
import Std.Time.DateTime.Timestamp

/-!
# The program

Reads what a command may look at from the disk, carries the command out, and writes what it changed.
-/

namespace NoteForms.CommandLine

/-- The variable that makes the program take answers from its input. -/
def scriptVariable : String := "NOTE_FORMS_SCRIPT"

/-- The directory of a person's settings: a variable names it if it starts from the root. -/
def configurationDirectory : IO Path := do
  match (← IO.getEnv "XDG_CONFIG_HOME").map Path.mk with
  | some path => if path.isAbsolute then return path else besideHome
  | none => besideHome
where
  /-- The directory of settings in the home of the person. -/
  besideHome : IO Path := do
    return ((← IO.getEnv "HOME").map fun home => (Path.mk home).join ".config").getD ⟨"."⟩

/-- What the program finds beside the files. -/
def surroundings : IO Surroundings := do
  let script ← if (← IO.getEnv scriptVariable).isSome then
      some <$> (← IO.getStdin).readBinToEnd
    else pure none
  let now ← Std.Time.Timestamp.now
  return ⟨← configurationDirectory, .ofSeconds now.toSecondsSinceUnixEpoch.val.toNat, script⟩

/-- The path of a place on the disk. -/
def Place.onDisk (place : Place) : String := "/" ++ place.text

/-- What is found on the disk at a place, if anything is. -/
def nodeOnDisk? (place : Place) : IO (Option Node) := do
  let path := (← IO.currentDir) / Place.onDisk place
  if ← path.isDir then return some .directory
  if !(← path.pathExists) then return none
  return some (.ofBytes (← IO.FS.readBinFile path))

/-- The places that lead to a place, itself included. -/
def Place.steps (place : Place) : List Place :=
  (List.range place.length).map fun n => place.take (n + 1)

/-- The files with what is on the disk along a path. -/
def addFromDisk (files : FileSystem) (path : Path) : IO FileSystem := do
  let lexical := (path.names.foldl
    (fun place name => if name = ".." then place.dropLast else place ++ [name])
    (files.origin path)).filter (· != ".")
  (Place.steps lexical).foldlM (fun files place => do
    match ← nodeOnDisk? place with
    | some node => return files.put place node
    | none => return files) files

/-- Writes the bytes of a file to the disk, by way of a draft. -/
def writeFileToDisk (key : String) (bytes : ByteArray) : IO Unit := do
  let path := Path.mk ("/" ++ key)
  IO.FS.writeBinFile path.draft.text bytes
  IO.FS.rename path.draft.text path.text

/-- Writes a node to the disk. -/
def writeToDisk (key : String) : Node → IO Unit
  | .directory => IO.FS.createDirAll ("/" ++ key)
  | .file text => writeFileToDisk key text.toUTF8
  | .binary bytes => writeFileToDisk key bytes.1

/-- Writes what changed to the disk, directories before the files in them. -/
def writeChanges (before after : FileSystem) : IO Unit := do
  let changed := after.nodes.entries.filter fun e => before.nodes.get? e.1 ≠ some e.2
  let (directories, files) := changed.partition fun e => e.2 = .directory
  for (key, node) in directories ++ files do
    writeToDisk key node
  for (key, _) in before.nodes.entries do
    if !after.nodes.contains key then IO.FS.removeFile ("/" ++ key)

/-- Carries out a request on the disk, and says whether it went well. -/
def carryOut (request : Request) : IO Bool := do
  let around ← surroundings
  let working := (Path.mk (← IO.currentDir).toString).names
  let files ← (request.command.reach around).foldlM addFromDisk ⟨∅, working⟩
  let files ← addFromDisk files ⟨"."⟩
  let canColor := (← (← IO.getStdout).isTty) && (← IO.getEnv "NO_COLOR").isNone
  let run := request.run around canColor files
  writeChanges files run.files
  IO.print run.printed.out
  IO.eprint run.printed.err
  match run.result with
  | .ok () => return true
  | .error fault =>
    IO.eprintln ("Error: " ++ fault.message)
    return false

/-- Carries out the command that some words are. -/
def program (words : List String) : IO UInt32 := do
  match Request.ofWords words with
  | .ok request => return if ← carryOut request then 0 else 1
  | .error fault =>
    if fault.isAnswer then
      IO.print fault.message
      return 0
    else
      IO.eprint fault.message
      return 2

end NoteForms.CommandLine

/-- Fills in and renders note forms. -/
def main (words : List String) : IO UInt32 := NoteForms.CommandLine.program words
