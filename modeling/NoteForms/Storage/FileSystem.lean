import NoteForms.Storage.Path
import NoteForms.Table

/-!
# Files and directories

A file system holds texts in files and files in directories; a file may also hold bytes that are no
text.  A path leads from the working directory, or from the root, through directories that are
there.  Steps that read and change files are made of calls on the disk, and any call may fail
(`Disk`).  A call that fails leaves everything as it was, but for one that writes: it may have
written a part.
-/

namespace NoteForms

/-- The bytes of a file that holds no text. -/
abbrev NoText := { bytes : ByteArray // String.fromUTF8? bytes = none }

instance : DecidableEq NoText := @Subtype.instDecidableEq _ _ ByteArray.instDecidableEq

/-- What is found at a place. -/
inductive Node
  | file (text : String)
  | binary (bytes : NoText)
  | directory
  deriving DecidableEq

/-- A file with some bytes. -/
def Node.ofBytes (bytes : ByteArray) : Node :=
  match h : String.fromUTF8? bytes with
  | some text => .file text
  | none => .binary ⟨bytes, h⟩

/-- Why something cannot be done with a file. -/
inductive FileFault
  | notFound
  | notADirectory
  | isADirectory
  | alreadyThere
  | nameTooLong
  | busy
  | notText
  /-- What else can go wrong, in the words of the disk. -/
  | other (message : String)
  deriving DecidableEq

/-- The words of a fault. -/
def FileFault.message : FileFault → String
  | .notFound => "No such file or directory (os error 2)"
  | .notADirectory => "Not a directory (os error 20)"
  | .isADirectory => "Is a directory (os error 21)"
  | .alreadyThere => "File exists (os error 17)"
  | .nameTooLong => "File name too long (os error 36)"
  | .busy => "Device or resource busy (os error 16)"
  | .notText => "stream did not contain valid UTF-8"
  | .other message => message

/-- A place: the names that lead from the root to it. -/
abbrev Place := List String

/-- A place as text. -/
def Place.text (place : Place) : String := String.intercalate "/" place

/-- The greatest number of bytes in a name. -/
def maxNameLength : Nat := 255

/-- Files and directories by place, and the place from which paths start. -/
structure FileSystem where
  nodes : Table Node
  working : Place

namespace FileSystem

/-- What is found at a place. -/
def node? (fs : FileSystem) (place : Place) : Option Node :=
  if place.isEmpty then some .directory else fs.nodes.get? place.text

/-- The place that a name leads to. -/
def enter (fs : FileSystem) (place : Place) (name : String) : Except FileFault Place :=
  match fs.node? place with
  | none => .error .notFound
  | some (.file _) => .error .notADirectory
  | some (.binary _) => .error .notADirectory
  | some .directory =>
    if name = "." then .ok place
    else if name = ".." then .ok place.dropLast
    else if maxNameLength < name.utf8ByteSize then .error .nameTooLong
    else .ok (place ++ [name])

/-- The place from which a path starts. -/
def origin (fs : FileSystem) (p : Path) : Place := if p.isAbsolute then [] else fs.working

/-- The place that a path leads to, where nothing need be. -/
def locate (fs : FileSystem) (p : Path) : Except FileFault Place := do
  if p.text.isEmpty then throw .notFound
  p.names.foldlM fs.enter (fs.origin p)

/-- What is found at the end of a path. -/
def find (fs : FileSystem) (p : Path) : Except FileFault Node := do
  let place ← fs.locate p
  let place ← if p.endsWithSlash then fs.enter place "." else pure place
  match fs.node? place with
  | some node => return node
  | none => throw .notFound

/-- Whether anything is found at the end of a path. -/
def isThere (fs : FileSystem) (p : Path) : Bool := (fs.find p).isOk

/-- Whether a directory is found at the end of a path. -/
def isDirectory (fs : FileSystem) (p : Path) : Bool :=
  match fs.find p with
  | .ok .directory => true
  | _ => false

/-- The text of a file. -/
def read (fs : FileSystem) (p : Path) : Except FileFault String := do
  match ← fs.find p with
  | .file text => return text
  | .binary _ => throw .notText
  | .directory => throw .isADirectory

/-- The file system with a node put at a place. -/
def put (fs : FileSystem) (place : Place) (node : Node) : FileSystem :=
  { fs with nodes := fs.nodes.insert place.text node }

/-- The file system without what is at a place. -/
def remove (fs : FileSystem) (place : Place) : FileSystem :=
  { fs with nodes := fs.nodes.filter fun key _ => key != place.text }

/-- The name under which a place stands in a directory, if it stands right there. -/
def nameIn? (directory : Place) (key : String) : Option String :=
  match (Path.mk key).names with
  | [] => none
  | names => if names.dropLast = directory then names.getLast? else none

/-- The names in a directory. -/
def list (fs : FileSystem) (p : Path) : Except FileFault (List String) := do
  let place ← fs.locate p
  return fs.nodes.keys.filterMap (nameIn? place)

end FileSystem

/-! ## Disks -/

/-- What a step asks of the disk. -/
inductive DiskCall
  | makeDirectory (place : Place)
  | create (place : Place)
  | write (place : Place)
  | sync (place : Place)
  | move (source target : Place)
  | read (path : Path)

/-- What goes wrong with a call: its fault, and how many bytes were written before, if it writes. -/
structure Mishap where
  fault : FileFault
  written : Nat

/-- How a disk takes calls: what goes wrong with a call, if anything does, as the files are then. -/
structure Disk where
  mishap? : FileSystem → DiskCall → Option Mishap

/-- The disk on which nothing goes wrong. -/
def Disk.sound : Disk := ⟨fun _ _ => none⟩

/-! ## Steps -/

/-- Steps that read and change files.  What was done before a step that fails stays done. -/
abbrev Filing := ExceptT FileFault (StateM FileSystem)

namespace Filing

/-- What can be read of the files as they are. -/
def look (f : FileSystem → Except FileFault α) : Filing α := do
  liftExcept (f (← get))

/-- A call on the disk that changes nothing if it fails. -/
def call (disk : Disk) (c : DiskCall) : Filing Unit := do
  match disk.mishap? (← get) c with
  | some mishap => throw mishap.fault
  | none => return ()

/-- The text of a file. -/
def fetch (p : Path) (disk : Disk := .sound) : Filing String := do
  let text ← look fun fs => fs.read p
  call disk (.read p)
  return text

/-- One name further, into a directory that is made if nothing is there. -/
def makeStep (disk : Disk) (place : Place) (name : String) : Filing Place := do
  let next ← look fun fs => fs.enter place name
  if ((← get).node? next).isNone then
    call disk (.makeDirectory next)
    modify fun fs => fs.put next .directory
  return next

/-- Makes a directory and those that hold it, as far as they are not there. -/
def makeDirectories (p : Path) (disk : Disk := .sound) : Filing Unit := do
  let place ← p.names.foldlM (makeStep disk) ((← get).origin p)
  match (← get).node? place with
  | some .directory => return ()
  | none => return ()
  | some _ => throw .alreadyThere

/-- Makes the directory that holds the end of a path. -/
def makeParent (p : Path) (disk : Disk := .sound) : Filing Unit :=
  match p.parent? with
  | some parent => makeDirectories parent disk
  | none => pure ()

/-- Opens a file, in a directory that is there, so that it is empty whatever it held. -/
def openEmpty (disk : Disk) (p : Path) : Filing Place := do
  let place ← look fun fs => fs.locate p
  if p.endsWithSlash || (← get).node? place = some .directory then throw .isADirectory
  call disk (.create place)
  modify fun fs => fs.put place (.file "")
  return place

/-- Writes a text into an empty file; if that fails, a part of it is there. -/
def fill (disk : Disk) (place : Place) (text : String) : Filing Unit := do
  match disk.mishap? (← get) (.write place) with
  | none => modify fun fs => fs.put place (.file text)
  | some mishap =>
    modify fun fs => fs.put place (.ofBytes (text.toUTF8.extract 0 mishap.written))
    throw mishap.fault

/-- Writes the text of a file, in a directory that is there, and waits until the disk has it. -/
def create (p : Path) (text : String) (disk : Disk := .sound) : Filing Unit := do
  let place ← openEmpty disk p
  fill disk place text
  call disk (.sync place)

/-- Writes the text of a file, in a directory that is made if it is not there. -/
def write (p : Path) (text : String) (disk : Disk := .sound) : Filing Unit := do
  makeParent p disk
  create p text disk

/-- Whether a path ends in a name that leads to no name of its own. -/
def endsInDots (p : Path) : Bool :=
  match p.names.getLast? with
  | some name => name = "." || name = ".."
  | none => true

/-- Moves a file to the place of another. -/
def move (source target : Path) (disk : Disk := .sound) : Filing Unit := do
  let node ← look fun fs => fs.find source
  if node = .directory then throw .isADirectory
  let old ← look fun fs => fs.locate source
  let new ← look fun fs => fs.locate target
  if endsInDots target then throw .busy
  if target.endsWithSlash then throw .notADirectory
  if (← get).node? new = some .directory then throw .isADirectory
  call disk (.move old new)
  modify fun fs => (fs.remove old).put new node

/-- Puts a text in the place of a file, which is never half written. -/
def replace (p : Path) (text : String) (disk : Disk := .sound) : Filing Unit := do
  write p.draft text disk
  move p.draft p disk

end Filing

end NoteForms
