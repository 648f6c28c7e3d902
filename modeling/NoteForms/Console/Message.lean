import NoteForms.Text.Blank

/-!
# Messages on the console

What a program says is a list of messages and documents.  Messages carry a mark that tells what they
are about, and a colour if colours are wanted; documents are shown as they are.
-/

namespace NoteForms

/-- What a message is about. -/
inductive MessageKind
  | info
  | success
  | warning
  | failure
  | prompt
  | heading
  deriving DecidableEq

namespace MessageKind

/-- Whether a message of this kind is shown when only problems are. -/
def isProblem : MessageKind → Bool
  | .warning => true
  | .failure => true
  | _ => false

/-- The mark in front of a message. -/
def mark : MessageKind → String
  | .info => "[i]"
  | .success => "[ok]"
  | .warning => "[!]"
  | .failure => "[x]"
  | .prompt => ">"
  | .heading => ""

/-- The code that switches on the look of a message, if it has one. -/
def style? : MessageKind → Option String
  | .info => none
  | .success => some "92"
  | .warning => some "93"
  | .failure => some "91"
  | .prompt => some "96"
  | .heading => some "1"

end MessageKind

/-- What is said. -/
inductive Saying
  | message (kind : MessageKind) (text : String)
  | document (text : String)

/-- How messages are shown. -/
structure ConsoleStyle where
  /-- Whether messages are shown in their colours. -/
  colored : Bool
  /-- Whether only problems are shown. -/
  quiet : Bool

/-- What is written to the two streams of a program. -/
structure Printed where
  out : String
  err : String

namespace Printed

/-- Nothing. -/
def nothing : Printed := ⟨"", ""⟩

/-- One thing after another. -/
def append (p q : Printed) : Printed := ⟨p.out ++ q.out, p.err ++ q.err⟩

instance : Append Printed := ⟨append⟩

end Printed

/-- The codes that switch every look off. -/
def resetCode : List Char := ['\x1b', '[', '0', 'm']

/-- Characters in which every code that switches looks off is followed by one that switches a look
on again. -/
def restyle (code : List Char) : List Char → List Char
  | [] => []
  | '\x1b' :: '[' :: '0' :: 'm' :: cs => resetCode ++ code ++ restyle code cs
  | c :: cs => c :: restyle code cs

/-- A line in a look. -/
def styled (style : String) (line : String) : String :=
  let code := '\x1b' :: '[' :: style.toList ++ ['m']
  String.ofList (code ++ restyle code line.toList ++ resetCode)

namespace MessageKind

/-- The line of a message. -/
def line (kind : MessageKind) (text : String) : String :=
  match kind with
  | .heading => "== " ++ Text.trim text ++ " =="
  | kind => kind.mark ++ " " ++ text

/-- The line of a message as it is shown. -/
def shownLine (kind : MessageKind) (colored : Bool) (text : String) : String :=
  match colored, kind.style? with
  | true, some style => styled style (kind.line text)
  | _, _ => kind.line text

end MessageKind

/-- What is written for a message or a document.  Documents end their last line. -/
def Saying.printed (style : ConsoleStyle) : Saying → Printed
  | .document text => ⟨if text.toList.getLast? = some '\n' then text else text ++ "\n", ""⟩
  | .message kind text =>
    if style.quiet && !kind.isProblem then .nothing
    else
      let line := kind.shownLine style.colored text ++ "\n"
      match kind with
      | .failure => ⟨"", line⟩
      | .heading => ⟨"\n" ++ line, ""⟩
      | _ => ⟨line, ""⟩

/-- What is written for several. -/
def printAll (style : ConsoleStyle) (sayings : List Saying) : Printed :=
  (sayings.map (Saying.printed style)).foldl Printed.append .nothing

end NoteForms
