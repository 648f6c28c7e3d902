import NoteForms.Template.Basic
import NoteForms.Template.Fault
import NoteForms.Text.Alphanumeric

/-!
# Reading templates

The source is read from left to right.  Two braces open a variable; a brace and a number sign open a
command if white space or the word `frontmatter` follows; every other character is text.
-/

namespace NoteForms.Template

/-- The characters of a name. -/
def isNameChar (c : Char) : Bool := Text.isAlphanumeric c || c = '_' || c = '-'

/-- The longest name at the start of some characters. -/
def takeName (cs : List Char) : List Char := cs.takeWhile isNameChar

/-- What follows the longest name. -/
def dropName (cs : List Char) : List Char := cs.dropWhile isNameChar

/-- The word of the only command. -/
def commandWord : List Char := ['f', 'r', 'o', 'n', 't', 'm', 'a', 't', 't', 'e', 'r']

/-- Whether a command opens here. -/
def opensCommand : List Char → Bool
  | '{' :: '#' :: cs =>
    match cs with
    | [] => false
    | c :: _ => Text.isBlank c || commandWord.isPrefixOf cs
  | _ => false

/-- A segment and the characters behind it, or what is wrong. -/
abbrev Reading (α : Type) := Except Fault (α × List Char)

/-- A problem at some characters. -/
def fault (problem : Problem) (rest : List Char) : Except Fault α := .error ⟨problem, rest⟩

/-! ## Variables -/

/-- The end of a variable that opened at `opening`. -/
def readVariableEnd (opening : List Char) (name : String) (transform : Option Transform) :
    List Char → Reading Segment
  | '}' :: '}' :: rest => .ok (.variable name transform, rest)
  | [] => fault .unterminatedVariable opening
  | rest => fault (.expected "\x7d\x7d") rest

/-- The transform behind the bar of a variable, and the end of the variable. -/
def readTransform (opening : List Char) (name : String) (cs : List Char) : Reading Segment :=
  let start := Text.dropBlanks cs
  let word := takeName start
  if word.isEmpty then fault .expectedName start
  else
    match Transform.ofName? (String.ofList word) with
    | none => fault (.unknownTransform (String.ofList word)) start
    | some t => readVariableEnd opening name (some t) (Text.dropBlanks (dropName start))

/-- A variable behind its opening braces. -/
def readVariable (opening cs : List Char) : Reading Segment :=
  let start := Text.dropBlanks cs
  let name := takeName start
  if name.isEmpty then
    if start.isEmpty then fault .unterminatedVariable opening else fault .expectedName start
  else
    match Text.dropBlanks (dropName start) with
    | '|' :: rest => readTransform opening (String.ofList name) rest
    | rest => readVariableEnd opening (String.ofList name) none rest

/-! ## Commands -/

/-- One name or more, with commas between them; `fuel` bounds their number. -/
def readNames : Nat → List Char → Reading (List String)
  | 0, cs => fault .expectedName cs
  | fuel + 1, cs =>
    let start := Text.dropBlanks cs
    let name := takeName start
    if name.isEmpty then fault .expectedName start
    else
      match Text.dropBlanks (dropName start) with
      | ',' :: rest =>
        match readNames fuel rest with
        | .ok (names, rest) => .ok (String.ofList name :: names, rest)
        | .error f => .error f
      | rest => .ok ([String.ofList name], rest)

/-- The names of a clause, behind its label. -/
def readClause (cs : List Char) : Reading (List String) :=
  match Text.dropBlanks cs with
  | ':' :: rest => readNames (rest.length + 1) rest
  | rest => fault (.expected ":") rest

/-- The clauses of a command that opened at `opening`, after those given before; `fuel` bounds their
number. -/
def readClauses (opening : List Char) :
    Nat → Option (List String) → Option (List String) → List Char → Reading Segment
  | 0, _, _, cs => fault (.expected "#\x7d") cs
  | fuel + 1, picked, omitted, cs =>
    match Text.dropBlanks cs with
    | '#' :: '}' :: rest => .ok (.frontmatter (picked.getD []) (omitted.getD []), rest)
    | [] => fault .unterminatedCommand opening
    | start =>
      let word := String.ofList (takeName start)
      if word = "pick" then
        if picked.isSome then fault (.duplicateClause "pick") start
        else
          match readClause (dropName start) with
          | .ok (names, rest) => readClauses opening fuel (some names) omitted rest
          | .error f => .error f
      else if word = "omit" then
        if omitted.isSome then fault (.duplicateClause "omit") start
        else
          match readClause (dropName start) with
          | .ok (names, rest) => readClauses opening fuel picked (some names) rest
          | .error f => .error f
      else if word = "" then fault (.expected "#\x7d") start
      else fault (.unknownClause word) start

/-- A command behind its opening brace and number sign. -/
def readCommand (opening cs : List Char) : Reading Segment :=
  let start := Text.dropBlanks cs
  let word := takeName start
  if start.isEmpty then fault .unterminatedCommand opening
  else if word = commandWord then readClauses opening 3 none none (dropName start)
  else fault (.unknownCommand (String.ofList word)) start

/-! ## Templates -/

/-- A template read from its end: the characters of a text that may still grow at its front, and the
segments behind it. -/
structure Tail where
  front : List Char
  segments : Template

namespace Tail

/-- The tail without a text at its front. -/
def ofSegments (segments : Template) : Tail := ⟨[], segments⟩

/-- The tail with one more character of text in front. -/
def addChar (c : Char) (t : Tail) : Tail := { t with front := c :: t.front }

/-- The template, once nothing more is put in front. -/
def close (t : Tail) : Template :=
  if t.front.isEmpty then t.segments else .text (String.ofList t.front) :: t.segments

/-- The tail with a segment in front. -/
def addSegment (s : Segment) (t : Tail) : Tail := ofSegments (s :: t.close)

end Tail

/-- The segments of some characters; `fuel` bounds their number. -/
def readSegments : Nat → List Char → Except Fault Tail
  | _, [] => .ok (.ofSegments [])
  | 0, cs => fault .expectedName cs
  | fuel + 1, c :: cs =>
    match c, cs with
    | '{', '{' :: rest =>
      match readVariable (c :: cs) rest with
      | .ok (segment, rest) => (readSegments fuel rest).map (.addSegment segment)
      | .error f => .error f
    | _, _ =>
      if opensCommand (c :: cs) then
        match readCommand (c :: cs) (cs.drop 1) with
        | .ok (segment, rest) => (readSegments fuel rest).map (.addSegment segment)
        | .error f => .error f
      else (readSegments fuel cs).map (.addChar c)

/-- The template of some characters. -/
def readChars (source : List Char) : Except Fault Template :=
  (readSegments source.length source).map Tail.close

/-- The template of a source, or what is wrong with it and where. -/
def parse (source : String) : Except SourceError Template :=
  match readChars source.toList with
  | .ok t => .ok t
  | .error f => .error (f.locate source.toList)

end NoteForms.Template
