import NoteForms.Pattern.Cursor

/-!
# Escapes in patterns

A backslash is followed by a character that stands for itself, by a character code, by the name of a
class, or by the letter of an assertion.
-/

namespace NoteForms.Pattern

/-- A piece of a pattern of one character or class. -/
inductive Piece
  | literal (l : Literal)
  | assertion (span : Span)
  | dot (span : Span)
  | named (span : Span) (negated : Bool) (kind : NamedClass)

/-- The part of the source that a piece was written in. -/
def Piece.span : Piece → Span
  | .literal l => l.span
  | .assertion span => span
  | .dot span => span
  | .named span _ _ => span

/-- A literal that is not a byte. -/
def plainLiteral (span : Span) (char : Char) : Piece := .literal ⟨span, char, false⟩

/-! ## Character codes -/

/-- The value of a hexadecimal digit. -/
def hexValue? (c : Char) : Option Nat :=
  if c.isDigit then some (c.toNat - 48)
  else if 'a' ≤ c ∧ c ≤ 'f' then some (c.toNat - 87)
  else if 'A' ≤ c ∧ c ≤ 'F' then some (c.toNat - 55)
  else none

/-- The character of a code, which must not be a surrogate. -/
def charOfCode? (n : Nat) : Option Char := if n.isValidChar then some (Char.ofNat n) else none

/-- A number of so many hexadecimal digits; `first` says that none was read yet. -/
def readHexDigits : Nat → Bool → Nat → Cursor → Except Fault (Step Nat)
  | 0, _, value, c => .ok (value, c.next)
  | count + 1, first, value, c =>
    let c := if first then c else c.next
    match c.rest with
    | [] => fail .escapeUnfinished c.here
    | d :: _ =>
      match hexValue? d with
      | none => fail .hexDigit c.nextSpan
      | some v => readHexDigits count false (value * 16 + v) c

/-- Hexadecimal digits up to a closing brace, and whether there are any; `fuel` bounds them. -/
def readBracedHex (brace : Cursor) : Nat → Bool → Nat → Cursor → Except Fault (Step (Bool × Nat))
  | 0, _, _, c => fail .escapeUnfinished (brace.spanTo c)
  | fuel + 1, any, value, c =>
    let c := c.next
    match c.rest with
    | [] => fail .escapeUnfinished (brace.spanTo c)
    | '}' :: _ => .ok ((any, value), c)
    | d :: _ =>
      match hexValue? d with
      | none => fail .hexDigit c.nextSpan
      | some v => readBracedHex brace fuel true (value * 16 + v) c

/-- How many digits the code behind a letter has. -/
def codeWidth (letter : Char) : Nat := if letter = 'x' then 2 else if letter = 'u' then 4 else 8

/-- A character code, from its letter on; `opening` stands before the backslash. -/
def readCode (opening : Cursor) (letter : Char) (c : Cursor) : Except Fault (Step Piece) :=
  let c := c.next
  match c.rest with
  | [] => fail .escapeUnfinished c.here
  | '{' :: _ => do
    let ((any, value), close) ← readBracedHex c (c.rest.length + 1) false 0 c
    let after := close.next
    if !any then fail .hexEmpty (c.spanTo after)
    else
      match charOfCode? value with
      | none => fail .hexInvalid (c.bump.spanTo close)
      | some ch => return (plainLiteral (opening.spanTo after) ch, after)
  | _ => do
    let (value, after) ← readHexDigits (codeWidth letter) true 0 c
    match charOfCode? value with
    | none => fail .hexInvalid (c.spanTo after)
    | some ch => return (.literal ⟨opening.spanTo after, ch, letter = 'x'⟩, after)

/-! ## Classes -/

/-- What stands before the first place of some characters in others, and what behind it. -/
def splitAtFirst? (mark : List Char) : List Char → Option (List Char × List Char)
  | [] => none
  | c :: cs =>
    if mark.isPrefixOf (c :: cs) then some ([], (c :: cs).drop mark.length)
    else (splitAtFirst? mark cs).map fun r => (c :: r.1, r.2)

/-- The query written between braces. -/
def queryOf (name : List Char) : PropertyQuery :=
  match ((splitAtFirst? ['!', '='] name).or (splitAtFirst? [':'] name)).or
      (splitAtFirst? ['='] name) with
  | some (name, value) => .valued (String.ofList name) (String.ofList value)
  | none => .named (String.ofList name)

/-- The characters up to a closing brace; `fuel` bounds them. -/
def readBracedName : Nat → List Char → Cursor → Except Fault (Step (List Char))
  | 0, _, c => fail .escapeUnfinished c.here
  | fuel + 1, name, c =>
    let c := c.next
    match c.rest with
    | [] => fail .escapeUnfinished c.here
    | '}' :: _ => .ok (name.reverse, c)
    | ch :: _ => readBracedName fuel (ch :: name) c

/-- A class by property, from its letter on; `opening` stands before the backslash. -/
def readProperty (opening : Cursor) (negated : Bool) (c : Cursor) : Except Fault (Step Piece) :=
  let c := c.next
  match c.rest with
  | [] => fail .escapeUnfinished c.here
  | '{' :: _ => do
    let (name, close) ← readBracedName (c.rest.length + 1) [] c
    let after := close.bump
    return (.named (opening.spanTo after) negated (.property (queryOf name)), after)
  | ch :: _ =>
    if ch = '\\' then fail .propertySyntax c.nextSpan
    else
      let after := c.next
      .ok (.named (opening.spanTo after) negated (.property (.named (String.ofList [ch]))), after)

/-- The class of a letter, small or capital. -/
def letterClass? (letter : Char) : Option (Bool × LetterClass) :=
  match letter with
  | 'd' => some (false, .digit)
  | 'D' => some (true, .digit)
  | 's' => some (false, .space)
  | 'S' => some (true, .space)
  | 'w' => some (false, .word)
  | 'W' => some (true, .word)
  | _ => none

/-! ## Assertions -/

/-- The characters of the name of a word boundary. -/
def isBoundaryChar (c : Char) : Bool := c.isAlpha || c = '-'

/-- The name of a word boundary; `fuel` bounds its characters. -/
def readBoundaryName : Nat → List Char → Cursor → List Char × Cursor
  | 0, name, c => (name.reverse, c)
  | fuel + 1, name, c =>
    match c.rest with
    | ch :: _ =>
      if isBoundaryChar ch then readBoundaryName fuel (ch :: name) c.next else (name.reverse, c)
    | [] => (name.reverse, c)

/-- The names of word boundaries. -/
def boundaryNames : List String := ["start", "end", "start-half", "end-half"]

/-- What may follow the letter of a word boundary: the braces with its name.  Braces with anything
else are left to be read as a repetition. -/
def readBoundary (opening c : Cursor) : Except Fault (Step Piece) :=
  if c.looksAt '{' then
    let inner := c.next
    match inner.rest with
    | [] => fail .boundaryUnfinished (opening.spanTo inner)
    | ch :: _ =>
      if isBoundaryChar ch then
        let (name, close) := readBoundaryName (inner.rest.length + 1) [] inner
        if close.looksAt '}' then
          if boundaryNames.contains (String.ofList name) then
            .ok (.assertion (opening.spanTo close.bump), close.bump)
          else fail .boundaryUnknown (inner.spanTo close)
        else fail .boundaryUnclosed (c.spanTo close)
      else .ok (.assertion (opening.spanTo c), c)
  else .ok (.assertion (opening.spanTo c), c)

/-! ## Escapes -/

/-- The characters with a meaning of their own in patterns. -/
def isMeta (c : Char) : Bool :=
  ['\\', '.', '+', '*', '?', '(', ')', '|', '[', ']', '{', '}', '^', '$', '#', '&', '-',
    '~'].contains c

/-- Whether a backslash before a character takes it for itself. -/
def isEscapable (c : Char) : Bool :=
  isMeta c || (c.toNat < 128 && !c.isAlphanum && c != '<' && c != '>')

/-- The control character that a letter stands for. -/
def controlChar? (letter : Char) : Option Char :=
  match letter with
  | 'a' => some '\x07'
  | 'f' => some '\x0c'
  | 't' => some '\t'
  | 'n' => some '\n'
  | 'r' => some '\r'
  | 'v' => some '\x0b'
  | _ => none

/-- An escape, from its backslash on. -/
def readEscape (opening : Cursor) : Except Fault (Step Piece) :=
  let c := opening.bump
  match c.rest with
  | [] => fail .escapeUnfinished (opening.spanTo c)
  | letter :: _ =>
    let after := c.bump
    let span := opening.spanTo after
    if letter.isDigit then fail .backreference span
    else if letter = 'x' ∨ letter = 'u' ∨ letter = 'U' then readCode opening letter c
    else if letter = 'p' ∨ letter = 'P' then readProperty opening (letter = 'P') c
    else if isEscapable letter then .ok (plainLiteral span letter, after)
    else
      match letterClass? letter, controlChar? letter with
      | some (negated, kind), _ => .ok (.named span negated (.letter kind), after)
      | _, some ch => .ok (plainLiteral span ch, after)
      | _, _ =>
        if letter = 'b' then readBoundary opening after
        else if ['A', 'z', 'B', '<', '>'].contains letter then .ok (.assertion span, after)
        else fail .escapeUnknown span

end NoteForms.Pattern
