import NoteForms.Number.Typed
import NoteForms.Number.Layout
import NoteForms.Text.Blank

/-!
# YAML scalars

A text is written plain if no reader could take it for anything else, between single quotes if that
is enough, as a literal block if it has line feeds, and between double quotes otherwise.  What each
style admits is a condition on the characters of the text, stated here one by one.
-/

namespace NoteForms.Yaml

/-- The style in which a text is written. -/
inductive Style
  | plain
  | singleQuoted
  | doubleQuoted
  | literal
  deriving DecidableEq

/-! ## Texts that read as something else -/

/-- The words for nothing. -/
def nullWords : List String := ["null", "Null", "NULL", "~"]

/-- The words for truth values. -/
def booleanWords : List String := ["true", "True", "TRUE", "false", "False", "FALSE"]

/-- The words for infinity and for no number. -/
def infinityWords : List String :=
  [".inf", ".Inf", ".INF", "+.inf", "+.Inf", "+.INF", "-.inf", "-.Inf", "-.INF", ".nan", ".NaN",
    ".NAN"]

/-- The value of a digit in a base of at most 16. -/
def digitIn? (base : Nat) (c : Char) : Option Nat :=
  let value :=
    if c.isDigit then some (c.toNat - 48)
    else if 'a' ≤ c ∧ c ≤ 'f' then some (c.toNat - 87)
    else if 'A' ≤ c ∧ c ≤ 'F' then some (c.toNat - 55)
    else none
  value.filter (· < base)

/-- The number that digits of a base stand for, if there are any and they all are digits. -/
def digitsIn? (base : Nat) (cs : List Char) : Option Nat :=
  if cs.isEmpty then none
  else cs.foldlM (fun n c => (digitIn? base c).map fun d => n * base + d) 0

/-- Whole numbers with a mark for base 16, 8 or 2, of at most 128 bits. -/
def isMarkedInteger (cs : List Char) : Bool :=
  let (negative, digits) := readSign cs
  let limit := if negative then Nat.pow 2 127 + 1 else Nat.pow 2 128
  let value :=
    match digits with
    | '0' :: 'x' :: r => digitsIn? 16 r
    | '0' :: 'o' :: r => digitsIn? 8 r
    | '0' :: 'b' :: r => digitsIn? 2 r
    | _ => none
  value.any (· < limit)

/-- Two digits or more, with or without a sign, of which the first is zero. -/
def isZeroLed (cs : List Char) : Bool :=
  match (readSign cs).2 with
  | '0' :: c :: r => (c :: r).all Char.isDigit
  | _ => false

/-- Whether a reader would take the text for something that is not a text. -/
def readsAsOther (s : String) : Bool :=
  s.isEmpty || nullWords.contains s || booleanWords.contains s || infinityWords.contains s
    || isMarkedInteger s.toList || isZeroLed s.toList || (readTyped? s.toList).isSome

/-! ## What the characters allow -/

/-- The characters that may stand unescaped. -/
def isPrintable (c : Char) : Bool :=
  let n := c.toNat
  n = 0x0a || (0x20 ≤ n && n ≤ 0x7e) || (0xa0 ≤ n && n ≤ 0xd7ff)
    || (0xe000 ≤ n && n ≤ 0xfffd && n != 0xfeff) || 0x10000 ≤ n

/-- The characters that end a line. -/
def isBreak (c : Char) : Bool :=
  let n := c.toNat
  n = 0x0a || n = 0x0d || n = 0x85 || n = 0x2028 || n = 0x2029

/-- The characters that may not begin a plain text. -/
def isIndicator (c : Char) : Bool :=
  ['#', ',', '[', ']', '{', '}', '&', '*', '!', '|', '>', '\'', '"', '%', '@', '\x60'].contains c

/-- Whether the next character is a space or missing. -/
def spaceFollows : List Char → Bool
  | [] => true
  | c :: _ => c = ' '

/-- Whether a text begins as something other than a plain text does. -/
def beginsWithIndicator : List Char → Bool
  | [] => false
  | '-' :: '-' :: '-' :: _ => true
  | '.' :: '.' :: '.' :: _ => true
  | c :: cs => isIndicator c || ((c = '?' || c = ':' || c = '-') && spaceFollows cs)

/-- Whether a colon before a space, or a number sign after one, stands behind the first
character. -/
def containsIndicator : List Char → Bool
  | a :: b :: cs =>
    (b = ':' && spaceFollows cs) || (a = ' ' && b = '#') || containsIndicator (b :: cs)
  | _ => false

/-- Whether two characters that pass these tests are neighbours. -/
def hasNeighbours (p q : Char → Bool) : List Char → Bool
  | a :: b :: cs => (p a && q b) || hasNeighbours p q (b :: cs)
  | _ => false

/-- Whether a space comes right before the end of a line. -/
def spaceBeforeBreak (cs : List Char) : Bool := hasNeighbours (· = ' ') isBreak cs

/-- Whether a space comes right after the end of a line. -/
def spaceAfterBreak (cs : List Char) : Bool := hasNeighbours isBreak (· = ' ') cs

/-- Whether the text may be written plain. -/
def plainAllowed (cs : List Char) : Bool :=
  !beginsWithIndicator cs && !containsIndicator cs && cs.all (fun c => isPrintable c && !isBreak c)
    && cs.head? != some ' ' && cs.getLast? != some ' '

/-- Whether the text may be written between single quotes. -/
def singleQuotedAllowed (cs : List Char) : Bool :=
  cs.all isPrintable && !spaceBeforeBreak cs && !spaceAfterBreak cs

/-- Whether the text may be written as a literal block. -/
def literalAllowed (cs : List Char) : Bool :=
  cs.all isPrintable && !spaceBeforeBreak cs && cs.getLast? != some ' '

/-- The style in which a text is written. -/
def styleOf (s : String) : Style :=
  let cs := s.toList
  if cs.contains '\n' then if literalAllowed cs then .literal else .doubleQuoted
  else if !readsAsOther s && plainAllowed cs then .plain
  else if singleQuotedAllowed cs then .singleQuoted
  else .doubleQuoted

/-! ## Writing -/

/-- The blanks in front of a line inside a scalar. -/
def indent : List Char := [' ', ' ']

/-- Characters between single quotes, where a quote is written twice and a line behind the end of
one is indented. -/
def writeSingle (afterBreak : Bool) : List Char → List Char
  | [] => if afterBreak then indent else []
  | c :: cs =>
    if isBreak c then c :: writeSingle true cs
    else
      (if afterBreak then indent else []) ++ (if c = '\'' then ['\'', '\''] else [c])
        ++ writeSingle false cs

/-- Characters of a literal block; every line that is not empty is indented. -/
def writeLiteral (afterBreak : Bool) : List Char → List Char
  | [] => []
  | c :: cs =>
    if isBreak c then c :: writeLiteral true cs
    else (if afterBreak then indent else []) ++ c :: writeLiteral false cs

/-- The hexadecimal digit of a number below 16. -/
def hexDigit (n : Nat) : Char := if n < 10 then Char.ofNat (48 + n) else Char.ofNat (55 + n)

/-- A number in hexadecimal digits, this many of them. -/
def hexDigits : Nat → Nat → List Char
  | 0, _ => []
  | width + 1, n => hexDigits width (n / 16) ++ [hexDigit (n % 16)]

/-- The letter that stands for a character behind a backslash, if it has one. -/
def escapeLetter? (c : Char) : Option Char :=
  match c.toNat with
  | 0x00 => some '0'
  | 0x07 => some 'a'
  | 0x08 => some 'b'
  | 0x09 => some 't'
  | 0x0a => some 'n'
  | 0x0b => some 'v'
  | 0x0c => some 'f'
  | 0x0d => some 'r'
  | 0x1b => some 'e'
  | 0x22 => some '"'
  | 0x5c => some '\\'
  | 0x85 => some 'N'
  | 0xa0 => some '_'
  | 0x2028 => some 'L'
  | 0x2029 => some 'P'
  | _ => none

/-- A character behind a backslash: its letter, or its number. -/
def escape (c : Char) : List Char :=
  match escapeLetter? c with
  | some letter => ['\\', letter]
  | none =>
    if c.toNat ≤ 0xff then '\\' :: 'x' :: hexDigits 2 c.toNat
    else if c.toNat ≤ 0xffff then '\\' :: 'u' :: hexDigits 4 c.toNat
    else '\\' :: 'U' :: hexDigits 8 c.toNat

/-- A character between double quotes. -/
def writeDoubleChar (c : Char) : List Char :=
  if !isPrintable c || isBreak c || c = '"' || c = '\\' then escape c else [c]

/-- How the header of a literal block tells its indentation: only if the first line begins with a
space or is empty. -/
def indentHint : List Char → List Char
  | [] => []
  | c :: _ => if c = ' ' || isBreak c then ['2'] else []

/-- How the header of a literal block tells its last line ends: none, one, or all that there are. -/
def chompHint (cs : List Char) : List Char :=
  match cs.reverse with
  | [] => ['-']
  | [c] => if isBreak c then ['+'] else ['-']
  | c :: d :: _ => if isBreak c then if isBreak d then ['+'] else [] else ['-']

/-- A text as a scalar, up to the blanks at its end. -/
def writeText (s : String) : List Char :=
  let cs := s.toList
  match styleOf s with
  | .plain => cs
  | .singleQuoted => '\'' :: writeSingle false cs ++ ['\'']
  | .doubleQuoted => '"' :: cs.flatMap writeDoubleChar ++ ['"']
  | .literal => '|' :: indentHint cs ++ chompHint cs ++ '\n' :: writeLiteral true cs

/-- A text as a scalar without blanks at its end. -/
def textScalar (s : String) : List Char := Text.dropTrailingBlanks (writeText s)

/-- A number as a scalar. -/
def numberScalar (x : Binary64) : List Char := NumberLayout.yaml.write x

/-- A truth value as a scalar. -/
def boolScalar (b : Bool) : List Char :=
  if b then ['t', 'r', 'u', 'e'] else ['f', 'a', 'l', 's', 'e']

end NoteForms.Yaml
