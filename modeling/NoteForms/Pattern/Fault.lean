import NoteForms.Pattern.Basic
import NoteForms.Text.Lines

/-!
# Faults of patterns

What can be wrong with a pattern, in words, and the pattern with the faulty parts underlined.
-/

namespace NoteForms.Pattern

/-- What is wrong with a pattern. -/
inductive Problem
  | classEscape
  | classRangeOrder
  | classRangeBound
  | classUnclosed
  | decimalEmpty
  | decimalInvalid
  | hexEmpty
  | hexInvalid
  | hexDigit
  | escapeUnfinished
  | escapeUnknown
  | negationDangling
  | flagRepeated (first : Span)
  | negationRepeated (first : Span)
  | flagUnfinished
  | flagUnknown
  | groupNameRepeated (first : Span)
  | groupNameEmpty
  | groupNameInvalid
  | groupNameUnfinished
  | groupUnclosed
  | groupUnopened
  | nestedTooDeep
  | countOrder
  | countEmpty
  | countUnclosed
  | nothingToRepeat
  | boundaryUnclosed
  | boundaryUnknown
  | boundaryUnfinished
  | propertySyntax
  | backreference
  | lookAround
  | unicodeNotAllowed
  | invalidUtf8
  | propertyUnknown
  | propertyValueUnknown
  deriving DecidableEq

/-- How deep a pattern may be nested. -/
def maxDepth : Nat := 250

/-- The words of a problem. -/
def Problem.message : Problem → String
  | .classEscape => "invalid escape sequence found in character class"
  | .classRangeOrder => "invalid character class range, the start must be <= the end"
  | .classRangeBound => "invalid range boundary, must be a literal"
  | .classUnclosed => "unclosed character class"
  | .decimalEmpty => "decimal literal empty"
  | .decimalInvalid => "decimal literal invalid"
  | .hexEmpty => "hexadecimal literal empty"
  | .hexInvalid => "hexadecimal literal is not a Unicode scalar value"
  | .hexDigit => "invalid hexadecimal digit"
  | .escapeUnfinished => "incomplete escape sequence, reached end of pattern prematurely"
  | .escapeUnknown => "unrecognized escape sequence"
  | .negationDangling => "dangling flag negation operator"
  | .flagRepeated _ => "duplicate flag"
  | .negationRepeated _ => "flag negation operator repeated"
  | .flagUnfinished => "expected flag but got end of regex"
  | .flagUnknown => "unrecognized flag"
  | .groupNameRepeated _ => "duplicate capture group name"
  | .groupNameEmpty => "empty capture group name"
  | .groupNameInvalid => "invalid capture group character"
  | .groupNameUnfinished => "unclosed capture group name"
  | .groupUnclosed => "unclosed group"
  | .groupUnopened => "unopened group"
  | .nestedTooDeep =>
    "exceed the maximum number of nested parentheses/brackets (" ++ toString maxDepth ++ ")"
  | .countOrder => "invalid repetition count range, the start must be <= the end"
  | .countEmpty => "repetition quantifier expects a valid decimal"
  | .countUnclosed => "unclosed counted repetition"
  | .nothingToRepeat => "repetition operator missing expression"
  | .boundaryUnclosed =>
    "special word boundary assertion is either unclosed or contains an invalid character"
  | .boundaryUnknown =>
    "unrecognized special word boundary assertion, valid choices are: start, end, start-half "
      ++ "or end-half"
  | .boundaryUnfinished =>
    "found either the beginning of a special word boundary or a bounded repetition on a \\b with "
      ++ "an opening brace, but no closing brace"
  | .propertySyntax => "invalid Unicode character class"
  | .backreference => "backreferences are not supported"
  | .lookAround => "look-around, including look-ahead and look-behind, is not supported"
  | .unicodeNotAllowed => "Unicode not allowed here"
  | .invalidUtf8 => "pattern can match invalid UTF-8"
  | .propertyUnknown => "Unicode property not found"
  | .propertyValueUnknown => "Unicode property value not found"

/-- The other part of the source that a problem speaks of. -/
def Problem.related : Problem → Option Span
  | .flagRepeated first => some first
  | .negationRepeated first => some first
  | .groupNameRepeated first => some first
  | _ => none

/-- A problem and the part of the source that it was found in. -/
structure Fault where
  problem : Problem
  span : Span
  deriving DecidableEq

/-! ## The source with its faults underlined -/

/-- A line and a column, both counted from one. -/
structure Mark where
  line : Nat
  column : Nat

/-- The mark before the character at an index. -/
def markOf (source : List Char) (index : Nat) : Mark :=
  let head := source.take index
  ⟨head.count '\n' + 1, (head.reverse.takeWhile (· != '\n')).length + 1⟩

/-- The parts that a fault underlines, in order. -/
def Fault.spans (f : Fault) : List Span :=
  match f.problem.related with
  | none => [f.span]
  | some first => if first.start ≤ f.span.start then [first, f.span] else [f.span, first]

/-- Carets under the columns from one on to another, but at least one caret. -/
def underline (pos first last : Nat) : List Char :=
  List.replicate (first - 1 - pos) ' ' ++ List.replicate (max 1 (last - first)) '^'

/-- Carets under the columns of some marks of one line, from a position on. -/
def underlines (pos : Nat) : List (Mark × Mark) → List Char
  | [] => []
  | (a, b) :: marks =>
    let carets := underline pos a.column b.column
    carets ++ underlines (pos + carets.length) marks

/-- How many digits a number has. -/
def decimalWidth (n : Nat) : Nat := (Nat.toDigits 10 n).length

/-- The line number in front of a line, if lines are numbered. -/
def lineLabel (width number : Nat) : List Char :=
  if width = 0 then [' ', ' ', ' ', ' ']
  else List.replicate (width - decimalWidth number) ' ' ++ Nat.toDigits 10 number ++ [':', ' ']

/-- The lines of a source from a number on, each followed by the carets for the marks on it. -/
def annotated (width : Nat) (marks : List (Mark × Mark)) : Nat → List (List Char) → List Char
  | _, [] => []
  | number, line :: lines =>
    let here := marks.filter fun m => m.1.line = number
    lineLabel width number ++ line ++ ['\n']
      ++ (if here.isEmpty then []
          else List.replicate (if width = 0 then 4 else 2 + width) ' '
            ++ underlines 0 here ++ ['\n'])
      ++ annotated width marks (number + 1) lines

/-- How many lines a source has, a last empty one included. -/
def lineCount (source : List Char) : Nat :=
  (Text.lines source).length + (if source.getLast? = some '\n' then 1 else 0)

/-- The words for a part that goes over several lines. -/
def rangeNote (m : Mark × Mark) : String :=
  "on line " ++ toString m.1.line ++ " (column " ++ toString m.1.column ++ ") through line "
    ++ toString m.2.line ++ " (column " ++ toString (m.2.column - 1) ++ ")"

/-- The rule above and below a source of several lines. -/
def rule : String := String.ofList (List.replicate 79 '~')

/-- The words of a fault, with its source. -/
def Fault.message (source : List Char) (f : Fault) : String :=
  let marks := f.spans.map fun s => (markOf source s.start, markOf source s.stop)
  let short := marks.filter fun m => m.1.line = m.2.line
  let long := marks.filter fun m => m.1.line ≠ m.2.line
  let count := lineCount source
  let width := if count ≤ 1 then 0 else decimalWidth count
  let shown := String.ofList (annotated width short 1 (Text.lines source))
  let notes := if long.isEmpty then "" else String.intercalate "\n" (long.map rangeNote) ++ "\n"
  "regex parse error:\n"
    ++ (if source.contains '\n' then rule ++ "\n" ++ shown ++ rule ++ "\n" ++ notes else shown)
    ++ "error: " ++ f.problem.message

end NoteForms.Pattern
