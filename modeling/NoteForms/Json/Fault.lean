import NoteForms.Text.Position

/-!
# Faults of JSON texts

What can be wrong with a JSON text, in the words that are shown, and where.
-/

namespace NoteForms.Json

/-- What is wrong with a JSON text. -/
inductive Problem
  | endInList
  | endInObject
  | endInString
  | endInValue
  | expectedColon
  | expectedListCommaOrEnd
  | expectedObjectCommaOrEnd
  | expectedWord
  | expectedValue
  | invalidEscape
  | invalidNumber
  | numberOutOfRange
  | controlCharacter
  | nameNotString
  | loneSurrogate
  | endOfSurrogatePair
  | trailingComma
  | trailingCharacters
  | tooDeep
  deriving DecidableEq

/-- The words of a problem. -/
def Problem.message : Problem → String
  | .endInList => "EOF while parsing a list"
  | .endInObject => "EOF while parsing an object"
  | .endInString => "EOF while parsing a string"
  | .endInValue => "EOF while parsing a value"
  | .expectedColon => "expected `:`"
  | .expectedListCommaOrEnd => "expected `,` or `]`"
  | .expectedObjectCommaOrEnd => "expected `,` or `\x7d`"
  | .expectedWord => "expected ident"
  | .expectedValue => "expected value"
  | .invalidEscape => "invalid escape"
  | .invalidNumber => "invalid number"
  | .numberOutOfRange => "number out of range"
  | .controlCharacter =>
    "control character (\\u0000-\\u001F) found while parsing a string"
  | .nameNotString => "key must be a string"
  | .loneSurrogate => "lone leading surrogate in hex escape"
  | .endOfSurrogatePair => "unexpected end of hex escape"
  | .trailingComma => "trailing comma"
  | .trailingCharacters => "trailing characters"
  | .tooDeep => "recursion limit exceeded"

/-- A problem and its place. -/
structure Fault (ε : Type) where
  problem : ε
  place : Text.Place

/-- A problem together with line and column, in words. -/
def locatedMessage (message : String) (at_ : Text.LineColumn) : String :=
  message ++ " at line " ++ toString at_.line ++ " column " ++ toString at_.column

/-- What a reader has read, and the characters left. -/
abbrev Parsed (α : Type) := α × List Char

/-- The result of reading, or a fault. -/
abbrev Reading (ε : Type) := Except (Fault ε)

/-- The problem at the place before the next character. -/
def faultHere (problem : ε) (rest : List Char) : Reading ε α :=
  .error ⟨problem, .here rest⟩

/-- The problem at the place after the next character. -/
def faultNext (problem : ε) (rest : List Char) : Reading ε α :=
  .error ⟨problem, .next rest⟩

/-- A result with its problem embedded among others. -/
def mapProblem (f : ε → δ) : Reading ε α → Reading δ α
  | .ok r => .ok r
  | .error e => .error ⟨f e.problem, e.place⟩

end NoteForms.Json
