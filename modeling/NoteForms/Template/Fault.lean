import NoteForms.Text.Position

/-!
# Faults of templates

What can be wrong with the source of a template, in words, and where.  Lines and columns are counted
from one, columns in characters.
-/

namespace NoteForms.Template

/-- What is wrong with the source of a template. -/
inductive Problem
  | unterminatedVariable
  | unterminatedCommand
  | expectedName
  | expected (token : String)
  | unknownTransform (name : String)
  | unknownCommand (name : String)
  | unknownClause (name : String)
  | duplicateClause (label : String)
  deriving DecidableEq

/-- The words of a problem. -/
def Problem.message : Problem → String
  | .unterminatedVariable => "unterminated variable, expected `\x7d\x7d`"
  | .unterminatedCommand => "unterminated command, expected `#\x7d`"
  | .expectedName => "expected a name"
  | .expected token => "expected `" ++ token ++ "`"
  | .unknownTransform name => "unknown transformation \"" ++ name ++ "\""
  | .unknownCommand name => "unknown command \"" ++ name ++ "\""
  | .unknownClause name => "unknown frontmatter option \"" ++ name ++ "\""
  | .duplicateClause label => "`" ++ label ++ "` is given more than once"

/-- A problem and the characters from its place on. -/
structure Fault where
  problem : Problem
  rest : List Char
  deriving DecidableEq

/-- A problem with its place in the source: bytes before it, line and column. -/
structure SourceError where
  problem : Problem
  offset : Nat
  line : Nat
  column : Nat
  deriving DecidableEq

/-- The characters of a source before some of its last ones. -/
def before (source rest : List Char) : List Char := source.take (source.length - rest.length)

/-- Counts the place of a fault in its source. -/
def Fault.locate (source : List Char) (f : Fault) : SourceError :=
  let head := before source f.rest
  ⟨f.problem, Text.utf8Length head, head.count '\n' + 1,
    (head.reverse.takeWhile (· != '\n')).length + 1⟩

/-- The words of an error, with its place. -/
def SourceError.message (e : SourceError) : String :=
  e.problem.message ++ " (line " ++ toString e.line ++ ", column " ++ toString e.column ++ ")"

end NoteForms.Template
