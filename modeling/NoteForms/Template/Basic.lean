import NoteForms.Text.Blank
import NoteForms.Text.Case

/-!
# Templates

A template is a list of segments: text that is kept, variables that answers are put in for, and
blocks of frontmatter.
-/

namespace NoteForms

/-- How the text put in for a variable is changed. -/
inductive Transform
  | upper
  | lower
  | trim
  deriving DecidableEq

namespace Transform

/-- Every transform. -/
def all : List Transform := [.upper, .lower, .trim]

/-- The name of a transform. -/
def name : Transform → String
  | .upper => "upper"
  | .lower => "lower"
  | .trim => "trim"

/-- The transform of a name. -/
def ofName? (name : String) : Option Transform := all.find? fun t => t.name == name

/-- The changed text. -/
def apply : Transform → String → String
  | .upper, s => Text.toUpper s
  | .lower, s => Text.toLower s
  | .trim, s => Text.trim s

end Transform

/-- A segment of a template. -/
inductive Segment
  | text (value : String)
  | variable (name : String) (transform : Option Transform)
  | frontmatter (picked omitted : List String)
  deriving DecidableEq

/-- A note template. -/
abbrev Template := List Segment

/-- The names that a segment mentions. -/
def Segment.names : Segment → List String
  | .text _ => []
  | .variable name _ => [name]
  | .frontmatter picked omitted => picked ++ omitted

namespace Template

/-- Names with one more at the end, unless it is among them. -/
def addName (names : List String) (name : String) : List String :=
  if names.contains name then names else names ++ [name]

/-- Every name that a template mentions, once, in order of first appearance. -/
def variableNames (t : Template) : List String := (t.flatMap Segment.names).foldl addName []

/-- The names that a template mentions and that are not among `known`. -/
def unknownVariables (t : Template) (known : List String) : List String :=
  t.variableNames.filter fun name => !known.contains name

end Template

end NoteForms
