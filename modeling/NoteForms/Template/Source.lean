import NoteForms.Template.Basic

/-!
# The source of a template

A template written as the text that a person edits.
-/

namespace NoteForms

/-- Names after each other, with a comma between them. -/
def writeNames : List String → List Char
  | [] => []
  | [name] => name.toList
  | name :: names => name.toList ++ ',' :: ' ' :: writeNames names

/-- A clause of a frontmatter block; there is none for no names. -/
def writeClause (label : String) (names : List String) : List Char :=
  if names.isEmpty then [] else ' ' :: label.toList ++ ':' :: ' ' :: writeNames names

/-- The source of a segment. -/
def Segment.source : Segment → List Char
  | .text value => value.toList
  | .variable name none => '{' :: '{' :: name.toList ++ ['}', '}']
  | .variable name (some t) =>
    ['{', '{', ' '] ++ name.toList ++ [' ', '|', ' '] ++ t.name.toList ++ [' ', '}', '}']
  | .frontmatter picked omitted =>
    ['{', '#', ' '] ++ "frontmatter".toList ++ writeClause "pick" picked
      ++ writeClause "omit" omitted ++ [' ', '#', '}']

/-- The source of a template, segment after segment. -/
def Template.source (t : Template) : String := String.ofList (t.flatMap Segment.source)

end NoteForms
