import NoteForms.Answer.Basic
import NoteForms.Text.Lines
import NoteForms.Yaml.Scalar

/-!
# Frontmatter

Answers at the top of a note: one YAML key a line, the items of a list below theirs, all between two
lines of three dashes.
-/

namespace NoteForms

open Yaml

/-- The blanks in front of the lines that continue an item. -/
def itemIndent : List Char := [' ', ' ', ' ', ' ']

/-- A line that continues an item: indented unless it is empty. -/
def continueItem (line : List Char) : List Char :=
  if line.isEmpty then [] else itemIndent ++ line

/-- The lines of a scalar with all but the first indented below its item. -/
def indentItem (scalar : List Char) : List Char :=
  match Text.lines scalar with
  | [] => []
  | first :: rest => Text.joinChars ['\n'] (first :: rest.map continueItem)

/-- An item of a list. -/
def itemLines (item : String) : List Char :=
  [' ', ' ', '-', ' '] ++ indentItem (textScalar item) ++ ['\n']

/-- What follows a key: its answer and the end of the line. -/
def answerLines : Answer → List Char
  | .text s => ':' :: ' ' :: textScalar s ++ ['\n']
  | .number x => ':' :: ' ' :: numberScalar x ++ ['\n']
  | .flag b => ':' :: ' ' :: boolScalar b ++ ['\n']
  | .list [] => [':', ' ', '[', ']', '\n']
  | .list (item :: items) => ':' :: '\n' :: (item :: items).flatMap itemLines

namespace Answers

/-- The characters of the lines, key by key in order of name. -/
def yamlChars (answers : Answers) : List Char :=
  answers.entries.flatMap fun e => textScalar e.1 ++ answerLines e.2

/-- The answers as lines of YAML. -/
def yamlLines (answers : Answers) : String := String.ofList answers.yamlChars

/-- The answers as a block between delimiters. -/
def frontmatter (answers : Answers) : String := "---\n" ++ answers.yamlLines ++ "---\n"

end Answers

end NoteForms
