import NoteForms.Number.Layout
import NoteForms.Table

/-!
# Answers

An answer is what a field of a form holds: a text, a number, a truth value or a list of texts.  The
numbers are finite, and zero has no sign.
-/

namespace NoteForms

/-- What a field of a form holds. -/
inductive Answer
  | text (s : String)
  /-- A finite number; an answer that is infinite or no number, and so not equal to itself, is left
  out, and with it what depends on that. -/
  | number (x : Binary64)
  | flag (b : Bool)
  | list (items : List String)
  deriving DecidableEq

namespace Answer

/-- Only a text and a list can be empty. -/
def isEmpty : Answer → Bool
  | .text s => s.isEmpty
  | .list items => items.isEmpty
  | .number _ => false
  | .flag _ => false

/-- The text of a text. -/
def text? : Answer → Option String
  | .text s => some s
  | _ => none

/-- The number of a number. -/
def number? : Answer → Option Binary64
  | .number x => some x
  | _ => none

/-- The truth value of a truth value. -/
def flag? : Answer → Option Bool
  | .flag b => some b
  | _ => none

/-- The items of a list. -/
def list? : Answer → Option (List String)
  | .list items => some items
  | _ => none

/-- A number as it is shown, never with an exponent. -/
def numberText (x : Binary64) : String := String.ofList (NumberLayout.plain.write x)

/-- An answer as it is shown; the items of a list are joined by commas. -/
def display : Answer → String
  | .text s => s
  | .number x => numberText x
  | .flag b => if b then "true" else "false"
  | .list items => String.intercalate "," items

end Answer

/-- Answers by the names of their fields. -/
abbrev Answers := Table Answer

namespace Answers

/-- The answers to some of the names: those picked, or all if none is, without those omitted. -/
def select (answers : Answers) (picked omitted : List String) : Answers :=
  answers.filter fun name _ => (picked.isEmpty || picked.contains name) && !omitted.contains name

end Answers

end NoteForms
