/-!
# Lines

A line ends with a line feed, or with a carriage return and a line feed; a last line without an end
counts only if it is not empty.
-/

namespace NoteForms.Text

/-- The pieces between the characters `sep`, one more than there are of them. -/
def splitChars (sep : Char) : List Char → List (List Char)
  | [] => [[]]
  | c :: cs =>
    if c = sep then [] :: splitChars sep cs
    else
      match splitChars sep cs with
      | [] => [[c]]
      | piece :: pieces => (c :: piece) :: pieces

/-- A line without the carriage return before its end. -/
def dropCarriageReturn (line : List Char) : List Char :=
  match line.getLast? with
  | some '\r' => line.dropLast
  | _ => line

/-- The lines of a text, without their ends. -/
def lines (cs : List Char) : List (List Char) :=
  let pieces := splitChars '\n' cs
  match pieces.getLast? with
  | some [] => pieces.dropLast.map dropCarriageReturn
  | some last => pieces.dropLast.map dropCarriageReturn ++ [last]
  | none => []

/-- Pieces joined by a separator. -/
def joinChars (sep : List Char) : List (List Char) → List Char
  | [] => []
  | [piece] => piece
  | piece :: pieces => piece ++ sep ++ joinChars sep pieces

end NoteForms.Text
