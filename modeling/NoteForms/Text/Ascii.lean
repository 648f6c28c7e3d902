/-!
# Letters of English

Where only the letters from a to z count, case is the same in every language, and any other
character stands for itself.
-/

namespace NoteForms.Text

/-- A text with the letters from A to Z in lower case. -/
def lowerAscii (s : String) : String := String.ofList (s.toList.map Char.toLower)

/-- Whether two texts are the same but for the case of the letters from A to Z. -/
def sameIgnoringCase (s t : String) : Bool := lowerAscii s == lowerAscii t

/-- The runs of letters from A to Z and digits in some characters, read behind a run that has
begun. -/
def wordsFrom (run : List Char) : List Char → List (List Char)
  | [] => if run.isEmpty then [] else [run]
  | c :: cs =>
    if c.isAlphanum then wordsFrom (run ++ [c]) cs
    else if run.isEmpty then wordsFrom [] cs
    else run :: wordsFrom [] cs

/-- The runs of letters from A to Z and digits. -/
def words (s : String) : List String := (wordsFrom [] s.toList).map String.ofList

end NoteForms.Text
