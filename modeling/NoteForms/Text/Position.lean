/-!
# Places in a text

A reader names a place by the characters that are left to read, and by how many bytes of them it has
gone past; line and column are counted when the place is shown.
-/

namespace NoteForms.Text

/-- The number of bytes of some characters in UTF-8. -/
def utf8Length (cs : List Char) : Nat := cs.foldl (fun n c => n + c.utf8Size) 0

/-- A line and a column, the line counted from one. -/
structure LineColumn where
  line : Nat
  column : Nat
  deriving DecidableEq, Repr

/-- The line, and the bytes of that line that come before, after `count` bytes of a text.  A
character that is cut counts with the bytes before the cut. -/
def byteColumn (count : Nat) (at_ : LineColumn) : List Char → LineColumn
  | [] => at_
  | c :: cs =>
    if count = 0 then at_
    else if c = '\n' then byteColumn (count - 1) ⟨at_.line + 1, 0⟩ cs
    else byteColumn (count - c.utf8Size) ⟨at_.line, at_.column + min count c.utf8Size⟩ cs

/-- A place: the characters still to be read, and the bytes of them gone past. -/
structure Place where
  rest : List Char
  past : Nat

/-- The place before the next character. -/
def Place.here (rest : List Char) : Place := ⟨rest, 0⟩

/-- The place after the first byte of the next character; at the end of the text, the end. -/
def Place.next (rest : List Char) : Place := ⟨rest, if rest.isEmpty then 0 else 1⟩

/-- The bytes of a text that come before a place in it. -/
def Place.offset (p : Place) (source : List Char) : Nat :=
  utf8Length source - utf8Length p.rest + p.past

/-- Line and column of a place in a text, the column counted in bytes. -/
def Place.locate (p : Place) (source : List Char) : LineColumn :=
  byteColumn (p.offset source) ⟨1, 0⟩ source

end NoteForms.Text
