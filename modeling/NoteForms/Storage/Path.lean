import NoteForms.Text.Lines

/-!
# Paths

A path is a text in which slashes separate names.  It is kept as it was given, since it is shown
that way; empty pieces and dots matter only where a path is cut.
-/

namespace NoteForms

/-- The path of a file or directory. -/
structure Path where
  text : String
  deriving DecidableEq

namespace Path

/-- The characters of a path. -/
def chars (p : Path) : List Char := p.text.toList

/-- The pieces between the slashes. -/
def pieces (p : Path) : List (List Char) := Text.splitChars '/' p.chars

/-- The names that lead to the end of the path, in order. -/
def names (p : Path) : List String :=
  (p.pieces.filter fun piece => !piece.isEmpty).map String.ofList

/-- Whether the path starts from the root. -/
def isAbsolute (p : Path) : Bool := p.chars.head? = some '/'

/-- Whether the path ends with a slash, and so asks for a directory. -/
def endsWithSlash (p : Path) : Bool := p.chars.getLast? = some '/'

/-- A path that continues another, unless it starts from the root. -/
def join (p : Path) (next : String) : Path :=
  if (Path.mk next).isAbsolute then ⟨next⟩
  else if p.text.isEmpty || p.endsWithSlash then ⟨p.text ++ next⟩
  else ⟨p.text ++ "/" ++ next⟩

/-- Pieces, last one first, from the first one on that is a name.  The piece that begins the path is
kept whatever it is. -/
def dropIdle : List (List Char) → List (List Char)
  | [] => []
  | [piece] => [piece]
  | piece :: pieces => if piece = [] ∨ piece = ['.'] then dropIdle pieces else piece :: pieces

/-- The path of pieces, last one first. -/
def ofPieces : List (List Char) → Path
  | [[]] => ⟨"/"⟩
  | pieces => ⟨String.ofList (Text.joinChars ['/'] pieces.reverse)⟩

/-- The path of the directory that holds the end of the path.  The root has none, and no path has
none. -/
def parent? (p : Path) : Option Path :=
  match dropIdle p.pieces.reverse with
  | [] => none
  | [[]] => none
  | _ :: pieces => some (ofPieces (dropIdle pieces))

/-- The path beside another to which a file is written before it takes the place of the other. -/
def draft (p : Path) : Path := ⟨p.text ++ ".tmp"⟩

end Path

end NoteForms
