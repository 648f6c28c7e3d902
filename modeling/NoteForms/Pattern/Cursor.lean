import NoteForms.Pattern.Fault
import NoteForms.Text.Blank

/-!
# Going through a pattern

A cursor stands before a character of a pattern.  In extended mode blanks and comments between the
pieces of a pattern are skipped.
-/

namespace NoteForms.Pattern

/-- A place in a pattern: what is left to read, how many characters come before it, and whether
blanks are skipped. -/
structure Cursor where
  rest : List Char
  index : Nat
  extended : Bool

/-- Something read, and the cursor behind it. -/
abbrev Step (α : Type) := α × Cursor

namespace Cursor

/-- The start of a pattern. -/
def start (source : List Char) : Cursor := ⟨source, 0, false⟩

/-- Whether nothing is left. -/
def atEnd (c : Cursor) : Bool := c.rest.isEmpty

/-- Whether the next character is this one. -/
def looksAt (c : Cursor) (ch : Char) : Bool := c.rest.head? == some ch

/-- The cursor so many characters on. -/
def skip (c : Cursor) (count : Nat) : Cursor :=
  { c with rest := c.rest.drop count, index := c.index + min count c.rest.length }

/-- The cursor behind the next character. -/
def bump (c : Cursor) : Cursor := c.skip 1

/-- The number of characters of a comment, its line end included. -/
def commentLength (cs : List Char) : Nat :=
  let body := (cs.takeWhile (· != '\n')).length
  if body < cs.length then body + 1 else body

/-- How many characters of blanks and comments come next; `fuel` bounds their pieces. -/
def spaceLength : Nat → List Char → Nat
  | 0, _ => 0
  | _, [] => 0
  | fuel + 1, c :: cs =>
    if Text.isBlank c then 1 + spaceLength fuel cs
    else if c = '#' then
      let n := commentLength (c :: cs)
      n + spaceLength fuel ((c :: cs).drop n)
    else 0

/-- The cursor behind blanks and comments, if they are skipped. -/
def skipSpace (c : Cursor) : Cursor :=
  if c.extended then c.skip (spaceLength (c.rest.length + 1) c.rest) else c

/-- The cursor behind the next character and the space after it. -/
def next (c : Cursor) : Cursor := c.bump.skipSpace

/-- The cursor behind some characters, if they come next. -/
def behind? (c : Cursor) (expected : List Char) : Option Cursor :=
  if expected.isPrefixOf c.rest then some (c.skip expected.length) else none

/-- The character after the next one. -/
def second? (c : Cursor) : Option Char := (c.rest.drop 1).head?

/-- The first of some characters that is neither blank nor the number sign before a comment. -/
def significant? : Bool → List Char → Option Char
  | _, [] => none
  | seenSign, c :: cs =>
    if Text.isBlank c then significant? seenSign cs
    else if !seenSign && c = '#' then significant? true cs
    else some c

/-- The character after the next one, with space skipped in extended mode. -/
def secondBehindSpace? (c : Cursor) : Option Char :=
  if c.extended then (significant? false (c.rest.drop 1)).or c.second? else c.second?

/-- The empty span at the cursor. -/
def here (c : Cursor) : Span := ⟨c.index, c.index⟩

/-- The span of the next character. -/
def nextSpan (c : Cursor) : Span := ⟨c.index, c.index + 1⟩

/-- The span from one cursor to another. -/
def spanTo (c d : Cursor) : Span := ⟨c.index, d.index⟩

end Cursor

/-- A fault of a pattern. -/
def fail (problem : Problem) (span : Span) : Except Fault α := .error ⟨problem, span⟩

end NoteForms.Pattern
