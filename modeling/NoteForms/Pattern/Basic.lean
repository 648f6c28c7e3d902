/-!
# Patterns

A pattern is a regular expression.  What is kept of one is what its check needs: the shape of the
expression, the part of the source that each piece was written in, and whether a piece speaks of
Unicode characters or of bytes.
-/

namespace NoteForms.Pattern

/-- A part of a source, by the numbers of characters before its start and before its end. -/
structure Span where
  start : Nat
  stop : Nat
  deriving DecidableEq, Repr

/-- The span from the start of one to the end of another. -/
def Span.to (a b : Span) : Span := ⟨a.start, b.stop⟩

/-- A character of a pattern; `isByte` if it was written with two hexadecimal digits, which name a
byte where Unicode is off. -/
structure Literal where
  span : Span
  char : Char
  isByte : Bool

/-- What a class written with braces or one letter asks for. -/
inductive PropertyQuery
  | named (name : String)
  | valued (name value : String)
  deriving DecidableEq

/-- The classes of one small letter. -/
inductive LetterClass
  | digit
  | space
  | word
  deriving DecidableEq

/-- A class of characters that is not written with brackets. -/
inductive NamedClass
  | property (query : PropertyQuery)
  | letter (kind : LetterClass)

/-- What stands between the brackets of a class. -/
inductive ClassSet
  | empty (span : Span)
  | literal (l : Literal)
  | range (first last : Literal)
  | ascii (span : Span) (negated : Bool)
  | named (span : Span) (negated : Bool) (kind : NamedClass)
  | bracketed (span : Span) (negated : Bool) (content : ClassSet)
  | union (span : Span) (parts : List ClassSet)
  | operation (left right : ClassSet)

/-- The part of the source that a set was written in. -/
def ClassSet.span : ClassSet → Span
  | .empty span => span
  | .literal l => l.span
  | .range first last => first.span.to last.span
  | .ascii span _ => span
  | .named span _ _ => span
  | .bracketed span _ _ => span
  | .union span _ => span
  | .operation left right => left.span.to right.span

/-- How often a piece may be repeated; there may be no greatest number. -/
structure Count where
  least : Nat
  most : Option Nat
  deriving DecidableEq

/-- Whether no count is excluded by being both too great and too small. -/
def Count.isOrdered (c : Count) : Bool := c.most.all fun most => c.least ≤ most

/-- The flags that can be set. -/
inductive Flag
  | caseInsensitive
  | multiLine
  | dotMatchesNewLine
  | swapGreed
  | unicode
  | crlf
  | extended
  deriving DecidableEq

/-- An item of a list of flags. -/
inductive FlagItem
  | negation
  | flag (f : Flag)
  deriving DecidableEq

/-- What a list of flags says of one of them. -/
def flagState (f : Flag) : List FlagItem → Option Bool
  | [] => none
  | .flag g :: items => if g = f then some true else flagState f items
  | .negation :: items => if items.contains (.flag f) then some false else none

/-- An expression. -/
inductive Expr
  | empty
  | flags (span : Span) (items : List FlagItem)
  | literal (l : Literal)
  | dot (span : Span)
  | assertion (span : Span)
  | named (span : Span) (negated : Bool) (kind : NamedClass)
  | bracketed (span : Span) (negated : Bool) (content : ClassSet)
  | repeated (span : Span) (count : Count) (e : Expr)
  | group (span : Span) (captures : Bool) (flags : List FlagItem) (e : Expr)
  | alternation (span : Span) (branches : List Expr)
  | sequence (span : Span) (parts : List Expr)

/-- The part of the source that an expression was written in; nothing asks for that of an empty
one. -/
def Expr.span : Expr → Span
  | .empty => ⟨0, 0⟩
  | .flags span _ => span
  | .literal l => l.span
  | .dot span => span
  | .assertion span => span
  | .named span _ _ => span
  | .bracketed span _ _ => span
  | .repeated span _ _ => span
  | .group span _ _ _ => span
  | .alternation span _ => span
  | .sequence span _ => span

end NoteForms.Pattern
