import NoteForms.Pattern.Basic

/-!
# The size of a pattern

A pattern is compiled to states, and a repetition with bounds to as many copies of what it repeats.
A pattern whose states need more memory than the limit is refused.  Classes of Unicode characters
are compiled to sequences of byte ranges, and count with the memory of the states that these need.
-/

namespace NoteForms.Pattern

/-- The greatest number of bytes that the states of a pattern may need. -/
def sizeLimit : Nat := 10 * Nat.pow 2 20

/-- The bytes of a state. -/
def stateSize : Nat := 32

/-- The bytes of a class of one letter. -/
def letterClassSize : LetterClass → Bool → Nat
  | .digit, false => 5184
  | .digit, true => 12824
  | .space, false => 680
  | .space, true => 1924
  | .word, false => 50316
  | .word, true => 46900

/-- The bytes of every character but a line feed. -/
def dotSize : Nat := 1000

/-- The bytes of a class by property, for a property of middling size. -/
def propertySize : Nat := 20000

/-- The bytes of a class with a name. -/
def namedSize (negated : Bool) : NamedClass → Nat
  | .property _ => propertySize
  | .letter kind => letterClassSize kind negated

/-- The bytes of a character. -/
def charSize (c : Char) : Nat := stateSize * c.utf8Size

mutual

/-- The bytes of what stands between brackets. -/
def ClassSet.size : ClassSet → Nat
  | .empty _ => 0
  | .literal l => if l.char.toNat < 128 then 8 else charSize l.char
  | .range first last =>
    if last.char.toNat < 128 then 8 else charSize first.char + charSize last.char
  | .ascii _ _ => 32
  | .named _ negated kind => namedSize negated kind
  | .bracketed _ negated content => content.size + (if negated then dotSize else 0)
  | .union _ parts => setsSize parts
  | .operation left right => max left.size right.size

/-- The bytes of parts side by side. -/
def setsSize : List ClassSet → Nat
  | [] => 0
  | s :: sets => s.size + setsSize sets

end

mutual

/-- Whether an expression can only match the empty text. -/
def Expr.isWidthless : Expr → Bool
  | .empty => true
  | .flags _ _ => true
  | .assertion _ => true
  | .literal _ => false
  | .dot _ => false
  | .named _ _ _ => false
  | .bracketed _ _ _ => false
  | .repeated _ count e => count.most == some 0 || e.isWidthless
  | .group _ _ _ e => e.isWidthless
  | .alternation _ es => areWidthless es
  | .sequence _ es => areWidthless es

/-- Whether expressions can only match the empty text. -/
def areWidthless : List Expr → Bool
  | [] => true
  | e :: es => e.isWidthless && areWidthless es

end

/-- A count of repetitions that make no difference after the first. -/
def Count.once (c : Count) : Count := ⟨min c.least 1, c.most.map (min 1)⟩

/-- The bytes of a repetition of something of a given size. -/
def repeatedSize (size : Nat) (count : Count) : Nat :=
  match count.most with
  | none => max 1 count.least * size + stateSize
  | some most =>
    if most = count.least then max stateSize (most * size)
    else count.least * size + stateSize + (most - count.least) * (size + stateSize)

mutual

/-- The bytes of an expression. -/
def Expr.size : Expr → Nat
  | .empty => stateSize
  | .flags _ _ => stateSize
  | .literal l => charSize l.char
  | .dot _ => dotSize
  | .assertion _ => stateSize
  | .named _ negated kind => namedSize negated kind
  | .bracketed _ negated content =>
    2 * stateSize + content.size + (if negated then dotSize else 0)
  | .repeated _ count e => repeatedSize e.size (if e.isWidthless then count.once else count)
  | .group _ captures _ e => e.size + (if captures then 2 * stateSize else 0)
  | .alternation _ es => exprsSize es + 2 * stateSize
  | .sequence _ es => exprsSize es

/-- The bytes of expressions one after the other. -/
def exprsSize : List Expr → Nat
  | [] => 0
  | e :: es => e.size + exprsSize es

end

end NoteForms.Pattern
