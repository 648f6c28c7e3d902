import NoteForms.Number.Shortest

/-!
# Numbers as they are typed

A typed number has an optional sign, digits with at most one point among or around them, and an
optional power of ten.  It is read as the nearest binary64 number; the words for infinity and for
no number are not read, nor is a number that overflows.
-/

namespace NoteForms

/-- The number that decimal digits stand for. -/
def digitsValue (digits : List Char) : Nat :=
  digits.foldl (fun n c => n * 10 + (c.toNat - 48)) 0

/-- A sign, if there is one, and what follows it. -/
def readSign : List Char → Bool × List Char
  | '-' :: cs => (true, cs)
  | '+' :: cs => (false, cs)
  | cs => (false, cs)

/-- The power of ten that ends a number: nothing, or a mark, an optional sign and digits. -/
def readPower? : List Char → Option Int
  | [] => some 0
  | mark :: cs =>
    if mark = 'e' ∨ mark = 'E' then
      let (negative, digits) := readSign cs
      if digits.isEmpty || !digits.all Char.isDigit then none
      else some (if negative then -(digitsValue digits : Int) else digitsValue digits)
    else none

/-- A number without its sign. -/
def readDecimal? (cs : List Char) : Option Decimal :=
  let whole := cs.takeWhile Char.isDigit
  let rest := cs.dropWhile Char.isDigit
  let (fraction, rest) :=
    match rest with
    | '.' :: r => (r.takeWhile Char.isDigit, r.dropWhile Char.isDigit)
    | r => ([], r)
  if whole.isEmpty && fraction.isEmpty then none
  else
    (readPower? rest).map fun power =>
      ⟨digitsValue (whole ++ fraction), power - fraction.length⟩

/-- The finite number that some characters spell. -/
def readTyped? (cs : List Char) : Option Binary64 :=
  let (negative, digits) := readSign cs
  (readDecimal? digits).bind fun d => d.toBinary64? negative

end NoteForms
