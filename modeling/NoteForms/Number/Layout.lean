import NoteForms.Number.Shortest

/-!
# How a number is written

One record per format holds the format's decisions; the digits are the fewest that read back in
every one of them.  A small whole number is an integer in all of them.
-/

namespace NoteForms

/-- The decisions of a number format. -/
structure NumberLayout where
  /-- Whether a number with this decimal exponent is written without an exponent. -/
  positional : Int → Bool
  /-- Whether a whole number keeps a fraction of one zero. -/
  wholeFraction : Bool
  /-- Whether a positive exponent carries a sign. -/
  plusSign : Bool
  /-- Which of two equally near decimals is written. -/
  tie : Tie

namespace NumberLayout

/-- Numbers in JSON: exponents from -5 to 15 are positional, and `1e+16` has a sign. -/
def json : NumberLayout := ⟨fun e => -5 ≤ e ∧ e < 16, true, true, .toEven⟩

/-- Numbers in YAML: as in JSON, with `1e16` unsigned. -/
def yaml : NumberLayout := ⟨fun e => -5 ≤ e ∧ e < 16, true, false, .toEven⟩

/-- Numbers shown to a person never have an exponent. -/
def plain : NumberLayout := ⟨fun _ => true, false, false, .up⟩

/-- Digits without an exponent: padded with zeros, cut by a point, or led by zeros. -/
def writePositional (l : NumberLayout) (digits : List Char) (exponent : Int) : List Char :=
  if 0 ≤ exponent then
    digits ++ List.replicate exponent.toNat '0' ++ (if l.wholeFraction then ['.', '0'] else [])
  else
    let places := (-exponent).toNat
    if places < digits.length then
      digits.take (digits.length - places) ++ '.' :: digits.drop (digits.length - places)
    else '0' :: '.' :: List.replicate (places - digits.length) '0' ++ digits

/-- Digits with an exponent: one before the point, the others behind it. -/
def writeScientific (l : NumberLayout) (digits : List Char) (scale : Int) : List Char :=
  let head := digits.take 1 ++ (if digits.length = 1 then [] else '.' :: digits.drop 1)
  let sign := if scale < 0 then ['-'] else if l.plusSign then ['+'] else []
  head ++ 'e' :: sign ++ Nat.toDigits 10 scale.natAbs

/-- An unsigned decimal in this layout. -/
def writeDecimal (l : NumberLayout) (d : Decimal) : List Char :=
  let digits := Nat.toDigits 10 d.digits
  let scale := d.exponent + digits.length - 1
  if l.positional scale then l.writePositional digits d.exponent else l.writeScientific digits scale

/-- A number in this layout, whole or not. -/
def writeReal (l : NumberLayout) (x : Binary64) : List Char :=
  (if x.units < 0 then ['-'] else []) ++ l.writeDecimal (Binary64.shortest l.tie x.units.natAbs)

end NumberLayout

/-- A whole number in decimal digits. -/
def writeInt (n : Int) : List Char :=
  (if n < 0 then ['-'] else []) ++ Nat.toDigits 10 n.natAbs

/-- A number of a form in a given layout: small whole numbers are integers. -/
def NumberLayout.write (l : NumberLayout) (x : Binary64) : List Char :=
  if x.IsSmallWhole then writeInt x.toInt else l.writeReal x

end NoteForms
