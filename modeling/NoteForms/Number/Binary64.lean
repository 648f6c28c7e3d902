/-!
# Binary64 numbers, exactly

A finite binary64 number is a whole count of the least positive one, which is 2 to the power
-1074.  Keeping that count as an integer makes order and equality those of the integers, and lets
every law about printing and reading be stated without a floating-point unit.  The two zeros are
one number here: no answer of a form tells them apart.  The infinities and what is no number are
left out: no text is read as one of them, and only a program that fills in a form could give one.
-/

namespace NoteForms

/-- One, counted in least units. -/
def unitsPerOne : Nat := Nat.pow 2 1074

namespace Binary64

/-- Magnitudes from here on are beyond the format. -/
def limit : Nat := Nat.pow 2 2098

/-- The distance between neighbours at magnitude `m`: a number has at most 53 significant bits. -/
def spacing (m : Nat) : Nat := Nat.pow 2 (m.log2 - 52)

/-- The magnitudes of the format: below the limit and on the grid of their spacing. -/
def IsMagnitude (m : Nat) : Prop := m < limit ∧ spacing m ∣ m

instance (m : Nat) : Decidable (IsMagnitude m) := inferInstanceAs (Decidable (_ ∧ _))

theorem isMagnitude_zero : IsMagnitude 0 := ⟨by decide +kernel, Nat.dvd_zero _⟩

end Binary64

/-- A finite binary64 number, as a signed count of least units. -/
structure Binary64 where
  units : Int
  isMagnitude : Binary64.IsMagnitude units.natAbs
  deriving DecidableEq

namespace Binary64

instance : Zero Binary64 := ⟨⟨0, isMagnitude_zero⟩⟩

instance : LT Binary64 := ⟨fun x y => x.units < y.units⟩

instance : LE Binary64 := ⟨fun x y => x.units ≤ y.units⟩

instance (x y : Binary64) : Decidable (x < y) := inferInstanceAs (Decidable (x.units < y.units))

instance (x y : Binary64) : Decidable (x ≤ y) := inferInstanceAs (Decidable (x.units ≤ y.units))

/-- The lesser of two numbers. -/
def least (x y : Binary64) : Binary64 := if x ≤ y then x else y

/-- The greater of two numbers. -/
def greatest (x y : Binary64) : Binary64 := if x ≤ y then y else x

/-- The quotient rounded to the nearest whole number, a tie going to the even one. -/
def divNearest (n d : Nat) : Nat :=
  let q := n / d
  let r := n % d
  if 2 * r < d then q else if d < 2 * r then q + 1 else q + q % 2

/-- The magnitude nearest to `n / d` units, a tie going to the even neighbour.  It lies beyond the
limit exactly when the quotient overflows. -/
def nearestMagnitude (n d : Nat) : Nat :=
  let step := spacing (n / d)
  divNearest n (d * step) * step

/-- The number with a given sign and magnitude, if the format has it. -/
def ofMagnitude? (negative : Bool) (m : Nat) : Option Binary64 :=
  if h : IsMagnitude m then
    some ⟨if negative then -(m : Int) else m, by cases negative <;> simpa using h⟩
  else none

/-- The number nearest to a whole one. -/
def ofInt? (n : Int) : Option Binary64 :=
  ofMagnitude? (n < 0) (nearestMagnitude (n.natAbs * unitsPerOne) 1)

/-- The number nearest to a whole one of at most 64 bits, which never overflows. -/
def ofInt (n : Int) : Binary64 := (ofInt? n).getD 0

/-- Whole numbers below 10 to the power 15 are shown as integers. -/
def IsSmallWhole (x : Binary64) : Prop :=
  (unitsPerOne : Int) ∣ x.units ∧ x.units.natAbs < Nat.pow 10 15 * unitsPerOne

instance (x : Binary64) : Decidable x.IsSmallWhole := inferInstanceAs (Decidable (_ ∧ _))

/-- The whole part, which is the number itself when the number is whole. -/
def toInt (x : Binary64) : Int := x.units.tdiv unitsPerOne

end Binary64

end NoteForms
