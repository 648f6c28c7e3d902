import NoteForms.Number.Binary64

/-!
# The fewest digits that read back

A magnitude of `m` units is exactly `m * 5 ^ 1074` over 10 to the power 1074, so its full decimal
expansion is a whole number.  Cutting that expansion after 1, 2, … digits gives two neighbours on
each decimal grid; the first grid with a neighbour that reads back as `m` has the fewest digits,
and of two such neighbours the nearer is chosen.
-/

namespace NoteForms

/-- A decimal number: `digits` times 10 to the power `exponent`. -/
structure Decimal where
  digits : Nat
  exponent : Int
  deriving DecidableEq, Repr

namespace Decimal

/-- The magnitude in units that is nearest to a decimal number. -/
def toMagnitude (d : Decimal) : Nat :=
  Binary64.nearestMagnitude (d.digits * Nat.pow 10 d.exponent.toNat * unitsPerOne)
    (Nat.pow 10 (-d.exponent).toNat)

/-- The binary64 number nearest to a signed decimal one; none when it overflows.  The two bounds
only keep the powers of ten small: beyond them the number overflows, or rounds to zero. -/
def toBinary64? (negative : Bool) (d : Decimal) : Option Binary64 :=
  if d.digits = 0 then some 0
  else if 400 < d.exponent then none
  else if d.exponent < -400 - d.digits.log2 then some 0
  else Binary64.ofMagnitude? negative d.toMagnitude

/-- The same number without trailing zeros among its digits. -/
def trimmed (d : Decimal) : Decimal :=
  if d.digits = 0 ∨ d.digits % 10 ≠ 0 then d else trimmed ⟨d.digits / 10, d.exponent + 1⟩
termination_by d.digits
decreasing_by omega

end Decimal

/-- Which of two equally near decimals stands for a number. -/
inductive Tie
  | toEven
  | up
  deriving DecidableEq

namespace Binary64

/-- How many decimal digits a whole number has. -/
def digitCount (n : Nat) : Nat := (Nat.toDigits 10 n).length

/-- The neighbour of the expansion `full` with `count` digits that reads back as `m`, if any: the
nearer of two, and of two equally near ones that which `tie` names. -/
def cut? (tie : Tie) (m full count : Nat) : Option Decimal :=
  let dropped := digitCount full - count
  let step := Nat.pow 10 dropped
  let below := full / step
  let rest := full % step
  let lower : Decimal := ⟨below, (dropped : Int) - 1074⟩
  let upper : Decimal := ⟨below + 1, (dropped : Int) - 1074⟩
  let preferUpper : Bool :=
    if 2 * rest = step then tie = .up ∨ below % 2 = 1 else step < 2 * rest
  if lower.toMagnitude = m then
    if upper.toMagnitude = m then some (if preferUpper then upper else lower) else some lower
  else if upper.toMagnitude = m then some upper
  else none

/-- The decimal with the fewest digits that reads back as the magnitude `m`. -/
def shortest (tie : Tie) (m : Nat) : Decimal :=
  if m = 0 then ⟨0, 0⟩
  else
    let full := m * Nat.pow 5 1074
    (((List.range 17).findSome? fun i => cut? tie m full (i + 1)).getD ⟨full, -1074⟩).trimmed

end Binary64

end NoteForms
