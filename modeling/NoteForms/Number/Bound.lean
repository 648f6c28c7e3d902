import NoteForms.Number.Layout

/-!
# Bounds

A form compares numbers with bounds.  What is read from text is always a finite number, but a form
that is put together by hand may hold a bound beyond all of them, or one that is no number and that
nothing is less or greater than.
-/

namespace NoteForms

/-- What a number is compared with. -/
inductive Bound
  | finite (x : Binary64)
  | infinite (negative : Bool)
  | undefined
  deriving DecidableEq

namespace Bound

instance : Coe Binary64 Bound := ⟨.finite⟩

/-- Whether the bound lies below a number. -/
def isBelow : Bound → Binary64 → Bool
  | .finite b, x => b < x
  | .infinite negative, _ => negative
  | .undefined, _ => false

/-- Whether the bound lies above a number. -/
def isAbove : Bound → Binary64 → Bool
  | .finite b, x => x < b
  | .infinite negative, _ => !negative
  | .undefined, _ => false

/-- The lesser of two bounds; one that is no number gives way to the other. -/
def least : Bound → Bound → Bound
  | .undefined, b => b
  | a, .undefined => a
  | .finite x, .finite y => .finite (Binary64.least x y)
  | .infinite true, _ => .infinite true
  | _, .infinite true => .infinite true
  | .infinite false, b => b
  | a, .infinite false => a

/-- The greater of two bounds; one that is no number gives way to the other. -/
def greatest : Bound → Bound → Bound
  | .undefined, b => b
  | a, .undefined => a
  | .finite x, .finite y => .finite (Binary64.greatest x y)
  | .infinite false, _ => .infinite false
  | _, .infinite false => .infinite false
  | .infinite true, b => b
  | a, .infinite true => a

/-- A bound as it is shown. -/
def text : Bound → String
  | .finite x => String.ofList (NumberLayout.plain.write x)
  | .infinite negative => if negative then "-inf" else "inf"
  | .undefined => "NaN"

end Bound

end NoteForms
