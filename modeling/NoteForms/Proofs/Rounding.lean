import Mathlib.Tactic.Ring
import NoteForms.Proofs.WrittenNumber

/-!
# Rounding decimals

The number nearest to a decimal depends on the value of the decimal only, not on how many zeros
stand among its digits (`Decimal.toMagnitude_shift`), and the decimal with the fewest digits that is
looked for among those that read back does read back (`Binary64.toMagnitude_shortest`).
-/

namespace NoteForms

/-! ## Rounding depends on the quotient -/

namespace Binary64

theorem divNearest_scale {k : ℕ} (hk : 0 < k) (n d : ℕ) :
    divNearest (k * n) (k * d) = divNearest n d := by
  have hrest : 2 * (k * (n % d)) = k * (2 * (n % d)) := by ring
  simp only [divNearest, Nat.mul_div_mul_left _ _ hk, Nat.mul_mod_mul_left, hrest,
    Nat.mul_lt_mul_left hk]

theorem nearestMagnitude_scale {k : ℕ} (hk : 0 < k) (n d : ℕ) :
    nearestMagnitude (k * n) (k * d) = nearestMagnitude n d := by
  simp only [nearestMagnitude, Nat.mul_div_mul_left _ _ hk, Nat.mul_assoc, divNearest_scale hk]

theorem nearestMagnitude_zero {n d : ℕ} (h : 2 * n < d) : nearestMagnitude n d = 0 := by
  have hquotient : n / d = 0 := Nat.div_eq_of_lt (by omega)
  have hrest : n % d = n := Nat.mod_eq_of_lt (by omega)
  have hspacing : spacing 0 = 1 := by decide
  simp [nearestMagnitude, divNearest, hquotient, hspacing, hrest, h]

/-- Rounding does not go below a power of two. -/
theorem two_pow_le_nearestMagnitude {k n : ℕ} (h : 2 ^ k ≤ n) : 2 ^ k ≤ nearestMagnitude n 1 := by
  have hn : n ≠ 0 := fun hzero => absurd h (by rw [hzero]; exact Nat.not_le.2 (Nat.two_pow_pos k))
  have hstep : spacing n = 2 ^ (n.log2 - 52) := rfl
  have hpow : 2 ^ (n.log2 - (n.log2 - 52)) * 2 ^ (n.log2 - 52) = 2 ^ n.log2 := by
    rw [← Nat.pow_add, Nat.sub_add_cancel (Nat.sub_le _ _)]
  have hquotient : 2 ^ (n.log2 - (n.log2 - 52)) ≤ n / spacing n := by
    rw [Nat.le_div_iff_mul_le (spacing_pos n), hstep, hpow]
    exact Nat.log2_self_le hn
  have hnearest : n / spacing n ≤ divNearest n (spacing n) := by
    simp only [divNearest]
    split_ifs <;> omega
  calc 2 ^ k
      ≤ 2 ^ n.log2 := Nat.pow_le_pow_right (by decide) ((Nat.le_log2 hn).2 h)
    _ = 2 ^ (n.log2 - (n.log2 - 52)) * spacing n := by rw [hstep, hpow]
    _ ≤ divNearest n (spacing n) * spacing n := Nat.mul_le_mul_right _ (hquotient.trans hnearest)
    _ = nearestMagnitude n 1 := by simp [nearestMagnitude]

/-! Of the constants of the format only that they are powers of two is used, and how they compare
with one power of ten. -/

theorem exists_unitsPerOne : ∃ k, 1074 = k ∧ unitsPerOne = Nat.pow 2 k := by
  refine ⟨_, rfl, ?_⟩
  decide +kernel

theorem exists_limit : ∃ k, limit = 2 ^ k := ⟨2098, by decide +kernel⟩

theorem exists_limit_le : ∃ k ≤ 401, limit ≤ 10 ^ k * unitsPerOne :=
  ⟨401, by decide, by decide +kernel⟩

theorem four_units_le : 4 * unitsPerOne ≤ 10 ^ 401 := by decide +kernel

end Binary64

namespace Decimal

open Binary64

theorem ten_pow_pos (n : ℕ) : 0 < 10 ^ n := Nat.pow_pos (by decide)

/-- The magnitude with the power of ten moved into the numerator, as far as it may be negative. -/
theorem toMagnitude_eq (digits : ℕ) {exponent : ℤ} {k : ℕ} (hk : 0 ≤ exponent + k) :
    toMagnitude ⟨digits, exponent⟩
      = nearestMagnitude (digits * 10 ^ (exponent + k).toNat * unitsPerOne) (10 ^ k) := by
  change nearestMagnitude (digits * 10 ^ exponent.toNat * unitsPerOne) (10 ^ (-exponent).toNat) = _
  rcases Int.le_total 0 exponent with he | he
  · have hsum : (exponent + k).toNat = exponent.toNat + k := by omega
    have hzero : (-exponent).toNat = 0 := by omega
    have hnumerator : digits * 10 ^ (exponent.toNat + k) * unitsPerOne
        = 10 ^ k * (digits * 10 ^ exponent.toNat * unitsPerOne) := by ring
    have hscale := nearestMagnitude_scale (ten_pow_pos k)
      (digits * 10 ^ exponent.toNat * unitsPerOne) 1
    rw [hsum, hnumerator, hzero, Nat.pow_zero, ← hscale, Nat.mul_one]
  · have hsum : (-exponent).toNat + (exponent + k).toNat = k := by omega
    have hzero : exponent.toNat = 0 := by omega
    have hnumerator : digits * 10 ^ (exponent + k).toNat * unitsPerOne
        = 10 ^ (exponent + k).toNat * (digits * 10 ^ 0 * unitsPerOne) := by ring
    have hdenominator : 10 ^ k = 10 ^ (exponent + k).toNat * 10 ^ (-exponent).toNat := by
      rw [← Nat.pow_add, Nat.add_comm, hsum]
    rw [hnumerator, hdenominator, nearestMagnitude_scale (ten_pow_pos _), hzero]

/-- A power of ten may stand among the digits or in the exponent. -/
theorem toMagnitude_shift (digits j : ℕ) (exponent : ℤ) :
    toMagnitude ⟨digits * 10 ^ j, exponent⟩ = toMagnitude ⟨digits, exponent + j⟩ := by
  rw [toMagnitude_eq (digits * 10 ^ j) (k := exponent.natAbs) (by omega),
    toMagnitude_eq digits (k := exponent.natAbs) (by omega)]
  have hsum : (exponent + j + exponent.natAbs).toNat = j + (exponent + exponent.natAbs).toNat := by
    omega
  rw [hsum, Nat.pow_add, Nat.mul_assoc digits]

theorem toMagnitude_trimmed (d : Decimal) : d.trimmed.toMagnitude = d.toMagnitude := by
  induction d using trimmed.induct with
  | case1 d h => rw [trimmed, if_pos h]
  | case2 d h ih =>
    have hdigits : d.digits / 10 * 10 ^ 1 = d.digits := by omega
    rw [trimmed, if_neg h, ih, ← Nat.cast_one, ← toMagnitude_shift, hdigits]

/-- A number beyond the format is not the nearest one of it. -/
theorem limit_le_toMagnitude {digits : ℕ} {exponent : ℤ} (hdigits : digits ≠ 0)
    (h : 400 < exponent) : limit ≤ toMagnitude ⟨digits, exponent⟩ := by
  obtain ⟨k, hk⟩ := exists_limit
  obtain ⟨j, hj, hle⟩ := exists_limit_le
  have hle : 2 ^ k ≤ digits * 10 ^ exponent.toNat * unitsPerOne :=
    calc 2 ^ k = limit := hk.symm
      _ ≤ 10 ^ j * unitsPerOne := hle
      _ ≤ 10 ^ exponent.toNat * unitsPerOne :=
        Nat.mul_le_mul_right _ (Nat.pow_le_pow_right (by decide) (by omega))
      _ ≤ digits * 10 ^ exponent.toNat * unitsPerOne :=
        Nat.mul_le_mul_right _ (Nat.le_mul_of_pos_left _ (Nat.pos_of_ne_zero hdigits))
  rw [hk, toMagnitude_eq digits (k := 0) (by omega), Nat.cast_zero, add_zero, Nat.pow_zero]
  exact two_pow_le_nearestMagnitude hle

/-- A number far below the least one is nearest to zero. -/
theorem toMagnitude_eq_zero {digits : ℕ} {exponent : ℤ} (h : exponent < -400 - digits.log2) :
    toMagnitude ⟨digits, exponent⟩ = 0 := by
  obtain ⟨k, hk⟩ : ∃ k : ℕ, (-exponent).toNat = k + (digits.log2 + 401) :=
    ⟨(-exponent).toNat - (digits.log2 + 401), by omega⟩
  have hzero : exponent.toNat = 0 := by omega
  have hlt : 2 * (digits * 10 ^ 0 * unitsPerOne) < 10 ^ (-exponent).toNat :=
    calc 2 * (digits * 10 ^ 0 * unitsPerOne)
        = 2 * unitsPerOne * digits := by ring
      _ < 2 * unitsPerOne * 2 ^ (digits.log2 + 1) :=
        Nat.mul_lt_mul_of_pos_left Nat.lt_log2_self (Nat.mul_pos (by decide) unitsPerOne_pos)
      _ = 2 ^ digits.log2 * (4 * unitsPerOne) := by ring
      _ ≤ 10 ^ digits.log2 * 10 ^ 401 :=
        Nat.mul_le_mul (Nat.pow_le_pow_left (by decide) _) four_units_le
      _ ≤ 10 ^ k * (10 ^ digits.log2 * 10 ^ 401) := Nat.le_mul_of_pos_left _ (ten_pow_pos k)
      _ = 10 ^ (-exponent).toNat := by rw [hk, Nat.pow_add, Nat.pow_add]
  change nearestMagnitude (digits * 10 ^ exponent.toNat * unitsPerOne) (10 ^ (-exponent).toNat) = 0
  rw [hzero, nearestMagnitude_zero hlt]

/-- A decimal whose nearest magnitude is that of a number is read as the number. -/
theorem toBinary64?_of_toMagnitude {d : Decimal} {x : Binary64}
    (h : d.toMagnitude = x.units.natAbs) : d.toBinary64? (x.units < 0) = some x := by
  have hzero (hm : d.toMagnitude = 0) : some (0 : Binary64) = some x := by
    obtain ⟨units, hunits⟩ := x
    obtain rfl : units = 0 := Int.natAbs_eq_zero.1 (h ▸ hm)
    rfl
  by_cases hdigits : d.digits = 0
  · rw [toBinary64?, if_pos hdigits]
    refine hzero ?_
    obtain ⟨digits, exponent⟩ := d
    obtain rfl : digits = 0 := hdigits
    have hmagnitude := nearestMagnitude_zero (n := 0) (d := 10 ^ (-exponent).toNat)
      (by simp)
    simpa [toMagnitude] using hmagnitude
  have hlarge : ¬400 < d.exponent := fun hlarge => by
    have hlimit := limit_le_toMagnitude hdigits hlarge
    exact absurd x.isMagnitude.1 (by rw [← h]; exact Nat.not_lt.2 hlimit)
  by_cases hsmall : d.exponent < -400 - d.digits.log2
  · rw [toBinary64?, if_neg hdigits, if_neg hlarge, if_pos hsmall]
    exact hzero (toMagnitude_eq_zero hsmall)
  · rw [toBinary64?, if_neg hdigits, if_neg hlarge, if_neg hsmall, h, ofMagnitude?,
      dif_pos x.isMagnitude]
    obtain ⟨units, hunits⟩ := x
    congr 2
    simp only [decide_eq_true_eq]
    split <;> omega

end Decimal

/-! ## The fewest digits read back -/

namespace Binary64

open Decimal

theorem toMagnitude_of_cut? {tie : Tie} {m full count : ℕ} {d : Decimal}
    (h : cut? tie m full count = some d) : d.toMagnitude = m := by
  unfold cut? at h
  extract_lets dropped step below rest lower upper preferUpper at h
  clear_value lower upper preferUpper
  split_ifs at h with hlower hupper <;> cases h
  all_goals assumption

/-- All the digits of a magnitude read back. -/
theorem toMagnitude_full {m k : ℕ} {exponent : ℤ} (hm : IsMagnitude m)
    (hunits : unitsPerOne = Nat.pow 2 k) (hk : exponent + k = 0) :
    toMagnitude ⟨m * Nat.pow 5 k, exponent⟩ = m := by
  have hnumerator : m * Nat.pow 5 k * 10 ^ (exponent + k).toNat * Nat.pow 2 k = 10 ^ k * m := by
    rw [hk, Int.toNat_zero, Nat.pow_zero, Nat.mul_one, Nat.mul_assoc, Nat.pow_eq, Nat.pow_eq,
      ← Nat.mul_pow, Nat.mul_comm]
  rw [toMagnitude_eq _ (Int.le_of_eq hk.symm), hunits, hnumerator, ← Nat.mul_one (10 ^ k),
    Nat.mul_assoc, Nat.one_mul, nearestMagnitude_scale (ten_pow_pos k)]
  exact nearestMagnitude_of_isMagnitude hm

theorem toMagnitude_shortest (tie : Tie) {m : ℕ} (hm : IsMagnitude m) :
    (shortest tie m).toMagnitude = m := by
  by_cases hzero : m = 0
  · rw [shortest, if_pos hzero, hzero]
    decide +kernel
  rw [shortest, if_neg hzero, toMagnitude_trimmed]
  cases hfound : (List.range 17).findSome? fun i => cut? tie m (m * Nat.pow 5 1074) (i + 1) with
  | none =>
    obtain ⟨k, hk, hunits⟩ := exists_unitsPerOne
    rw [Option.getD_none, hk]
    exact toMagnitude_full hm hunits (by omega)
  | some d =>
    obtain ⟨i, -, hcut⟩ := List.exists_of_findSome?_eq_some hfound
    exact toMagnitude_of_cut? hcut

end Binary64

end NoteForms
