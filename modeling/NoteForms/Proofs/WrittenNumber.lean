import NoteForms.Json.Printer
import NoteForms.Proofs.Blanks

/-!
# Numbers that are written and read

A form writes a small whole number as an integer and any other as it is.  Rounding leaves a
magnitude of the format as it is, so either way the number comes back (`exists_ofBinary64`).  The
text of a number holds no blank, so trimming leaves it as it is (`trim_write`).
-/

namespace NoteForms

namespace Binary64

/-! ## Rounding -/

theorem unitsPerOne_pos : 0 < unitsPerOne := by decide +kernel

theorem spacing_pos (m : ℕ) : 0 < spacing m := Nat.pow_pos (by decide)

/-- A quotient without remainder needs no rounding. -/
theorem divNearest_mul (q : ℕ) {d : ℕ} (h : 0 < d) : divNearest (q * d) d = q := by
  unfold divNearest
  rw [Nat.mul_mod_left, Nat.mul_div_cancel _ h]
  exact if_pos h

theorem nearestMagnitude_of_isMagnitude {m : ℕ} (h : IsMagnitude m) :
    nearestMagnitude m 1 = m := by
  obtain ⟨q, hq⟩ := h.2
  calc nearestMagnitude m 1
      = divNearest m (spacing m) * spacing m := by
        simp only [nearestMagnitude, Nat.div_one, Nat.one_mul]
    _ = divNearest (q * spacing m) (spacing m) * spacing m := by rw [Nat.mul_comm q, ← hq]
    _ = q * spacing m := by rw [divNearest_mul q (spacing_pos m)]
    _ = m := by rw [Nat.mul_comm, ← hq]

/-- The whole part of a whole number has its magnitude, counted in ones. -/
theorem natAbs_toInt {x : Binary64} (h : x.IsSmallWhole) :
    x.toInt.natAbs * unitsPerOne = x.units.natAbs := by
  rw [toInt, Int.natAbs_tdiv, Int.natAbs_natCast]
  exact Nat.div_mul_cancel (Int.ofNat_dvd_left.1 h.1)

theorem toInt_neg_iff {x : Binary64} (h : x.IsSmallWhole) : x.toInt < 0 ↔ x.units < 0 := by
  obtain ⟨n, hn⟩ := h.1
  have hpos : (0 : ℤ) < unitsPerOne := Int.natCast_pos.2 unitsPerOne_pos
  have hint : x.toInt = n := by rw [toInt, hn, Int.mul_tdiv_cancel_left _ (Int.ne_of_gt hpos)]
  rw [hint, hn]
  exact ⟨Int.mul_neg_of_pos_of_neg hpos, fun h => Int.neg_of_mul_neg_right h hpos⟩

/-- A small whole number is the number nearest to its whole part. -/
theorem ofInt_toInt {x : Binary64} (h : x.IsSmallWhole) : ofInt x.toInt = x := by
  rw [ofInt, ofInt?, natAbs_toInt h, nearestMagnitude_of_isMagnitude x.isMagnitude, ofMagnitude?,
    dif_pos x.isMagnitude, Option.getD_some]
  obtain ⟨units, hunits⟩ := x
  congr 1
  simp only [toInt_neg_iff h, decide_eq_true_eq]
  split <;> omega

end Binary64

namespace Json

/-- A number of a form comes back as it was. -/
theorem exists_ofBinary64 (x : Binary64) :
    ∃ n : Number, ofBinary64 x = .num n ∧ n.toBinary64 = x := by
  unfold ofBinary64
  split
  · rename_i h
    exact ⟨_, rfl, Binary64.ofInt_toInt h⟩
  · exact ⟨_, rfl, rfl⟩

end Json

/-! ## The text of a number -/

/-- The characters that a number is written with. -/
def IsNumeral (c : Char) : Prop := c.isDigit ∨ c ∈ ['-', '+', '.', 'e']

instance (c : Char) : Decidable (IsNumeral c) := inferInstanceAs (Decidable (_ ∨ _))

theorem IsNumeral.not_isBlank {c : Char} (h : IsNumeral c) : Text.isBlank c = false := by
  rcases h with h | h
  · simp only [Char.isDigit, Bool.and_eq_true, decide_eq_true_eq, UInt32.le_iff_toNat_le] at h
    have hlow : 48 ≤ c.toNat := h.1
    have hhigh : c.toNat ≤ 57 := h.2
    simp [Text.isBlank, Text.inRanges, Text.blankRanges]
    omega
  · simp only [List.mem_cons, List.not_mem_nil, or_false] at h
    rcases h with rfl | rfl | rfl | rfl <;> decide

/-- Some characters that a number is written with. -/
def IsNumeralText (cs : List Char) : Prop := ∀ c ∈ cs, IsNumeral c

theorem isNumeralText_nil : IsNumeralText [] := by simp [IsNumeralText]

theorem isNumeralText_cons {c : Char} {cs : List Char} :
    IsNumeralText (c :: cs) ↔ IsNumeral c ∧ IsNumeralText cs := List.forall_mem_cons

theorem isNumeralText_append {cs ds : List Char} :
    IsNumeralText (cs ++ ds) ↔ IsNumeralText cs ∧ IsNumeralText ds := List.forall_mem_append

theorem isNumeralText_toDigits (n : ℕ) : IsNumeralText (Nat.toDigits 10 n) :=
  fun _ h => .inl (Nat.isDigit_of_mem_toDigits (by decide) (by decide) h)

theorem isNumeralText_zeros (n : ℕ) : IsNumeralText (List.replicate n '0') := fun c h => by
  rw [List.eq_of_mem_replicate h]
  exact .inl rfl

theorem IsNumeralText.take {cs : List Char} (h : IsNumeralText cs) (n : ℕ) :
    IsNumeralText (cs.take n) := fun c hc => h c (List.mem_of_mem_take hc)

theorem IsNumeralText.drop {cs : List Char} (h : IsNumeralText cs) (n : ℕ) :
    IsNumeralText (cs.drop n) := fun c hc => h c (List.mem_of_mem_drop hc)

theorem isNumeral_zero : IsNumeral '0' := .inl rfl

theorem isNumeral_minus : IsNumeral '-' := .inr (by simp)

theorem isNumeral_plus : IsNumeral '+' := .inr (by simp)

theorem isNumeral_point : IsNumeral '.' := .inr (by simp)

theorem isNumeral_mark : IsNumeral 'e' := .inr (by simp)

theorem isNumeralText_writeInt (n : ℤ) : IsNumeralText (writeInt n) := by
  unfold writeInt
  refine isNumeralText_append.2 ⟨?_, isNumeralText_toDigits _⟩
  split
  · exact isNumeralText_cons.2 ⟨isNumeral_minus, isNumeralText_nil⟩
  · exact isNumeralText_nil

namespace NumberLayout

variable (l : NumberLayout) {digits : List Char}

theorem isNumeralText_writePositional (h : IsNumeralText digits) (exponent : ℤ) :
    IsNumeralText (l.writePositional digits exponent) := by
  unfold writePositional
  split
  · refine isNumeralText_append.2 ⟨isNumeralText_append.2 ⟨h, isNumeralText_zeros _⟩, ?_⟩
    split
    · simp [isNumeralText_cons, isNumeral_point, isNumeral_zero, isNumeralText_nil]
    · exact isNumeralText_nil
  · simp only
    split
    · exact isNumeralText_append.2 ⟨h.take _, isNumeralText_cons.2 ⟨isNumeral_point, h.drop _⟩⟩
    · exact isNumeralText_append.2 ⟨isNumeralText_cons.2 ⟨isNumeral_zero,
        isNumeralText_cons.2 ⟨isNumeral_point, isNumeralText_zeros _⟩⟩, h⟩

theorem isNumeralText_writeScientific (h : IsNumeralText digits) (scale : ℤ) :
    IsNumeralText (l.writeScientific digits scale) := by
  have hhead : IsNumeralText (digits.take 1
      ++ if digits.length = 1 then [] else '.' :: digits.drop 1) := by
    refine isNumeralText_append.2 ⟨h.take 1, ?_⟩
    split
    · exact isNumeralText_nil
    · exact isNumeralText_cons.2 ⟨isNumeral_point, h.drop 1⟩
  have hsign : IsNumeralText (if scale < 0 then ['-'] else if l.plusSign then ['+'] else []) := by
    split_ifs <;> simp [isNumeralText_cons, isNumeral_minus, isNumeral_plus, isNumeralText_nil]
  exact isNumeralText_append.2 ⟨isNumeralText_append.2 ⟨hhead,
    isNumeralText_cons.2 ⟨isNumeral_mark, hsign⟩⟩, isNumeralText_toDigits _⟩

theorem isNumeralText_writeReal (x : Binary64) : IsNumeralText (l.writeReal x) := by
  unfold writeReal
  refine isNumeralText_append.2 ⟨?_, ?_⟩
  · split
    · exact isNumeralText_cons.2 ⟨isNumeral_minus, isNumeralText_nil⟩
    · exact isNumeralText_nil
  · simp only [writeDecimal]
    split
    · exact l.isNumeralText_writePositional (isNumeralText_toDigits _) _
    · exact l.isNumeralText_writeScientific (isNumeralText_toDigits _) _

theorem isNumeralText_write (x : Binary64) : IsNumeralText (l.write x) := by
  unfold write
  split
  · exact isNumeralText_writeInt _
  · exact l.isNumeralText_writeReal x

end NumberLayout

/-- The text of a number is the same without the blanks around it: it has none. -/
theorem Json.Number.trim_write (n : Number) :
    Text.trim (String.ofList n.write) = String.ofList n.write := by
  have h : IsNumeralText n.write := by
    cases n with
    | integer n => exact isNumeralText_writeInt n
    | real x => exact NumberLayout.json.isNumeralText_writeReal x
    | negativeZero =>
      simp [write, isNumeralText_cons, isNumeral_minus, isNumeral_zero, isNumeral_point,
        isNumeralText_nil]
  refine Text.trim_of_all fun c hc => (h c ?_).not_isBlank
  rwa [String.toList_ofList] at hc

end NoteForms
