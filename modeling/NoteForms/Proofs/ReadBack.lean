import NoteForms.Number.Typed
import NoteForms.Proofs.Rounding

/-!
# Numbers are read as they were written

In every layout the text of a number is read as that number (`NumberLayout.readTyped?_write`).  What
is done to the fewest digits on the way to the text (zeros behind them, a point among them, a power
of ten) keeps their value.
-/

namespace NoteForms

/-! ## Reading digits -/

theorem digitsValue_eq (digits : List Char) :
    digitsValue digits = Nat.ofDigitChars 10 digits 0 := by
  simp only [digitsValue, Nat.ofDigitChars, Nat.mul_comm]
  rfl

theorem digitsValue_append (ds es : List Char) :
    digitsValue (ds ++ es) = digitsValue ds * 10 ^ es.length + digitsValue es := by
  simp only [digitsValue_eq, Nat.ofDigitChars_append]
  rw [Nat.ofDigitChars_eq_ofDigitChars_zero, Nat.mul_comm]

theorem digitsValue_toDigits (n : ℕ) : digitsValue (Nat.toDigits 10 n) = n := by
  rw [digitsValue_eq, Nat.ofDigitChars_toDigits (by decide) (by decide)]

theorem digitsValue_zeros (n : ℕ) : digitsValue (List.replicate n '0') = 0 := by
  rw [digitsValue_eq, Nat.ofDigitChars_replicate_zero, Nat.mul_zero]

theorem digitsValue_padded (n j : ℕ) :
    digitsValue (Nat.toDigits 10 n ++ List.replicate j '0') = n * 10 ^ j := by
  rw [digitsValue_append, digitsValue_toDigits, digitsValue_zeros, List.length_replicate,
    Nat.add_zero]

/-- Characters that are all digits. -/
def AreDigits (cs : List Char) : Prop := ∀ c ∈ cs, c.isDigit

theorem areDigits_toDigits (n : ℕ) : AreDigits (Nat.toDigits 10 n) :=
  fun _ h => Nat.isDigit_of_mem_toDigits (by decide) (by decide) h

theorem areDigits_zeros (n : ℕ) : AreDigits (List.replicate n '0') := fun c h => by
  rw [List.eq_of_mem_replicate h]
  rfl

theorem AreDigits.append {ds es : List Char} (hd : AreDigits ds) (he : AreDigits es) :
    AreDigits (ds ++ es) := List.forall_mem_append.2 ⟨hd, he⟩

theorem AreDigits.take {ds : List Char} (h : AreDigits ds) (n : ℕ) : AreDigits (ds.take n) :=
  fun c hc => h c (List.mem_of_mem_take hc)

theorem AreDigits.drop {ds : List Char} (h : AreDigits ds) (n : ℕ) : AreDigits (ds.drop n) :=
  fun c hc => h c (List.mem_of_mem_drop hc)

theorem readPower?_nil : readPower? [] = some 0 := rfl

/-- No digit comes next. -/
def NoDigitNext (cs : List Char) : Prop := ∀ c ∈ cs.head?, c.isDigit = false

section Reading

variable {ds es rest : List Char} {power : ℤ}

theorem takeWhile_isDigit (hd : AreDigits ds) (hrest : NoDigitNext rest) :
    (ds ++ rest).takeWhile Char.isDigit = ds := by
  rw [List.takeWhile_append_of_pos hd]
  cases rest with
  | nil => simp
  | cons c cs => simp [hrest c rfl]

theorem dropWhile_isDigit (hd : AreDigits ds) (hrest : NoDigitNext rest) :
    (ds ++ rest).dropWhile Char.isDigit = rest := by
  rw [List.dropWhile_append_of_pos hd]
  cases rest with
  | nil => simp
  | cons c cs => simp [hrest c rfl]

/-- What a power of ten begins with is neither a digit nor a point. -/
theorem head?_of_readPower? (h : readPower? rest = some power) :
    ∀ c ∈ rest.head?, c = 'e' ∨ c = 'E' := by
  cases rest with
  | nil => simp
  | cons mark cs =>
    rintro c ⟨⟩
    by_contra hmark
    simp [readPower?, hmark] at h

theorem noDigitNext_of_readPower? (h : readPower? rest = some power) : NoDigitNext rest := by
  intro c hc
  rcases head?_of_readPower? h c hc with rfl | rfl <;> rfl

theorem readDecimal?_whole (hd : AreDigits ds) (hne : ds ≠ []) (h : readPower? rest = some power) :
    readDecimal? (ds ++ rest) = some ⟨digitsValue ds, power⟩ := by
  have hrest := noDigitNext_of_readPower? h
  unfold readDecimal?
  rw [takeWhile_isDigit hd hrest, dropWhile_isDigit hd hrest]
  cases rest with
  | nil => simp [hne, h]
  | cons c cs =>
    have hc : c ≠ '.' := fun hc => absurd (head?_of_readPower? h c rfl) (by simp [hc])
    simp [hne, hc, h]

theorem readDecimal?_point (hd : AreDigits ds) (hne : ds ≠ []) (he : AreDigits es)
    (h : readPower? rest = some power) :
    readDecimal? (ds ++ '.' :: es ++ rest)
      = some ⟨digitsValue (ds ++ es), power - es.length⟩ := by
  have hrest := noDigitNext_of_readPower? h
  have hpoint : NoDigitNext ('.' :: (es ++ rest)) := by simp [NoDigitNext]
  unfold readDecimal?
  rw [List.append_assoc, List.cons_append, takeWhile_isDigit hd hpoint,
    dropWhile_isDigit hd hpoint]
  simp [takeWhile_isDigit he hrest, dropWhile_isDigit he hrest, hne, h]

/-- A number without its sign does not begin with one. -/
theorem readSign_of_readDecimal? {cs : List Char} {d : Decimal} (h : readDecimal? cs = some d) :
    readSign cs = (false, cs) := by
  unfold readSign
  split
  · simp [readDecimal?] at h
  · simp [readDecimal?] at h
  · rfl

end Reading

theorem readDecimal?_toDigits (n : ℕ) : readDecimal? (Nat.toDigits 10 n) = some ⟨n, 0⟩ := by
  have hread := readDecimal?_whole (areDigits_toDigits n) Nat.toDigits_ne_nil readPower?_nil
  rwa [List.append_nil, digitsValue_toDigits] at hread

namespace NumberLayout

open Decimal

variable (l : NumberLayout)

theorem exists_readDecimal?_padded (n : ℕ) {exponent : ℤ} (h : 0 ≤ exponent) :
    ∃ d, readDecimal? (l.writePositional (Nat.toDigits 10 n) exponent) = some d
      ∧ d.toMagnitude = toMagnitude ⟨n, exponent⟩ := by
  have hne : Nat.toDigits 10 n ≠ [] := Nat.toDigits_ne_nil
  have hpadded := (areDigits_toDigits n).append (areDigits_zeros exponent.toNat)
  rw [writePositional, if_pos h]
  split
  · have hread := readDecimal?_point hpadded (by simp [hne]) (areDigits_zeros 1) readPower?_nil
    rw [List.append_assoc _ _ (List.replicate 1 _), List.replicate_append_replicate,
      digitsValue_padded, List.append_nil] at hread
    refine ⟨_, hread, ?_⟩
    rw [toMagnitude_shift, List.length_replicate]
    congr 2
    omega
  · have hread := readDecimal?_whole hpadded (by simp [hne]) readPower?_nil
    rw [digitsValue_padded] at hread
    refine ⟨_, hread, ?_⟩
    rw [toMagnitude_shift, Int.zero_add, Int.toNat_of_nonneg h]

/-- The point stands among the digits, or zeros before them make room for it. -/
theorem readDecimal?_fraction (n : ℕ) {places : ℕ} (h : places ≠ 0) :
    readDecimal? (l.writePositional (Nat.toDigits 10 n) (-places)) = some ⟨n, -places⟩ := by
  have hdigits := areDigits_toDigits n
  have hvalue := digitsValue_toDigits n
  have hne : Nat.toDigits 10 n ≠ [] := Nat.toDigits_ne_nil
  generalize Nat.toDigits 10 n = digits at *
  simp only [writePositional, if_neg (by omega : ¬(0 : ℤ) ≤ -places), Int.neg_neg,
    Int.toNat_natCast]
  split
  · have hkept : digits.take (digits.length - places) ≠ [] := by
      rw [Ne, List.take_eq_nil_iff, not_or]
      exact ⟨by omega, hne⟩
    have hread := readDecimal?_point (hdigits.take _) hkept
      (hdigits.drop (digits.length - places)) readPower?_nil
    have hlength : (digits.drop (digits.length - places)).length = places := by
      rw [List.length_drop]
      omega
    rwa [List.take_append_drop, hvalue, List.append_nil, hlength, Int.zero_sub] at hread
  · have hzeros := (areDigits_zeros (places - digits.length)).append hdigits
    have hread := readDecimal?_point (areDigits_zeros 1) (by simp) hzeros readPower?_nil
    have hlength : (List.replicate (places - digits.length) '0' ++ digits).length = places := by
      rw [List.length_append, List.length_replicate]
      omega
    rwa [← List.append_assoc, List.replicate_append_replicate, digitsValue_append,
      digitsValue_zeros, hvalue, List.append_nil, hlength, Int.zero_sub, Nat.zero_mul,
      Nat.zero_add] at hread

theorem exists_readDecimal?_writePositional (n : ℕ) (exponent : ℤ) :
    ∃ d, readDecimal? (l.writePositional (Nat.toDigits 10 n) exponent) = some d
      ∧ d.toMagnitude = toMagnitude ⟨n, exponent⟩ := by
  rcases Int.lt_or_le exponent 0 with h | h
  · obtain ⟨places, rfl⟩ : ∃ places : ℕ, exponent = -places := ⟨exponent.natAbs, by omega⟩
    exact ⟨_, l.readDecimal?_fraction n (by omega), rfl⟩
  · exact l.exists_readDecimal?_padded n h

theorem readPower?_writeScientific (scale : ℤ) :
    readPower? ('e' :: (if scale < 0 then ['-'] else if l.plusSign then ['+'] else [])
      ++ Nat.toDigits 10 scale.natAbs) = some scale := by
  have hsign : readSign ((if scale < 0 then ['-'] else if l.plusSign then ['+'] else [])
      ++ Nat.toDigits 10 scale.natAbs) = (decide (scale < 0), Nat.toDigits 10 scale.natAbs) := by
    split_ifs with hneg
    · simp [readSign, hneg]
    · simp [readSign, hneg]
    · simp [readSign_of_readDecimal? (readDecimal?_toDigits _), hneg]
  have hdigits : (Nat.toDigits 10 scale.natAbs).all Char.isDigit :=
    List.all_eq_true.2 (areDigits_toDigits scale.natAbs)
  have hne : (Nat.toDigits 10 scale.natAbs).isEmpty = false := by simp
  rw [List.cons_append, readPower?, hsign]
  simp only [true_or, if_true, hne, hdigits, digitsValue_toDigits, Bool.false_or, Bool.not_true,
    Bool.false_eq_true, if_false, decide_eq_true_eq]
  congr 1
  split <;> omega

theorem readDecimal?_writeScientific (n : ℕ) (exponent : ℤ) :
    readDecimal? (l.writeScientific (Nat.toDigits 10 n)
      (exponent + (Nat.toDigits 10 n).length - 1)) = some ⟨n, exponent⟩ := by
  have hdigits := areDigits_toDigits n
  have hpower := l.readPower?_writeScientific (exponent + (Nat.toDigits 10 n).length - 1)
  have hvalue := digitsValue_toDigits n
  have hne : Nat.toDigits 10 n ≠ [] := Nat.toDigits_ne_nil
  simp only [writeScientific]
  generalize Nat.toDigits 10 n = digits at *
  split
  · rename_i hlength
    have hone : digits.take 1 = digits := List.take_of_length_le (by omega)
    have hread := readDecimal?_whole hdigits hne hpower
    rw [hvalue, hlength] at hread
    simpa [hone, hlength] using hread
  · have hread := readDecimal?_point (hdigits.take 1) (by simpa using hne) (hdigits.drop 1) hpower
    have hpos : 0 < digits.length := List.length_pos_iff.2 hne
    have hpoint : exponent + digits.length - 1 - (digits.drop 1).length = exponent := by
      rw [List.length_drop]
      omega
    rw [List.take_append_drop, hvalue, hpoint] at hread
    rw [List.append_assoc, hread]

theorem exists_readDecimal?_writeDecimal (d : Decimal) :
    ∃ r, readDecimal? (l.writeDecimal d) = some r ∧ r.toMagnitude = d.toMagnitude := by
  simp only [writeDecimal]
  split
  · exact l.exists_readDecimal?_writePositional d.digits d.exponent
  · exact ⟨d, l.readDecimal?_writeScientific d.digits d.exponent, rfl⟩

end NumberLayout

theorem readTyped?_of_readDecimal? {cs : List Char} {d : Decimal} {x : Binary64}
    (h : readDecimal? cs = some d) (hd : d.toMagnitude = x.units.natAbs) :
    readTyped? ((if x.units < 0 then ['-'] else []) ++ cs) = some x := by
  have hsign : readSign ((if x.units < 0 then ['-'] else []) ++ cs)
      = (decide (x.units < 0), cs) := by
    split_ifs with hneg
    · simp [readSign, hneg]
    · simp [readSign_of_readDecimal? h, hneg]
  simp only [readTyped?, hsign]
  rw [h, Option.bind_some, Decimal.toBinary64?_of_toMagnitude hd]

theorem toMagnitude_toInt {x : Binary64} (h : x.IsSmallWhole) :
    Decimal.toMagnitude ⟨x.toInt.natAbs, 0⟩ = x.units.natAbs := by
  rw [Decimal.toMagnitude_eq (k := 0) _ (Int.le_refl 0), Nat.cast_zero, add_zero, Int.toNat_zero,
    Nat.pow_zero, Nat.mul_one, Binary64.natAbs_toInt h]
  exact Binary64.nearestMagnitude_of_isMagnitude x.isMagnitude

/-- A number is read from its text, in whichever layout it was written. -/
theorem NumberLayout.readTyped?_write (l : NumberLayout) (x : Binary64) :
    readTyped? (l.write x) = some x := by
  unfold write
  split
  · rename_i hsmall
    simp only [writeInt, Binary64.toInt_neg_iff hsmall]
    exact readTyped?_of_readDecimal? (readDecimal?_toDigits _) (toMagnitude_toInt hsmall)
  · obtain ⟨d, hd, hmagnitude⟩ :=
      l.exists_readDecimal?_writeDecimal (Binary64.shortest l.tie x.units.natAbs)
    refine readTyped?_of_readDecimal? hd ?_
    rw [hmagnitude, Binary64.toMagnitude_shortest _ x.isMagnitude]

end NoteForms
