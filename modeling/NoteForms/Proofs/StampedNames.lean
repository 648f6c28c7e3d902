import Mathlib.Data.String.Basic
import NoteForms.Proofs.Backups
import NoteForms.Proofs.Blanks
import NoteForms.Proofs.ReadBack
import NoteForms.Proofs.WrittenNumber

/-!
# Stamps in the names of backups

A stamp is written in parts of a fixed width, and each part is read as far as it goes, so a stamp of
a year of four digits is read as it was written (`Stamp.ofChars?_written`).  A note adds letters,
digits and hyphens behind an underscore, so a name that is given to a backup says for which minute
it was given (`stampOf?_backupName`).
-/

namespace NoteForms

open Text

namespace Stamp

/-! ## Writing parts -/

theorem areDigits_padded (width n : ℕ) : AreDigits (padded width n) :=
  (areDigits_zeros _).append (areDigits_toDigits n)

theorem digitsValue_padded (width n : ℕ) : digitsValue (padded width n) = n := by
  rw [padded, digitsValue_append, digitsValue_zeros, digitsValue_toDigits, Nat.zero_mul,
    Nat.zero_add]

theorem length_padded {width n : ℕ} (hwidth : 0 < width) (h : n < 10 ^ width) :
    (padded width n).length = width := by
  have hlength : (Nat.toDigits 10 n).length ≤ width :=
    (Nat.length_toDigits_le_iff (by decide) hwidth).2 h
  simp only [padded, List.length_append, List.length_replicate]
  omega

/-! ## Reading parts -/

theorem noBlank_of_areDigits {ds rest : List Char} (hds : AreDigits ds) (hne : ds ≠ []) :
    NoBlank (ds ++ rest) := by
  cases ds with
  | nil => exact absurd rfl hne
  | cons d ds => exact noBlank_cons.2 (IsNumeral.not_isBlank (.inl (hds d List.mem_cons_self)))

theorem scan?_append {width : ℕ} {ds rest : List Char} (hwidth : 0 < width) (hds : AreDigits ds)
    (hlength : ds.length = width) : scan? width (ds ++ rest) = some (digitsValue ds, rest) := by
  have hne : ds ≠ [] := by
    rintro rfl
    rw [← hlength] at hwidth
    cases hwidth
  have htake : ((ds ++ rest).take width).takeWhile Char.isDigit = ds := by
    rw [List.take_left' hlength, List.takeWhile_eq_self_iff]
    exact hds
  have hempty : ds.isEmpty = false := by simpa using hne
  simp only [scan?, htake, hempty, List.drop_left]
  rfl

theorem scanPart?_padded {n : ℕ} (h : n < 100) (rest : List Char) :
    scanPart? (padded 2 n ++ rest) = some (n, rest) := by
  have hlength : (padded 2 n).length = 2 := length_padded (by decide) h
  have hne : padded 2 n ≠ [] := List.ne_nil_of_length_pos (by omega)
  rw [scanPart?, dropBlanks_of_noBlank (noBlank_of_areDigits (areDigits_padded 2 n) hne),
    scan?_append (by decide) (areDigits_padded 2 n) hlength, digitsValue_padded]

/-- A digit is no sign, so a year is read like the other parts. -/
theorem scanYear?_of_digit {c : Char} {cs : List Char} (hc : c.isDigit = true) :
    scanYear? (c :: cs) = (scan? 4 (c :: cs)).map fun r => ((r.1 : ℤ), r.2) := by
  have hblank : dropBlanks (c :: cs) = c :: cs :=
    dropBlanks_of_noBlank (noBlank_cons.2 (IsNumeral.not_isBlank (.inl hc)))
  unfold scanYear?
  rw [hblank]
  split
  · rename_i heq
    obtain ⟨rfl, -⟩ := List.cons.inj heq
    cases hc
  · rename_i heq
    obtain ⟨rfl, -⟩ := List.cons.inj heq
    cases hc
  · rfl

theorem scanYear?_padded {n : ℕ} (h : n < 10000) (rest : List Char) :
    scanYear? (padded 4 n ++ rest) = some ((n : ℤ), rest) := by
  have hdigits := areDigits_padded 4 n
  have hlength : (padded 4 n).length = 4 := length_padded (by decide) h
  have hscan : scan? 4 (padded 4 n ++ rest) = some (n, rest) := by
    rw [scan?_append (by decide) hdigits hlength, digitsValue_padded]
  obtain ⟨c, cs, hcs⟩ := List.exists_cons_of_ne_nil
    (List.ne_nil_of_length_pos (by omega) : padded 4 n ≠ [])
  have hc : c.isDigit = true := hdigits c (by simp [hcs])
  rw [hcs, List.cons_append] at hscan ⊢
  rw [scanYear?_of_digit hc, hscan]
  rfl

/-- The parts of the date of a stamp as they are written. -/
def dateChars (s : Stamp) : List Char :=
  padded 4 s.year.toNat ++ padded 2 s.month ++ padded 2 s.day

/-- The parts of the time of a stamp as they are written. -/
def timeChars (s : Stamp) : List Char := padded 2 s.hour ++ padded 2 s.minute

variable {s : Stamp}

/-- A stamp that the calendar has in a year of four digits. -/
structure Writable (s : Stamp) : Prop where
  valid : s.isValid = true
  year_nonneg : 0 ≤ s.year
  year_lt : s.year < 10000

namespace Writable

theorem parts_lt (h : s.Writable) :
    s.year.toNat < 10000 ∧ s.month < 100 ∧ s.day < 100 ∧ s.hour < 100 ∧ s.minute < 100 := by
  have hdays : daysOf s.year s.month ≤ 31 := by
    unfold daysOf
    split_ifs <;> omega
  have hvalid := h.valid
  simp only [isValid, Bool.and_eq_true, decide_eq_true_eq] at hvalid
  have hyear := h.year_lt
  omega

theorem ofChars?_written (h : s.Writable) : ofChars? (s.dateChars ++ s.timeChars) = some s := by
  obtain ⟨hyear, hmonth, hday, hhour, hminute⟩ := h.parts_lt
  have hsame : (⟨(s.year.toNat : ℤ), s.month, s.day, s.hour, s.minute⟩ : Stamp) = s := by
    rw [Int.toNat_of_nonneg h.year_nonneg]
  have hlast := scanPart?_padded hminute []
  rw [List.append_nil] at hlast
  simp only [dateChars, timeChars, List.append_assoc, ofChars?, scanYear?_padded hyear,
    scanPart?_padded hmonth, scanPart?_padded hday, scanPart?_padded hhour, hlast,
    Option.bind_eq_bind, Option.bind_some, hsame, h.valid]
  rfl

end Writable

theorem toList_text (s : Stamp) : s.text.toList = s.dateChars ++ '_' :: s.timeChars := by
  simp [text, dateChars, timeChars]

theorem areDigits_dateChars (s : Stamp) : AreDigits s.dateChars :=
  ((areDigits_padded _ _).append (areDigits_padded _ _)).append (areDigits_padded _ _)

theorem areDigits_timeChars (s : Stamp) : AreDigits s.timeChars :=
  (areDigits_padded _ _).append (areDigits_padded _ _)

end Stamp

/-! ## Names of backups -/

theorem dropStart?_eq_some_iff : ∀ {start cs rest : List Char},
    dropStart? start cs = some rest ↔ cs = start ++ rest
  | [], cs, rest => by simp [dropStart?]
  | c :: start, [], rest => by simp [dropStart?]
  | c :: start, d :: cs, rest => by
    rw [dropStart?, List.cons_append, List.cons.injEq]
    split
    · rename_i hcd
      rw [dropStart?_eq_some_iff, and_iff_right hcd.symm]
    · rename_i hcd
      simp [Ne.symm hcd]

theorem dropEnd?_eq_some_iff {ending cs rest : List Char} :
    dropEnd? ending cs = some rest ↔ cs = rest ++ ending := by
  rw [dropEnd?, Option.map_eq_some_iff]
  constructor
  · rintro ⟨front, hfront, rfl⟩
    rw [dropStart?_eq_some_iff] at hfront
    rw [← List.reverse_reverse ending, ← List.reverse_append, ← hfront, List.reverse_reverse]
  · rintro rfl
    exact ⟨rest.reverse, dropStart?_eq_some_iff.2 List.reverse_append, List.reverse_reverse rest⟩

/-- A backup is listed if its name ends like that of one. -/
theorem isBackupName_iff {name : String} :
    isBackupName name = true ↔ ∃ stem, name = stem ++ backupEnd := by
  rw [isBackupName, Option.isSome_iff_exists]
  simp only [dropEnd?_eq_some_iff]
  constructor
  · rintro ⟨stem, hstem⟩
    exact ⟨String.ofList stem, String.toList_injective (by simpa using hstem)⟩
  · rintro ⟨stem, rfl⟩
    exact ⟨stem.toList, String.toList_append⟩

theorem utf8ByteSize_of_areDigits : ∀ {ds : List Char}, AreDigits ds →
    (String.ofList ds).utf8ByteSize = ds.length
  | [], _ => rfl
  | d :: ds, h => by
    obtain ⟨hd, hds⟩ := List.forall_mem_cons.1 h
    have ih := utf8ByteSize_of_areDigits hds
    have hone : d.utf8Size = 1 := by
      simp only [Char.isDigit, Bool.and_eq_true, decide_eq_true_eq] at hd
      rw [Char.utf8Size_eq_one_iff]
      exact UInt32.le_trans hd.2 (by decide)
    rw [String.utf8ByteSize_ofList] at ih ⊢
    rw [String.utf8Len_cons, ih, hone, List.length_cons]

theorem underscore_notMem {ds : List Char} (h : AreDigits ds) : '_' ∉ ds := fun hmem => by
  cases h '_' hmem

/-- What a note adds stands behind an underscore. -/
theorem noteSuffix_cases (note : String) :
    noteSuffix note = "" ∨ ∃ label, (noteSuffix note).toList = '_' :: label := by
  unfold noteSuffix
  split
  · exact .inl rfl
  · exact .inr ⟨_, by rw [String.toList_append]; rfl⟩

/-- The pieces of a name behind its first word: the date, the time, and those of the note. -/
theorem exists_pieces_stamped (stamp : Stamp) (note : String) :
    ∃ others, splitChars '_' (stamp.text ++ noteSuffix note).toList
      = stamp.dateChars :: stamp.timeChars :: others := by
  have hdate := splitChars_of_notMem (underscore_notMem stamp.areDigits_dateChars)
  have htime := splitChars_of_notMem (underscore_notMem stamp.areDigits_timeChars)
  rw [String.toList_append, Stamp.toList_text, List.append_assoc, List.cons_append,
    splitChars_append_cons, hdate]
  rcases noteSuffix_cases note with hnone | ⟨label, hlabel⟩
  · exact ⟨[], by rw [hnone, String.toList_empty, List.append_nil, htime]; rfl⟩
  · exact ⟨splitChars '_' label, by rw [hlabel, splitChars_append_cons, htime]; rfl⟩

/-- The name of a backup tells the minute of the backup. -/
theorem stampOf?_backupName {stamp : Stamp} (h : stamp.Writable) (note : String) :
    stampOf? (backupName stamp note) = some stamp := by
  obtain ⟨others, hpieces⟩ := exists_pieces_stamped stamp note
  obtain ⟨hyear, hmonth, hday, hhour, hminute⟩ := h.parts_lt
  have hdate : (String.ofList stamp.dateChars).utf8ByteSize = 8 := by
    rw [utf8ByteSize_of_areDigits stamp.areDigits_dateChars, Stamp.dateChars, List.length_append,
      List.length_append, Stamp.length_padded (by decide) hyear,
      Stamp.length_padded (by decide) hmonth, Stamp.length_padded (by decide) hday]
  have htime : (String.ofList stamp.timeChars).utf8ByteSize = 4 := by
    rw [utf8ByteSize_of_areDigits stamp.areDigits_timeChars, Stamp.timeChars, List.length_append,
      Stamp.length_padded (by decide) hhour, Stamp.length_padded (by decide) hminute]
  have hstem : dropEnd? backupEnd.toList (backupName stamp note).toList
      = some (backupStart.toList ++ (stamp.text ++ noteSuffix note).toList) := by
    rw [dropEnd?_eq_some_iff, backupName]
    simp
  have hrest : dropStart? backupStart.toList
      (backupStart.toList ++ (stamp.text ++ noteSuffix note).toList)
        = some (stamp.text ++ noteSuffix note).toList := dropStart?_eq_some_iff.2 rfl
  rw [stampOf?, hstem]
  simp only [Option.bind_eq_bind, Option.bind_some, hrest, hpieces, hdate, htime,
    h.ofChars?_written]
  rfl

end NoteForms
