import Mathlib.Data.List.TakeWhile
import NoteForms.Template.Reader

/-!
# Blanks and names

Skipping blanks stops at the one place behind them that is not blank (`dropBlanks_append`), and a
name is taken as far as it goes (`takeName_append`).  No character is both blank and part of a name,
so what is skipped before a name is never part of it.  Trimming takes all it can at once
(`trim_trim`), and leaves nothing exactly of a text that is blank (`isBlankText_iff_trim`).
-/

namespace NoteForms

namespace Text

/-! ## Blanks in front -/

/-- Some characters that do not begin with a blank. -/
def NoBlank (cs : List Char) : Prop := ∀ c ∈ cs.head?, isBlank c = false

theorem noBlank_nil : NoBlank [] := by simp [NoBlank]

theorem noBlank_cons {c : Char} {cs : List Char} : NoBlank (c :: cs) ↔ isBlank c = false := by
  simp [NoBlank]

theorem noBlank_dropBlanks : ∀ cs : List Char, NoBlank (dropBlanks cs)
  | [] => noBlank_nil
  | c :: cs => by
    unfold dropBlanks
    rw [List.dropWhile_cons]
    split
    · exact noBlank_dropBlanks cs
    · rename_i h
      exact noBlank_cons.2 (by simpa using h)

theorem dropBlanks_of_noBlank : ∀ {cs : List Char}, NoBlank cs → dropBlanks cs = cs
  | [], _ => rfl
  | c :: cs, h => by
    unfold dropBlanks
    rw [List.dropWhile_cons, if_neg (by simp [noBlank_cons.1 h])]

/-- Skipping blanks goes past those in front and stops behind them. -/
theorem dropBlanks_append : ∀ {blanks rest : List Char}, (∀ c ∈ blanks, isBlank c) →
    NoBlank rest → dropBlanks (blanks ++ rest) = rest
  | [], _, _, hr => dropBlanks_of_noBlank hr
  | c :: cs, rest, hb, hr => by
    have hc : isBlank c = true := hb c List.mem_cons_self
    rw [List.cons_append, dropBlanks, List.dropWhile_cons, if_pos hc]
    exact dropBlanks_append (fun d hd => hb d (List.mem_cons_of_mem _ hd)) hr

theorem exists_append_dropBlanks (cs : List Char) :
    ∃ blanks, (∀ c ∈ blanks, isBlank c) ∧ cs = blanks ++ dropBlanks cs :=
  ⟨cs.takeWhile isBlank, fun _ h => List.mem_takeWhile_imp h,
    List.takeWhile_append_dropWhile.symm⟩

theorem dropBlanks_eq_nil_iff {cs : List Char} : dropBlanks cs = [] ↔ ∀ c ∈ cs, isBlank c :=
  List.dropWhile_eq_nil_iff

/-! ## Blanks at both ends -/

theorem noBlank_reverse_dropTrailingBlanks (cs : List Char) :
    NoBlank (dropTrailingBlanks cs).reverse := by
  rw [dropTrailingBlanks, List.reverse_reverse]
  exact noBlank_dropBlanks _

theorem dropTrailingBlanks_of_noBlank {cs : List Char} (h : NoBlank cs.reverse) :
    dropTrailingBlanks cs = cs := by
  rw [dropTrailingBlanks, dropBlanks_of_noBlank h, List.reverse_reverse]

/-- What is left at the end is left of the beginning too. -/
theorem dropTrailingBlanks_isPrefix (cs : List Char) : dropTrailingBlanks cs <+: cs := by
  have h : dropBlanks cs.reverse <:+ cs.reverse := List.dropWhile_suffix _
  have := List.reverse_prefix.2 h
  rwa [List.reverse_reverse] at this

theorem noBlank_of_isPrefix {cs ds : List Char} (h : cs <+: ds) (hd : NoBlank ds) : NoBlank cs := by
  obtain ⟨rest, rfl⟩ := h
  cases cs with
  | nil => exact noBlank_nil
  | cons c cs => exact noBlank_cons.2 (noBlank_cons.1 hd)

theorem noBlank_trimChars (cs : List Char) : NoBlank (trimChars cs) :=
  noBlank_of_isPrefix (dropTrailingBlanks_isPrefix _) (noBlank_dropBlanks cs)

theorem noBlank_reverse_trimChars (cs : List Char) : NoBlank (trimChars cs).reverse :=
  noBlank_reverse_dropTrailingBlanks _

theorem trimChars_of_noBlank {cs : List Char} (h : NoBlank cs) (hr : NoBlank cs.reverse) :
    trimChars cs = cs := by
  rw [trimChars, dropBlanks_of_noBlank h, dropTrailingBlanks_of_noBlank hr]

theorem trim_trim (s : String) : trim (trim s) = trim s := by
  simp only [trim, String.toList_ofList]
  rw [trimChars_of_noBlank (noBlank_trimChars _) (noBlank_reverse_trimChars _)]

/-- A text without any blank is left as it is. -/
theorem trim_of_all {s : String} (h : ∀ c ∈ s.toList, isBlank c = false) : trim s = s := by
  have hs : NoBlank s.toList := fun c hc => h c (List.mem_of_mem_head? hc)
  have hr : NoBlank s.toList.reverse := fun c hc =>
    h c (List.mem_reverse.1 (List.mem_of_mem_head? hc))
  rw [trim, trimChars_of_noBlank hs hr, String.ofList_toList]

theorem isBlankText_iff_trim {s : String} : isBlankText s = true ↔ trim s = "" := by
  have htrim : trim s = "" ↔ trimChars s.toList = [] := by
    rw [trim, ← String.toList_inj, String.toList_ofList]
    rfl
  rw [htrim, isBlankText, List.all_eq_true]
  constructor
  · intro h
    rw [trimChars, dropBlanks_eq_nil_iff.2 h]
    rfl
  · intro h
    have hrest : dropBlanks s.toList = [] := by
      rw [trimChars, dropTrailingBlanks, List.reverse_eq_nil_iff, dropBlanks_eq_nil_iff] at h
      have hall : dropBlanks (dropBlanks s.toList) = [] :=
        dropBlanks_eq_nil_iff.2 fun c hc => h c (List.mem_reverse.2 hc)
      rwa [dropBlanks_of_noBlank (noBlank_dropBlanks _)] at hall
    exact dropBlanks_eq_nil_iff.1 hrest

end Text

namespace Template

/-! ## Names -/

/-- Some characters that do not begin with one of a name. -/
def NoNameChar (cs : List Char) : Prop := ∀ c ∈ cs.head?, isNameChar c = false

theorem noNameChar_nil : NoNameChar [] := by simp [NoNameChar]

theorem noNameChar_cons {c : Char} {cs : List Char} :
    NoNameChar (c :: cs) ↔ isNameChar c = false := by
  simp [NoNameChar]

theorem noNameChar_dropName : ∀ cs : List Char, NoNameChar (dropName cs)
  | [] => noNameChar_nil
  | c :: cs => by
    unfold dropName
    rw [List.dropWhile_cons]
    split
    · exact noNameChar_dropName cs
    · rename_i h
      exact noNameChar_cons.2 (by simpa using h)

theorem takeName_append_dropName (cs : List Char) : takeName cs ++ dropName cs = cs :=
  List.takeWhile_append_dropWhile

theorem isNameChar_of_mem_takeName {cs : List Char} {c : Char} (h : c ∈ takeName cs) :
    isNameChar c = true := List.mem_takeWhile_imp h

/-- A name is taken as far as it goes, and no further. -/
theorem takeName_append : ∀ {name rest : List Char}, (∀ c ∈ name, isNameChar c) →
    NoNameChar rest → takeName (name ++ rest) = name ∧ dropName (name ++ rest) = rest
  | [], [], _, _ => ⟨rfl, rfl⟩
  | [], c :: cs, _, hr => by
    have hc : isNameChar c = false := noNameChar_cons.1 hr
    simp [takeName, dropName, hc]
  | c :: cs, rest, hn, hr => by
    have hc : isNameChar c = true := hn c List.mem_cons_self
    have ih := takeName_append (fun d hd => hn d (List.mem_cons_of_mem _ hd)) hr
    simp only [takeName, dropName] at ih ⊢
    rw [List.cons_append, List.takeWhile_cons, List.dropWhile_cons, if_pos hc, if_pos hc, ih.1,
      ih.2]
    exact ⟨rfl, rfl⟩

theorem isNameChar_blankRanges : Text.blankRanges.all (fun r =>
    (List.range (r.2 + 1 - r.1)).all fun i => !isNameChar (Char.ofNat (r.1 + i))) = true := by
  decide +kernel

/-- No blank is part of a name. -/
theorem isNameChar_of_isBlank {c : Char} (h : Text.isBlank c = true) : isNameChar c = false := by
  obtain ⟨r, hr, hc⟩ := List.any_eq_true.1 h
  simp only [Bool.and_eq_true, decide_eq_true_eq] at hc
  have hall := List.all_eq_true.1 isNameChar_blankRanges r hr
  have hi : c.toNat - r.1 ∈ List.range (r.2 + 1 - r.1) := List.mem_range.2 (by omega)
  have := List.all_eq_true.1 hall _ hi
  rwa [Nat.add_sub_cancel' hc.1, Char.ofNat_toNat, Bool.not_eq_true'] at this

theorem isBlank_of_isNameChar {c : Char} (h : isNameChar c = true) : Text.isBlank c = false := by
  by_contra hb
  rw [isNameChar_of_isBlank (by simpa using hb)] at h
  cases h

end Template

end NoteForms
