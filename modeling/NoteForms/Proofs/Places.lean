import NoteForms.Proofs.Pieces
import NoteForms.Storage.Path
import NoteForms.Storage.FileSystem

/-!
# The last name of a path

A path ends in the name behind its last slash, and so does the place that it leads to unless that
name is a dot or two.  Places that are written alike end in the same name.
-/

namespace NoteForms

/-! ## Paths -/

namespace Path

/-- Whether a file can have the name. -/
structure IsOwnName (name : String) : Prop where
  slash : '/' ∉ name.toList
  named : name.toList ≠ []
  dot : name ≠ "."
  dots : name ≠ ".."

/-- The path ends in the name of a file. -/
structure EndsIn (p : Path) (name : String) : Prop extends IsOwnName name where
  chars : p.chars = name.toList ∨ ∃ front, p.chars = front ++ '/' :: name.toList

theorem isOwnName_of_getLast? {name : String} {c : Char} (hslash : '/' ∉ name.toList)
    (hlast : name.toList.getLast? = some c) (hc : c ≠ '.') : IsOwnName name := by
  refine ⟨hslash, ?_, ?_, ?_⟩
  · intro hnil
    rw [hnil] at hlast
    cases hlast
  · rintro rfl
    exact hc (Option.some.inj hlast).symm
  · rintro rfl
    exact hc (Option.some.inj hlast).symm

theorem isAbsolute_of_isOwnName {name : String} (h : IsOwnName name) :
    (Path.mk name).isAbsolute = false := by
  unfold isAbsolute Path.chars
  cases hchars : name.toList with
  | nil => exact absurd hchars h.named
  | cons c cs =>
    have hc : c ≠ '/' := by
      rintro rfl
      exact h.slash (by simp [hchars])
    simp [hc]

/-- A name is put behind nothing, behind a slash, or behind a slash of its own. -/
theorem chars_join (p : Path) {name : String} (h : IsOwnName name) :
    (p.chars = [] ∧ (p.join name).chars = name.toList)
      ∨ (∃ front, p.chars = front ++ ['/'] ∧ (p.join name).chars = front ++ '/' :: name.toList)
      ∨ (p.chars ≠ [] ∧ (p.join name).chars = p.chars ++ '/' :: name.toList) := by
  unfold join
  rw [isAbsolute_of_isOwnName h, if_neg Bool.false_ne_true]
  by_cases hempty : p.text = ""
  · left
    simp [Path.chars, hempty]
  · have hisEmpty : p.text.isEmpty = false := by simpa using hempty
    rw [hisEmpty, Bool.false_or]
    split
    · rename_i hslash
      simp only [endsWithSlash, decide_eq_true_eq] at hslash
      obtain ⟨front, hchars⟩ := List.getLast?_eq_some_iff.1 hslash
      refine .inr (.inl ⟨front, hchars, ?_⟩)
      rw [Path.chars, String.toList_append, ← Path.chars, hchars, List.append_assoc,
        List.singleton_append]
    · exact .inr (.inr ⟨by simpa [Path.chars] using hempty, by simp [Path.chars]⟩)

theorem endsIn_join (p : Path) {name : String} (h : IsOwnName name) :
    (p.join name).EndsIn name := by
  refine ⟨h, ?_⟩
  rcases chars_join p h with ⟨-, hjoin⟩ | ⟨front, -, hjoin⟩ | ⟨-, hjoin⟩
  · exact .inl hjoin
  · exact .inr ⟨front, hjoin⟩
  · exact .inr ⟨p.chars, hjoin⟩

/-- A draft has a name of its own, which ends in a p. -/
theorem exists_endsIn_draft (p : Path) :
    ∃ name, p.draft.EndsIn name ∧ name.toList.getLast? = some 'p' := by
  obtain ⟨last, hlast, hchars⟩ := Text.exists_lastPiece '/' p.chars
  have hdraft : p.draft.chars = p.chars ++ ".tmp".toList := String.toList_append
  have hp : (String.ofList (last ++ ".tmp".toList)).toList.getLast? = some 'p' := by
    rw [String.toList_ofList, List.getLast?_append]
    rfl
  refine ⟨String.ofList (last ++ ".tmp".toList), ⟨isOwnName_of_getLast? ?_ hp (by decide), ?_⟩, hp⟩
  · rw [String.toList_ofList, List.mem_append, not_or]
    exact ⟨hlast, by decide⟩
  · rw [String.toList_ofList, hdraft]
    rcases hchars with hchars | ⟨front, hchars⟩
    · left
      rw [hchars]
    · right
      exact ⟨front, by rw [hchars, List.append_assoc, List.cons_append]⟩

end Path

/-! ## Places -/

namespace Place

theorem text_concat (name : String) : ∀ {front : Place}, front ≠ [] →
    text (front ++ [name]) = text front ++ "/" ++ name
  | [], h => absurd rfl h
  | [first], _ => by simp [text, String.intercalate_cons_cons]
  | first :: second :: front, _ => by
    have ih := text_concat name (List.cons_ne_nil second front)
    simp only [text, List.cons_append, String.intercalate_cons_cons] at ih ⊢
    rw [ih]
    simp only [String.append_assoc]

theorem chars_text (name : String) (front : Place) :
    (text (front ++ [name])).toList = name.toList
      ∨ ∃ start, (text (front ++ [name])).toList = start ++ '/' :: name.toList := by
  by_cases hfront : front = []
  · left
    rw [hfront, List.nil_append, text, String.intercalate_singleton]
  · right
    exact ⟨(text front).toList, by rw [text_concat name hfront]; simp⟩

/-- Places that are written alike end in the same name. -/
theorem eq_of_text_eq {front front' : Place} {name name' : String} (h : '/' ∉ name.toList)
    (h' : '/' ∉ name'.toList) (heq : text (front ++ [name]) = text (front' ++ [name'])) :
    name = name' := by
  have hlast := Text.getLast?_splitChars h (chars_text name front)
  rw [heq, Text.getLast?_splitChars h' (chars_text name' front')] at hlast
  exact String.toList_injective (Option.some.inj hlast).symm

end Place

end NoteForms
