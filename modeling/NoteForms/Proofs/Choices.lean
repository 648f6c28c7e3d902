import Mathlib.Data.List.Find
import NoteForms.Input.Typed
import NoteForms.Proofs.Basics

/-!
# Choosing an option

A typed text chooses the first option that it names, by the value of the option or as the option is
shown.  So the value of an option may choose another one, which stands before it and is shown by
that word (`Input.answerTyped_shadowed`).  It chooses its own option exactly when no option before
it is shown like that (`Input.answerTyped_value`).
-/

namespace NoteForms

/-- Whether an option is shown by a word, in upper or lower case. -/
def SelectOption.isShownBy (word : String) (o : SelectOption) : Bool :=
  Text.sameIgnoringCase o.display word

theorem mem_of_typedOption {options : List SelectOption} {typed value : String}
    (h : typedOption options typed = .ok value) : ∃ o ∈ options, o.value = value := by
  unfold typedOption at h
  split at h
  · rename_i o ho
    cases h
    exact ⟨o, List.mem_of_find?_eq_some ho, rfl⟩
  · cases h

/-- Where no other option has its value, the value of an option names that one, unless an option
before it is shown by the same word. -/
theorem typedOption_value {before after : List SelectOption} {o : SelectOption}
    (htrim : Text.trim o.value = o.value) (hother : ∀ p ∈ before, p.value ≠ o.value) :
    typedOption (before ++ o :: after) o.value
      = .ok ((before.find? (SelectOption.isShownBy o.value)).getD o).value := by
  have hbefore : before.find? (SelectOption.isNamed o.value)
      = before.find? (SelectOption.isShownBy o.value) :=
    List.find?_congr fun p hp => by
      simp [SelectOption.isNamed, SelectOption.isShownBy, hother p hp]
  have hfirst : (before ++ o :: after).find? (SelectOption.isNamed o.value)
      = some ((before.find? (SelectOption.isShownBy o.value)).getD o) := by
    rw [List.find?_append, hbefore, List.find?_cons_of_pos (by simp [SelectOption.isNamed])]
    cases before.find? (SelectOption.isShownBy o.value) <;> rfl
  simp only [typedOption, htrim, hfirst]

namespace Input

theorem answerTyped_fixed {options : List SelectOption} (h : options ≠ []) (typed : String) :
    (select (.fixed options)).answerTyped typed = (typedOption options typed).map .text := by
  have hempty : options.isEmpty = false := by simpa using h
  simp [answerTyped, kind, InputKind.isList, hempty]

/-- Where options have values of their own, the value of one chooses it exactly when no option
before it is shown by that word; the first that is shown like that is chosen otherwise. -/
theorem answerTyped_value {before after : List SelectOption} {o : SelectOption}
    (htrim : Text.trim o.value = o.value)
    (hdistinct : ((before ++ o :: after).map (·.value)).Nodup) :
    let input := select (.fixed (before ++ o :: after))
    input.answerTyped o.value
        = .ok (.text ((before.find? (SelectOption.isShownBy o.value)).getD o).value)
      ∧ (input.answerTyped o.value = .ok (.text o.value)
        ↔ ∀ p ∈ before, p.isShownBy o.value = false) := by
  intro input
  have hother : ∀ p ∈ before, p.value ≠ o.value := by
    intro p hp
    rw [List.map_append, List.nodup_append] at hdistinct
    exact hdistinct.2.2 _ (List.mem_map_of_mem hp) _ (by simp)
  have hchosen : input.answerTyped o.value
      = .ok (.text ((before.find? (SelectOption.isShownBy o.value)).getD o).value) := by
    rw [answerTyped_fixed (by simp), typedOption_value htrim hother]
    rfl
  refine ⟨hchosen, ?_⟩
  rw [hchosen, Except.ok.injEq, Answer.text.injEq]
  cases hfind : before.find? (SelectOption.isShownBy o.value) with
  | none =>
    refine iff_of_true rfl fun p hp => ?_
    simpa using List.find?_eq_none.1 hfind p hp
  | some p =>
    have hp := List.mem_of_find?_eq_some hfind
    refine iff_of_false (hother p hp) fun h => ?_
    have hshown := List.find?_some hfind
    rw [h p hp] at hshown
    cases hshown

/-- Three sizes, the last of which is shown by a word that no other is. -/
theorem answerTyped_value_sizes :
    let before : List SelectOption := [⟨"s", some "Small"⟩, ⟨"m", none⟩]
    let large : SelectOption := ⟨"l", some "Large"⟩
    Text.trim large.value = large.value ∧ ((before ++ large :: []).map (·.value)).Nodup
      ∧ (select (.fixed (before ++ large :: []))).answerTyped "l" = .ok (.text "l") := by
  intro before large
  have htrim : Text.trim large.value = large.value := by decide +kernel
  have hdistinct : ((before ++ large :: []).map (·.value)).Nodup := by decide
  exact ⟨htrim, hdistinct, (answerTyped_value htrim hdistinct).2.2 (by decide +kernel)⟩

/-- Of two drinks with values of their own, one is shown by the word that the other is chosen by,
and is chosen in its place. -/
theorem answerTyped_shadowed :
    let options : List SelectOption := [⟨"matcha", some "Tea"⟩, ⟨"tea", some "Black tea"⟩]
    (options.map (·.value)).Nodup ∧ (∀ o ∈ options, o.value ≠ "" ∧ Text.trim o.value = o.value)
      ∧ (⟨"tea", some "Black tea"⟩ : SelectOption) ∈ options
      ∧ (select (.fixed options)).answerTyped "tea" = .ok (.text "matcha") := by
  refine ⟨by decide, by decide +kernel, by decide, ?_⟩
  rw [answerTyped_fixed (by decide)]
  have hchosen : typedOption [⟨"matcha", some "Tea"⟩, ⟨"tea", some "Black tea"⟩] "tea"
      = .ok "matcha" := eq_ok_of_toOption (by decide +kernel)
  rw [hchosen]
  rfl

end Input

end NoteForms
