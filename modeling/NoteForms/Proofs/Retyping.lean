import NoteForms.Proofs.Blanks
import NoteForms.Proofs.Fitting
import NoteForms.Proofs.Pieces

/-!
# Lists that are typed again

A list is typed with commas between its items and is shown in the same way.  What is typed before
and behind a comma is read apart (`typedItems_append_comma`), and an item is read as it is, so a
list that is shown and typed again stays the same (`Input.lists_retyped`).
-/

namespace NoteForms

/-- A text that can be an item of a typed list. -/
structure IsItem (item : String) : Prop where
  ne_empty : item ≠ ""
  trim_eq : Text.trim item = item
  comma_notMem : ',' ∉ item.toList

/-! ## Reading items -/

theorem Text.mem_of_mem_trimChars {c : Char} {cs : List Char} (h : c ∈ Text.trimChars cs) :
    c ∈ cs := by
  have hfront : c ∈ Text.dropBlanks cs := (Text.dropTrailingBlanks_isPrefix _).subset h
  exact (List.dropWhile_suffix _).subset hfront

theorem mem_typedItems {typed item : String} : item ∈ typedItems typed
    ↔ item ≠ "" ∧ ∃ piece ∈ Text.splitChars ',' typed.toList,
      String.ofList (Text.trimChars piece) = item := by
  simp only [typedItems, List.mem_filterMap, List.mem_map]
  constructor
  · rintro ⟨_, ⟨piece, hpiece, rfl⟩, hitem⟩
    split at hitem
    · cases hitem
    · rename_i hne
      cases hitem
      exact ⟨by simpa using hne, piece, hpiece, rfl⟩
  · rintro ⟨hne, piece, hpiece, rfl⟩
    refine ⟨_, ⟨piece, hpiece, rfl⟩, if_neg ?_⟩
    simpa using hne

/-- Whatever is typed, its items are fit to be typed again. -/
theorem isItem_of_mem_typedItems {typed item : String} (h : item ∈ typedItems typed) :
    IsItem item := by
  obtain ⟨hne, piece, hpiece, rfl⟩ := mem_typedItems.1 h
  have htrim : Text.trim (String.ofList piece) = String.ofList (Text.trimChars piece) := by
    rw [Text.trim, String.toList_ofList]
  refine ⟨hne, ?_, fun hcomma => ?_⟩
  · rw [← htrim, Text.trim_trim]
  · rw [String.toList_ofList] at hcomma
    exact Text.notMem_of_mem_splitChars hpiece (Text.mem_of_mem_trimChars hcomma)

theorem typedItems_append_comma (s t : String) :
    typedItems (s ++ "," ++ t) = typedItems s ++ typedItems t := by
  have hchars : (s ++ "," ++ t).toList = s.toList ++ ',' :: t.toList := by simp
  simp only [typedItems, hchars, Text.splitChars_append_cons, List.map_append,
    List.filterMap_append]

theorem typedItems_of_isItem {item : String} (h : IsItem item) : typedItems item = [item] := by
  have htrim : String.ofList (Text.trimChars item.toList) = item := h.trim_eq
  have hne : ¬(Text.trimChars item.toList).isEmpty = true := by
    intro hempty
    rw [List.isEmpty_iff.1 hempty] at htrim
    exact h.ne_empty htrim.symm
  rw [typedItems, Text.splitChars_of_notMem h.comma_notMem, List.map_singleton,
    List.filterMap_cons, if_neg hne, htrim, List.filterMap_nil]

/-- Items that are joined by commas are read as they were. -/
theorem typedItems_intercalate : ∀ {items : List String}, (∀ item ∈ items, IsItem item) →
    typedItems (String.intercalate "," items) = items
  | [], _ => by rfl
  | [item], h => by
    rw [String.intercalate_singleton, typedItems_of_isItem (h item List.mem_cons_self)]
  | item :: second :: items, h => by
    obtain ⟨hitem, hrest⟩ := List.forall_mem_cons.1 h
    rw [String.intercalate_cons_cons, typedItems_append_comma, typedItems_of_isItem hitem,
      typedItems_intercalate hrest, List.singleton_append]

/-! ## Inputs that take lists -/

namespace Input

variable {input : Input}

theorem unknownItem?_eq_none_iff (hlist : input.kind.isList = true) {items : List String} :
    input.unknownItem? items = none ↔ input.Takes (.list items) := by
  cases input with
  | tag exclude => simp [unknownItem?, Takes]
  | multiselect source =>
    rcases source with folder | ⟨options, _ | _⟩ | query <;> simp [unknownItem?, Takes]
  | _ => cases hlist

/-- A typed list is taken just if it fits. -/
theorem answerTyped_eq_ok_iff (hlist : input.kind.isList = true) {typed : String} {a : Answer} :
    input.answerTyped typed = .ok a
      ↔ a = .list (typedItems typed) ∧ input.Takes (.list (typedItems typed)) := by
  unfold answerTyped answerItems
  rw [if_pos hlist, if_pos hlist, ← unknownItem?_eq_none_iff hlist]
  cases input.unknownItem? (typedItems typed) with
  | none => simp [eq_comm]
  | some item => simp

/-- Whatever is typed for a list and taken is the list of its items, each of which can be typed
again, and so it is the same list when it is typed again as it is shown.  Any items that can be
typed, and fit, are read as they are from the list as it is shown.  Where only the options of a
choice are taken, a typed list is refused exactly if one of its items is no option. -/
theorem lists_retyped (hlist : input.kind.isList = true) :
    (∀ typed a, input.answerTyped typed = .ok a →
        a = .list (typedItems typed) ∧ (∀ item ∈ typedItems typed, IsItem item)
          ∧ input.answerTyped a.display = .ok a)
      ∧ (∀ items, (∀ item ∈ items, IsItem item) → input.Takes (.list items) →
        input.answerTyped (Answer.list items).display = .ok (.list items))
      ∧ ∀ options, input = .multiselect (.fixed options false) → ∀ typed,
        (∃ refusal, input.answerTyped typed = .error refusal)
          ↔ ∃ item ∈ typedItems typed, item ∉ options := by
  have hshown : ∀ items, (∀ item ∈ items, IsItem item) → input.Takes (.list items) →
      input.answerTyped (Answer.list items).display = .ok (.list items) := by
    intro items hitems htakes
    have hread : typedItems (Answer.list items).display = items := typedItems_intercalate hitems
    rw [answerTyped_eq_ok_iff hlist, hread]
    exact ⟨rfl, htakes⟩
  refine ⟨fun typed a h => ?_, hshown, ?_⟩
  · obtain ⟨rfl, htakes⟩ := (answerTyped_eq_ok_iff hlist).1 h
    exact ⟨rfl, fun _ => isItem_of_mem_typedItems,
      hshown _ (fun _ => isItem_of_mem_typedItems) htakes⟩
  · rintro options rfl typed
    constructor
    · rintro ⟨refusal, h⟩
      by_contra! hoptions
      have htaken := (answerTyped_eq_ok_iff hlist).2 ⟨rfl, _, rfl, hoptions⟩
      rw [h] at htaken
      cases htaken
    · rintro ⟨item, hitem, hunknown⟩
      cases h : (multiselect (.fixed options false)).answerTyped typed with
      | error refusal => exact ⟨refusal, rfl⟩
      | ok a =>
        obtain ⟨-, items, heq, hoptions⟩ := (answerTyped_eq_ok_iff hlist).1 h
        cases heq
        exact absurd (hoptions item hitem) hunknown

/-- A choice of two is typed with blanks and a comma too many, shown, and typed again; a third thing
is refused. -/
theorem lists_retyped_milk :
    let input := multiselect (.fixed ["milk", "brown sugar"] false)
    let chosen := Answer.list ["brown sugar", "milk"]
    input.kind.isList = true
      ∧ input.answerTyped " brown sugar ,,milk\n" = .ok chosen
      ∧ input.answerTyped chosen.display = .ok chosen
      ∧ (∀ item ∈ ["milk"], IsItem item) ∧ input.Takes (.list ["milk"])
      ∧ input.answerTyped "milk" = .ok (.list ["milk"])
      ∧ ∃ refusal, input.answerTyped "milk,tea" = .error refusal := by
  intro input chosen
  have htyped : input.answerTyped " brown sugar ,,milk\n" = .ok chosen := by decide +kernel
  have hitem : ∀ item ∈ ["milk"], IsItem item := by
    rw [List.forall_mem_singleton]
    exact ⟨by decide, by decide +kernel, by decide⟩
  have htakes : input.Takes (.list ["milk"]) := ⟨_, rfl, by decide⟩
  have hlist : input.kind.isList = true := rfl
  obtain ⟨hagain, hshown, hrefused⟩ := lists_retyped hlist
  exact ⟨hlist, htyped, (hagain _ _ htyped).2.2, hitem, htakes, hshown _ hitem htakes,
    (hrefused _ rfl "milk,tea").2 ⟨"tea", by decide +kernel, by decide⟩⟩

end Input

end NoteForms
