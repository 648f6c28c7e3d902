import NoteForms.Proofs.ItemByItem

/-!
# Nothing is refused in silence

Whatever is refused, an issue says why (`Explained`), and the issue is either that the value is no
object or is found under a key (`Validated.Placed`).  So no issue reads as the summary of none
(`Validated.Worded`), and no summary does (`refusals_speak`).
-/

namespace NoteForms

/-- Issues that say something: there are some, and their summary is not the one of none. -/
def Speak (issues : List Issue) : Prop := issues ≠ [] ∧ summarize issues ≠ "validation failed"

/-! ## Texts of issues -/

theorem ne_of_mem_colon {s : String} (h : ':' ∈ s.toList) : s ≠ "validation failed" := by
  rintro rfl
  revert h
  decide

theorem Issue.text_ne {i : Issue} (h : i.path.text ≠ "") : i.text ≠ "validation failed" := by
  refine ne_of_mem_colon ?_
  simp [Issue.text, h]

theorem expectedMessage_ne (expected : String) (v : Json) :
    expectedMessage expected v ≠ "validation failed" := by
  intro h
  have hhead := congrArg (fun s : String => s.toList.head?) h
  simp [expectedMessage, String.toList_append] at hhead

theorem toString_ne_empty (n : Nat) : toString n ≠ "" := by
  intro h
  exact Nat.toDigits_ne_nil (String.ofList_eq_empty_iff.1 h)

-- Several issues are counted, and a point is put behind the count.
theorem speak_of_text_ne {issues : List Issue} (hne : issues ≠ [])
    (h : ∀ i ∈ issues, i.text ≠ "validation failed") : Speak issues := by
  refine ⟨hne, ?_⟩
  match issues, hne, h with
  | [only], _, h => exact h only (List.mem_singleton.2 rfl)
  | i :: j :: is, _, _ =>
    refine ne_of_mem_colon ?_
    simp [summarize]

/-! ## Places of issues -/

namespace Validated

variable {α β : Type} {x : Validated α}

/-- No issue reads as the summary of none. -/
def Worded (x : Validated α) : Prop := ∀ i ∈ x.issues, i.text ≠ "validation failed"

/-- Every issue is found under a key. -/
def Placed (x : Validated α) : Prop := ∀ i ∈ x.issues, ∃ key rest, key ≠ "" ∧ i.path = key :: rest

theorem Explained.speak (hx : x.Explained) (hworded : x.Worded) {issues : List Issue}
    (h : x = .invalid issues) : Speak issues := by
  subst h
  exact speak_of_text_ne (hx.ne_nil rfl) hworded

theorem Placed.worded (hx : x.Placed) : x.Worded := by
  intro i hi
  obtain ⟨key, rest, hkey, hpath⟩ := hx i hi
  refine Issue.text_ne fun hempty => ?_
  rcases KeyPath.text_eq_empty_iff.1 hempty with h | h
  · exact List.cons_ne_nil key rest (hpath ▸ h)
  · exact hkey (List.cons.inj (hpath ▸ h)).1

theorem FoundUnder.placed {key : String} (hkey : key ≠ "") (h : x.FoundUnder key) : x.Placed := by
  intro i hi
  obtain ⟨rest, hpath⟩ := h i hi
  exact ⟨key, rest, hkey, hpath⟩

theorem placed_valid (a : α) : (valid a).Placed := by simp [Placed, issues]

theorem Placed.map (hx : x.Placed) (f : α → β) : (f <$> x).Placed := by
  rw [Placed, issues_map]
  exact hx

theorem Placed.seq {f : Validated (α → β)} (hf : f.Placed) (hx : x.Placed) : (f <*> x).Placed := by
  rw [Placed, issues_seq]
  exact List.forall_mem_append.2 ⟨hf, hx⟩

end Validated

open Validated Members

namespace Members

variable {α : Type}

theorem Reads.placed {key : String} {check : Members → Validated α} (h : Reads key check)
    (hkey : key ≠ "") (members : Members) : (check members).Placed :=
  (h.found members).placed hkey

theorem worded_ofJson (raw : Json) : (Members.ofJson [] raw).Worded := by
  unfold Members.ofJson
  split
  · exact (placed_valid _).worded
  · intro i hi
    obtain rfl := List.mem_singleton.1 hi
    exact expectedMessage_ne _ _

/-- What is said against a value is that it is no object, or is said of the members it has. -/
theorem worded_andThen (raw : Json) {f : Members → Validated α}
    (hf : ∀ members, (f members).Placed) : ((Members.ofJson [] raw).andThen f).Worded := by
  have hraw := worded_ofJson raw
  cases hmembers : Members.ofJson [] raw with
  | valid members => exact (hf members).worded
  | invalid issues =>
    rw [hmembers] at hraw
    exact hraw

end Members

/-! ## Inputs -/

namespace Input

variable (faultOf : String → Option String) (members : Members)

theorem placed_selectOptions : (selectOptions members []).Placed :=
  ((reads_array "options").andThen fun items =>
    (relocates_items relocates_selectOption 0 items).foundUnder "options").placed
      (by decide) members

theorem placed_textList {key : String} (hkey : key ≠ "") : (textList members [] key).Placed :=
  ((reads_array key).andThen fun items =>
    (relocates_items relocates_listedText 0 items).foundUnder key).placed hkey members

theorem placed_pattern : (pattern faultOf members []).Placed := by
  have hreads : Reads "exclude" (pattern faultOf · []) :=
    (reads_optionalText "exclude").andThen fun exclude => by split <;> simp
  exact hreads.placed (by decide) members

theorem placed_allowUnknown : (allowUnknown members []).Placed :=
  ((reads_optionalFlag _).placed (by decide) members).map _

theorem placed_firstMatch {α : Type} {shapes : List (Shape α)} (hne : shapes ≠ [])
    (h : ∀ s ∈ shapes, (s.payload members []).Placed) : (firstMatch members [] shapes).Placed := by
  cases hmatch : firstMatch members [] shapes with
  | valid a => exact placed_valid a
  | invalid issues =>
    obtain ⟨s, hs, hattempt⟩ := exists_of_firstMatch_eq_invalid hne hmatch
    rw [← hattempt]
    exact (((reads_literal "source" s.source).placed (by decide) members).map _).seq (h s hs)

theorem placed_typeName : (typeName members []).Placed := by
  have hfound : (typeName members []).FoundUnder "type" := by
    unfold typeName
    split <;> simp
  exact hfound.placed (by decide)

theorem placed_payload (kind : InputKind) : (payload faultOf members [] kind).Placed := by
  cases kind with
  | basic kind => exact ((reads_optionalFlag _).placed (by decide) members).map _
  | tag => exact (placed_pattern faultOf members).map _
  | slider =>
    exact (((reads_number _).placed (by decide) members).map _).seq
      ((reads_number _).placed (by decide) members)
  | note => exact ((reads_nonBlankText _).placed (by decide) members).map _
  | folder => exact placed_valid _
  | dataview => exact ((reads_nonBlankText _).placed (by decide) members).map _
  | select =>
    refine (placed_firstMatch members (by simp [selectShapes]) ?_).map _
    simp only [selectShapes, List.forall_mem_cons]
    exact ⟨((reads_nonBlankText _).placed (by decide) members).map _,
      (placed_selectOptions members).map _, by simp⟩
  | multiselect =>
    refine (placed_firstMatch members (by simp [multiselectShapes]) ?_).map _
    simp only [multiselectShapes, List.forall_mem_cons]
    exact ⟨((reads_nonBlankText _).placed (by decide) members).map _,
      ((placed_textList members (by decide)).map _).seq (placed_allowUnknown members),
      (((reads_nonBlankText _).placed (by decide) members).map _).seq
        (placed_allowUnknown members), by simp⟩
  | documentBlock => exact ((reads_text _).placed (by decide) members).map _

theorem speak_of_validate {raw : Json} {e : InputError} (h : validate faultOf raw = .error e)
    (base : KeyPath) : Speak (e.issuesUnder base) := by
  rcases error_cases faultOf [] h with ⟨issues, rfl, hissues | ⟨members, hissues⟩⟩ | ⟨name, rfl⟩
    | ⟨members, kind, issues, rfl, hissues⟩
  · exact (explained_ofJson [] raw).speak (worded_ofJson raw) hissues
  · exact (explained_typeName members []).speak (placed_typeName members).worded hissues
  · refine speak_of_text_ne (List.cons_ne_nil _ _) fun i hi => ?_
    obtain rfl := List.mem_singleton.1 hi
    refine Issue.text_ne fun hempty => ?_
    cases base <;> simp [KeyPath.text_eq_empty_iff] at hempty
  · exact (explained_payload faultOf members [] kind).speak
      (placed_payload faultOf members kind).worded hissues

end Input

/-! ## Fields and forms -/

theorem PartByPart.placed {α : Type} {keys : List String} {accepts : Members → Prop}
    {check : Members → Validated α} {parts : List Part}
    (h : PartByPart keys accepts (fun members => (check members).issues) parts)
    (hkeys : "" ∉ keys) (members : Members) : (check members).Placed := by
  intro i hi
  obtain ⟨key, hkey, rest, hpath⟩ := h.exists_key hi
  exact ⟨key, rest, fun hempty => hkeys (hempty ▸ hkey), hpath⟩

namespace Field

variable (faultOf : String → Option String)

theorem worded_check (raw : Json) : (check faultOf [] raw).Worded := by
  refine worded_andThen raw fun members => ?_
  have hparts := partByPart faultOf
  simp only [issuesOf_eq] at hparts
  exact hparts.placed (by decide) members

theorem placed_checkAll (raws : List Json) : (checkAll faultOf raws).Placed := by
  intro i hi
  obtain ⟨index, rest, hpath⟩ := exists_index_of_mem hi
  exact ⟨toString index, rest, toString_ne_empty index, hpath⟩

end Field

namespace FormOutline

/-- The parts of an outline. -/
def memberParts : List Part :=
  [.ofReads (reads_text "title"), .ofReads (reads_text "name"),
    .ofReads (reads_optionalText "customClassname"), .ofReads (reads_array "fields")]

theorem explained_validate (raw : Json) : (validate raw).Explained :=
  (explained_ofJson [] raw).andThen fun members =>
    ((((explained_text members [] _).map _).seq (explained_text members [] _)).seq
      (explained_optionalText members [] _)).seq (explained_array members [] _)

theorem partByPart :
    PartByPart ["title", "name", "customClassname", "fields"]
      (fun members => ∃ o, validate (.obj members) = .valid o)
      (fun members => (validate (.obj members)).issues) memberParts := by
  refine .of_check rfl (fun members => explained_validate _) fun members => ?_
  simp only [validate, Members.ofJson, Validated.andThen, issues_seq, issues_map, memberParts,
    List.flatMap_cons, List.flatMap_nil, Part.saidOf_ofReads, List.append_assoc, List.append_nil]

end FormOutline

/-- Nothing is refused in silence: there are issues against whatever is refused, and their summary
is not the one of none. -/
theorem refusals_speak (faultOf : String → Option String) :
    (∀ raw e base, Input.validate faultOf raw = .error e → Speak (e.issuesUnder base))
      ∧ (∀ raw e, Field.validate faultOf raw = .error e → Speak e.issues)
      ∧ (∀ raws issues, Field.checkAll faultOf raws = .invalid issues → Speak issues)
      ∧ (∀ raw issues, Form.validate faultOf raw = .invalid issues → Speak issues)
      ∧ (∀ raw issues, NoteTemplate.validate raw = .invalid issues → Speak issues)
      ∧ ∀ raw issues, FormOutline.validate raw = .invalid issues → Speak issues := by
  refine ⟨fun raw e base h => Input.speak_of_validate faultOf h base, fun raw e h => ?_,
    fun raws issues h => ?_, fun raw issues h => ?_, fun raw issues h => ?_,
    fun raw issues h => ?_⟩
  · exact (Field.explained_check faultOf [] raw).speak (Field.worded_check faultOf raw)
      (Field.check_of_validate_eq_error h)
  · exact (Field.explained_checkFrom faultOf [] 0 [] raws).speak
      (Field.placed_checkAll faultOf raws).worded h
  · exact (Form.explained_validate faultOf raw).speak (worded_andThen raw fun members =>
      (Form.partByPart faultOf).placed (by decide) members) h
  · exact (NoteTemplate.explained_validate raw).speak
      (((NoteTemplate.relocates_validateAt raw).foundUnder "template").placed (by decide)).worded h
  · exact (FormOutline.explained_validate raw).speak (worded_andThen raw fun members =>
      FormOutline.partByPart.placed (by decide) members) h

/-- Refusals of each kind: no shape of a choice fits, a field and a form are no objects, two fields
have one name, a template and an outline are empty. -/
theorem refusals_speak_of_each_kind :
    let faultOf : String → Option String := fun _ => none
    let choice : Json := .obj [("source", .str "fixed"), ("type", .str "select")]
    let tea : Json := .obj [("input", .obj [("type", .str "text")]), ("name", .str "tea")]
    let notObject : List Issue := [⟨[], "expected an object, received null", none⟩]
    (∃ e, Input.validate faultOf choice = .error e ∧ Speak (e.issuesUnder ["input"]))
      ∧ (∃ e, Field.validate faultOf .null = .error e ∧ Speak e.issues)
      ∧ (∃ issues, Field.checkAll faultOf [tea, tea] = .invalid issues ∧ Speak issues)
      ∧ (Form.validate faultOf .null = .invalid notObject ∧ Speak notObject)
      ∧ (∃ issues, NoteTemplate.validate (.obj []) = .invalid issues ∧ Speak issues)
      ∧ ∃ issues, FormOutline.validate (.obj []) = .invalid issues ∧ Speak issues := by
  intro faultOf choice tea notObject
  obtain ⟨hinput, hfield, hfields, hform, htemplate, houtline⟩ := refusals_speak faultOf
  refine ⟨⟨_, rfl, hinput choice _ _ rfl⟩, ⟨_, rfl, hfield .null _ rfl⟩,
    ⟨_, rfl, hfields [tea, tea] _ rfl⟩, ⟨rfl, hform .null _ rfl⟩,
    ⟨_, rfl, htemplate (.obj []) _ rfl⟩, ⟨_, rfl, houtline (.obj []) _ rfl⟩⟩

end NoteForms
