import NoteForms.Form.Entry
import NoteForms.Proofs.InTurn
import NoteForms.Proofs.Relocation

/-!
# What is said against a value

No check refuses a value in silence (`Form.explained_validate`), and the issues of a form are those
of its members, each found under the name of its member (`Form.foundUnder_of_mem_issues`).
-/

namespace NoteForms

namespace Validated

variable {α β : Type}

/-- If the value is refused, something is said against it. -/
def Explained (x : Validated α) : Prop := x ≠ .invalid []

theorem Explained.ne_nil {x : Validated α} (hx : x.Explained) {issues : List Issue}
    (h : x = .invalid issues) : issues ≠ [] := by
  rintro rfl
  exact hx h

@[simp]
theorem explained_valid (a : α) : (valid a).Explained := by simp [Explained]

@[simp]
theorem explained_issue (base : KeyPath) (message : String) :
    (issue base message : Validated α).Explained := by
  simp [Explained, issue]

@[simp]
theorem explained_issueAt (base : KeyPath) (key message : String) :
    (issueAt base key message : Validated α).Explained := explained_issue _ _

theorem Explained.seq {f : Validated (α → β)} {x : Validated α} (hf : f.Explained)
    (hx : x.Explained) : (f <*> x).Explained := by
  cases f <;> cases x <;> simp_all [Explained, Seq.seq, ap]

theorem Explained.map {x : Validated α} (hx : x.Explained) (f : α → β) : (f <$> x).Explained := by
  cases x <;> simp_all [Explained, Functor.map, ap]

theorem Explained.andThen {x : Validated α} (hx : x.Explained) {f : α → Validated β}
    (hf : ∀ a, (f a).Explained) : (x.andThen f).Explained := by
  cases x with
  | valid a => exact hf a
  | invalid issues => simpa [Explained, Validated.andThen] using hx

theorem Explained.mapIssues {x : Validated α} (hx : x.Explained) (change : Issue → Issue) :
    (x.mapIssues change).Explained := by
  cases x <;> simp_all [Explained, Validated.mapIssues]

theorem explained_items {check : KeyPath → α → Validated β}
    (h : ∀ base a, (check base a).Explained) (base : KeyPath) :
    ∀ (i : Nat) (as : List α), (items check base i as).Explained
  | _, [] => explained_valid _
  | i, a :: as => ((h _ a).map _).seq (explained_items h base (i + 1) as)

/-! ## Where issues are found -/

/-- Every issue is found at the key or below it. -/
def FoundUnder (key : String) (x : Validated α) : Prop :=
  ∀ i ∈ x.issues, ∃ rest, i.path = key :: rest

@[simp]
theorem foundUnder_valid (key : String) (a : α) : (valid a).FoundUnder key := by
  simp [FoundUnder, issues]

@[simp]
theorem foundUnder_issueAt (key message : String) :
    (issueAt [] key message : Validated α).FoundUnder key := by
  simp [FoundUnder, issues, issueAt, issue]

/-- What is looked at under a key is found there. -/
theorem Relocates.foundUnder {check : KeyPath → Validated α} (h : Relocates check) (key : String) :
    (check [key]).FoundUnder key := by
  intro i hi
  rw [h.eq_under, under, issues_mapIssues] at hi
  obtain ⟨j, -, rfl⟩ := List.mem_map.1 hi
  exact ⟨j.path, rfl⟩

theorem FoundUnder.andThen {key : String} {x : Validated α} (hx : x.FoundUnder key)
    {f : α → Validated β} (hf : ∀ a, (f a).FoundUnder key) : (x.andThen f).FoundUnder key := by
  cases x with
  | valid a => exact hf a
  | invalid issues => exact hx

theorem FoundUnder.map {key : String} {x : Validated α} (hx : x.FoundUnder key) (f : α → β) :
    (f <$> x).FoundUnder key := by
  intro i hi
  rw [issues_map] at hi
  exact hx i hi

end Validated

open Validated

/-! ## Members -/

namespace Members

variable (members : Members) (base : KeyPath) (key : String)

theorem explained_ofJson (raw : Json) : (ofJson base raw).Explained := by
  cases raw <;> simp [ofJson]

theorem explained_text : (members.text base key).Explained := by
  unfold text
  split <;> simp

theorem explained_nonBlankText : (members.nonBlankText base key).Explained := by
  refine (explained_text members base key).andThen fun s => ?_
  split <;> simp

theorem explained_optionalText : (members.optionalText base key).Explained := by
  unfold optionalText
  split <;> simp

theorem explained_optionalFlag : (members.optionalFlag base key).Explained := by
  unfold optionalFlag
  split <;> simp

theorem explained_flag : (members.flag base key).Explained := by
  unfold flag
  split <;> simp

theorem explained_number : (members.number base key).Explained := by
  unfold number
  split <;> simp

theorem explained_array : (members.array base key).Explained := by
  unfold array
  split <;> simp

theorem explained_literal (expected : String) : (members.literal base key expected).Explained := by
  unfold literal
  split
  · split <;> simp
  · simp
  · simp

theorem foundUnder_nonBlankText : (members.nonBlankText [] key).FoundUnder key := by
  refine FoundUnder.andThen ?_ fun s => ?_
  · unfold text
    split <;> simp
  · split <;> simp

theorem foundUnder_optionalText : (members.optionalText [] key).FoundUnder key := by
  unfold optionalText
  split <;> simp

theorem foundUnder_array : (members.array [] key).FoundUnder key := by
  unfold array
  split <;> simp

end Members

/-! ## Inputs -/

namespace Input

open Members

variable (faultOf : String → Option String) (members : Members) (base : KeyPath)

theorem explained_optionValue : (optionValue members base).Explained := by
  unfold optionValue
  split
  · simp
  · split
    · simp
    · split <;> simp

theorem explained_selectOption (v : Json) : (selectOption base v).Explained :=
  (explained_ofJson base v).andThen fun members =>
    ((explained_optionValue members base).map _).seq (explained_optionalText members base _)

theorem explained_selectOptions : (selectOptions members base).Explained :=
  (explained_array members base _).andThen (explained_items explained_selectOption _ 0)

theorem explained_listedText (v : Json) : (listedText base v).Explained := by
  cases v <;> simp [listedText]

theorem explained_textList (key : String) : (textList members base key).Explained :=
  (explained_array members base key).andThen (explained_items explained_listedText _ 0)

theorem explained_pattern : (pattern faultOf members base).Explained := by
  refine (explained_optionalText members base _).andThen fun exclude => ?_
  split <;> simp

theorem explained_firstMatch {α : Type} {shapes : List (Shape α)} (hne : shapes ≠ [])
    (h : ∀ s ∈ shapes, (s.payload members base).Explained) :
    (firstMatch members base shapes).Explained := by
  intro hnone
  obtain ⟨s, hs, hattempt⟩ := exists_of_firstMatch_eq_invalid hne hnone
  exact ((explained_literal members base _ _).map _).seq (h s hs) hattempt

theorem explained_allowUnknown : (allowUnknown members base).Explained :=
  (explained_optionalFlag members base _).map _

theorem explained_payload (kind : InputKind) : (payload faultOf members base kind).Explained := by
  cases kind with
  | basic kind => exact (explained_optionalFlag members base _).map _
  | tag => exact (explained_pattern faultOf members base).map _
  | slider => exact ((explained_number members base _).map _).seq (explained_number members base _)
  | note => exact (explained_nonBlankText members base _).map _
  | folder => exact explained_valid _
  | dataview => exact (explained_nonBlankText members base _).map _
  | select =>
    refine (explained_firstMatch members base (by simp [selectShapes]) fun s hs => ?_).map _
    simp only [selectShapes, List.mem_cons, List.not_mem_nil, or_false] at hs
    rcases hs with rfl | rfl
    · exact (explained_nonBlankText members base _).map _
    · exact (explained_selectOptions members base).map _
  | multiselect =>
    refine (explained_firstMatch members base (by simp [multiselectShapes]) fun s hs => ?_).map _
    simp only [multiselectShapes, List.mem_cons, List.not_mem_nil, or_false] at hs
    rcases hs with rfl | rfl | rfl
    · exact (explained_nonBlankText members base _).map _
    · exact ((explained_textList members base _).map _).seq (explained_allowUnknown members base)
    · exact ((explained_nonBlankText members base _).map _).seq
        (explained_allowUnknown members base)
  | documentBlock => exact (explained_text members base _).map _

theorem explained_typeName : (typeName members base).Explained := by
  unfold typeName
  split <;> simp

/-- A raw value is refused because it is no object or has no type, because its type is not known, or
for its payload. -/
theorem error_cases {raw : Json} {e : InputError} (h : validateAt faultOf base raw = .error e) :
    (∃ issues, e = .structure issues
        ∧ (ofJson base raw = .invalid issues ∨ ∃ members, typeName members base = .invalid issues))
      ∨ (∃ name, e = .unknownType name)
      ∨ ∃ members kind issues, e = .payload kind issues
          ∧ payload faultOf members base kind = .invalid issues := by
  unfold validateAt at h
  split at h
  · rename_i issues hissues
    cases h
    exact .inl ⟨issues, rfl, .inl hissues⟩
  · split at h
    · rename_i issues hissues
      cases h
      exact .inl ⟨issues, rfl, .inr ⟨_, hissues⟩⟩
    · split at h
      · cases h
        exact .inr (.inl ⟨_, rfl⟩)
      · split at h
        · cases h
        · rename_i issues hissues
          cases h
          exact .inr (.inr ⟨_, _, issues, rfl, hissues⟩)

theorem issuesUnder_ne_nil {raw : Json} {e : InputError}
    (h : validateAt faultOf base raw = .error e) (place : KeyPath) : e.issuesUnder place ≠ [] := by
  rcases error_cases faultOf base h with ⟨issues, rfl, hissues | ⟨members, hissues⟩⟩ | ⟨name, rfl⟩
    | ⟨members, kind, issues, rfl, hissues⟩
  · exact (explained_ofJson base raw).ne_nil hissues
  · exact (explained_typeName members base).ne_nil hissues
  · exact List.cons_ne_nil _ _
  · exact (explained_payload faultOf members base kind).ne_nil hissues

end Input

/-! ## Fields -/

namespace Condition

open Members

theorem explained_validate (base : KeyPath) (raw : Json) : (validate base raw).Explained := by
  refine (explained_ofJson base raw).andThen fun members => ?_
  refine ((explained_nonBlankText members base _).map _).seq (Explained.andThen ?_ fun kind => ?_)
  · refine (explained_text members base _).andThen fun name => ?_
    split <;> simp
  · cases kind with
    | isSet => exact explained_valid _
    | startsWith => exact (explained_text members base _).map _
    | contains => exact (explained_text members base _).map _
    | above => exact (explained_number members base _).map _
    | below => exact (explained_number members base _).map _
    | boolean =>
      refine Explained.map ?_ _
      unfold expectedFlag
      split <;> simp

end Condition

namespace Field

open Members

variable (faultOf : String → Option String) (base : KeyPath)

theorem explained_inputOf (members : Members) : (inputOf faultOf members base).Explained := by
  unfold inputOf
  split
  · simp
  · split
    · simp
    · rename_i e he
      simpa [Explained] using Input.issuesUnder_ne_nil faultOf _ he _

theorem explained_conditionOf (members : Members) : (conditionOf members base).Explained := by
  unfold conditionOf
  split
  · simp
  · exact (Condition.explained_validate _ _).map _

theorem explained_check (raw : Json) : (check faultOf base raw).Explained :=
  (explained_ofJson base raw).andThen fun members =>
    ((((((explained_nonBlankText members base _).map _).seq
      (explained_optionalText members base _)).seq
      ((explained_optionalText members base _).map _)).seq
      (explained_optionalFlag members base _)).seq
      (explained_inputOf faultOf base members)).seq (explained_conditionOf base members)

theorem explained_distinctAt (path : KeyPath) (index : Nat) (seen : List (String × Nat))
    {found : Validated Field} (h : found.Explained) :
    (distinctAt path index seen found).Explained := by
  refine (h.andThen fun field => ?_).mapIssues _
  split <;> simp

theorem explained_checkFrom : ∀ (index : Nat) (seen : List (String × Nat)) (raws : List Json),
    (checkFrom faultOf base index seen raws).Explained
  | _, _, [] => explained_valid _
  | index, seen, raw :: raws =>
    ((explained_distinctAt _ index seen (explained_check faultOf _ raw)).map _).seq
      (explained_checkFrom (index + 1) _ raws)

end Field

/-! ## Forms -/

namespace NoteTemplate

open Members

theorem explained_validate (raw : Json) : (validate raw).Explained := by
  refine (explained_ofJson _ raw).andThen fun members => ?_
  refine ((explained_flag members _ _).map _).seq ?_
  unfold segmentsOf
  split
  · simp
  · split <;> simp

end NoteTemplate

namespace Form

open Members

variable (faultOf : String → Option String)

theorem explained_fieldsOf (members : Members) (base : KeyPath) :
    (fieldsOf faultOf members base).Explained :=
  (explained_array members base _).andThen (Field.explained_checkFrom faultOf _ 0 [])

theorem explained_templateOf (members : Members) : (templateOf members).Explained := by
  unfold templateOf
  split
  · simp
  · exact (NoteTemplate.explained_validate _).map _

/-- No form is refused without an issue. -/
theorem explained_validate (raw : Json) : (validate faultOf raw).Explained :=
  (explained_ofJson [] raw).andThen fun members =>
    ((((((explained_nonBlankText members [] _).map _).seq (explained_nonBlankText members [] _)).seq
      (explained_optionalText members [] _)).seq (explained_literal members [] _ _)).seq
      (explained_fieldsOf faultOf members [])).seq (explained_templateOf members)

theorem issues_validate_obj (members : Members) :
    (validate faultOf (.obj members)).issues
      = (members.nonBlankText [] "title").issues ++ (members.nonBlankText [] "name").issues
        ++ (members.optionalText [] "customClassname").issues
        ++ (members.literal [] "version" formVersion).issues
        ++ (fieldsOf faultOf members []).issues ++ (templateOf members).issues := by
  simp only [validate, Members.ofJson, Validated.andThen, issues_seq, issues_map]

theorem foundUnder_fieldsOf (members : Members) :
    (fieldsOf faultOf members []).FoundUnder "fields" :=
  (foundUnder_array members _).andThen fun items =>
    (Field.relocates_checkAllAt faultOf items).foundUnder "fields"

theorem foundUnder_templateOf (members : Members) : (templateOf members).FoundUnder "template" := by
  unfold templateOf
  split
  · simp
  · exact ((NoteTemplate.relocates_validateAt _).foundUnder "template").map _

/-- Against a form with the current version, nothing is said but of its other members. -/
theorem foundUnder_of_mem_issues {members : Members}
    (hversion : lookup "version" members = some (.str formVersion)) {i : Issue}
    (h : i ∈ (validate faultOf (.obj members)).issues) :
    ∃ key ∈ ["title", "name", "customClassname", "fields", "template"],
      ∃ rest, i.path = key :: rest := by
  have hcurrent : (members.literal [] "version" formVersion).issues = [] := by
    rw [Members.literal_eq_valid_iff.2 hversion]
    rfl
  rw [issues_validate_obj, hcurrent, List.append_nil] at h
  simp only [List.mem_append] at h
  rcases h with (((h | h) | h) | h) | h
  · exact ⟨_, by simp, foundUnder_nonBlankText members _ i h⟩
  · exact ⟨_, by simp, foundUnder_nonBlankText members _ i h⟩
  · exact ⟨_, by simp, foundUnder_optionalText members _ i h⟩
  · exact ⟨_, by simp, foundUnder_fieldsOf faultOf members i h⟩
  · exact ⟨_, by simp, foundUnder_templateOf members i h⟩

end Form

end NoteForms
