import NoteForms.Form.Example
import NoteForms.Form.Validation
import NoteForms.Proofs.InTurn
import NoteForms.Proofs.Relocation
import NoteForms.Proofs.WrittenNumber

/-!
# What a checked form is like

A form is well-formed when nothing that must say something is blank, its fields have different
names, its bounds are numbers and its patterns have no fault.  Every form that passes the checks,
whatever raw value it was found in, is well-formed (`Form.wellFormed_of_validate`).  The checks of a
list of fields amount to the check of each field and different names
(`Field.checkAllAt_eq_valid_iff`).
-/

namespace NoteForms

variable {faultOf : String → Option String} {members : Members} {base : KeyPath}

/-- Whether a bound is a number. -/
def Bound.IsFinite (b : Bound) : Prop := ∃ x, b = .finite x

/-! ## Conditions -/

/-- A test whose bound, if it has one, is a number. -/
def Test.WellFormed : Test → Prop
  | .above bound => bound.IsFinite
  | .below bound => bound.IsFinite
  | _ => True

/-- A condition on a field of some name. -/
structure Condition.WellFormed (c : Condition) : Prop where
  dependency : Text.trim c.dependency ≠ ""
  test : c.test.WellFormed

theorem Test.wellFormed_of_testOf {kind : TestKind} {t : Test}
    (h : Condition.testOf members base kind = .valid t) : t.WellFormed := by
  cases kind with
  | isSet =>
    cases h
    trivial
  | startsWith =>
    obtain ⟨start, -, rfl⟩ := Validated.map_eq_valid_iff.1 h
    trivial
  | contains =>
    obtain ⟨needle, -, rfl⟩ := Validated.map_eq_valid_iff.1 h
    trivial
  | above =>
    obtain ⟨x, -, rfl⟩ := Validated.map_eq_valid_iff.1 h
    exact ⟨x, rfl⟩
  | below =>
    obtain ⟨x, -, rfl⟩ := Validated.map_eq_valid_iff.1 h
    exact ⟨x, rfl⟩
  | boolean =>
    obtain ⟨b, -, rfl⟩ := Validated.map_eq_valid_iff.1 h
    trivial

theorem Condition.wellFormed_of_validate {raw : Json} {c : Condition}
    (h : Condition.validate base raw = .valid c) : c.WellFormed := by
  obtain ⟨members, -, h⟩ := Validated.andThen_eq_valid_iff.1 h
  obtain ⟨_, hg, t, htest, rfl⟩ := Validated.seq_eq_valid_iff.1 h
  obtain ⟨name, hname, rfl⟩ := Validated.map_eq_valid_iff.1 hg
  obtain ⟨kind, -, htest⟩ := Validated.andThen_eq_valid_iff.1 htest
  exact ⟨(Members.nonBlankText_eq_valid_iff.1 hname).2, Test.wellFormed_of_testOf htest⟩

/-! ## Inputs -/

/-- An option whose value is not empty and has no blanks around it. -/
structure SelectOption.WellFormed (o : SelectOption) : Prop where
  ne_empty : o.value ≠ ""
  trimmed : Text.trim o.value = o.value

/-- The options are well-formed, or found in a folder of some name. -/
def SelectSource.WellFormed : SelectSource → Prop
  | .notes folder => Text.trim folder ≠ ""
  | .fixed options => ∀ o ∈ options, o.WellFormed

/-- The options are found in a folder of some name, or by a query that is not blank, or given. -/
def MultiselectSource.WellFormed : MultiselectSource → Prop
  | .notes folder => Text.trim folder ≠ ""
  | .fixed _ _ => True
  | .dataview query _ => Text.trim query ≠ ""

/-- The payload passes the checks of its kind. -/
def Input.WellFormed (faultOf : String → Option String) : Input → Prop
  | .basic _ _ => True
  | .tag exclude => ∀ pattern ∈ exclude, faultOf pattern = none
  | .slider min max => min.IsFinite ∧ max.IsFinite
  | .note directory => Text.trim directory ≠ ""
  | .folder => True
  | .dataview query => Text.trim query ≠ ""
  | .select source => source.WellFormed
  | .multiselect source => source.WellFormed
  | .documentBlock _ => True

namespace Input

/-- The text of an option's value has no blanks around it, whatever it was made from. -/
theorem trim_of_optionText? {v : Json} {s : String} (h : optionText? v = some s) :
    Text.trim s = s := by
  unfold optionText? at h
  split at h
  · cases h
    exact Text.trim_trim _
  · rename_i n
    cases h
    exact n.trim_write
  · rename_i b
    cases h
    cases b <;> decide
  · cases h

theorem optionValue_eq_valid_iff {s : String} :
    optionValue members base = .valid s
      ↔ ∃ v, lookup "value" members = some v ∧ optionText? v = some s ∧ s ≠ "" := by
  unfold optionValue
  split
  · rename_i h
    simp [h, Validated.issueAt, Validated.issue]
  · rename_i v h
    split
    · rename_i hv
      simp [h, hv, Validated.issueAt, Validated.issue]
    · rename_i t hv
      split <;> grind [Validated.issueAt, Validated.issue, String.isEmpty_iff]

theorem wellFormed_of_selectOption {v : Json} {o : SelectOption}
    (h : selectOption base v = .valid o) : o.WellFormed := by
  obtain ⟨members, -, h⟩ := Validated.andThen_eq_valid_iff.1 h
  obtain ⟨_, hg, label, -, rfl⟩ := Validated.seq_eq_valid_iff.1 h
  obtain ⟨value, hvalue, rfl⟩ := Validated.map_eq_valid_iff.1 hg
  obtain ⟨v, -, htext, hne⟩ := optionValue_eq_valid_iff.1 hvalue
  exact ⟨hne, trim_of_optionText? htext⟩

theorem selectOptions_eq_valid_iff {options : List SelectOption} :
    selectOptions members base = .valid options
      ↔ ∃ items, lookup "options" members = some (.arr items)
          ∧ List.Forall₂ (fun v o => selectOption [] v = .valid o) items options := by
  simp only [selectOptions, Validated.andThen_eq_valid_iff, Members.array_eq_valid_iff,
    Validated.items_eq_valid_iff fun _ v _ => (relocates_selectOption v).eq_valid_iff]

theorem pattern_eq_valid_iff {exclude : Option String} :
    pattern faultOf members base = .valid exclude
      ↔ members.optionalText base "exclude" = .valid exclude
          ∧ ∀ p ∈ exclude, faultOf p = none := by
  rw [pattern, Validated.andThen_eq_valid_iff]
  constructor
  · rintro ⟨found, hfound, h⟩
    split at h
    · cases h
    · rename_i hfault
      cases h
      refine ⟨hfound, ?_⟩
      rintro p ⟨⟩
      exact hfault
  · rintro ⟨hfound, hfault⟩
    refine ⟨exclude, hfound, ?_⟩
    have hnone : exclude.bind faultOf = none := by
      cases exclude with
      | none => rfl
      | some p => exact hfault p rfl
    rw [hnone]

/-! ### Shapes -/

theorem wellFormed_of_selectShapes {source : SelectSource}
    (h : firstMatch members base selectShapes = .valid source) : source.WellFormed := by
  obtain ⟨s, hs, hattempt⟩ := exists_of_firstMatch h
  have h := (attempt_eq_valid_iff.1 hattempt).2
  simp only [selectShapes, List.mem_cons, List.not_mem_nil, or_false] at hs
  rcases hs with rfl | rfl
  · obtain ⟨folder, hfolder, rfl⟩ := Validated.map_eq_valid_iff.1 h
    exact (Members.nonBlankText_eq_valid_iff.1 hfolder).2
  · obtain ⟨options, hoptions, rfl⟩ := Validated.map_eq_valid_iff.1 h
    obtain ⟨items, -, hitems⟩ := selectOptions_eq_valid_iff.1 hoptions
    exact forall_of_forall₂ hitems wellFormed_of_selectOption

theorem wellFormed_of_multiselectShapes {source : MultiselectSource}
    (h : firstMatch members base multiselectShapes = .valid source) : source.WellFormed := by
  obtain ⟨s, hs, hattempt⟩ := exists_of_firstMatch h
  have h := (attempt_eq_valid_iff.1 hattempt).2
  simp only [multiselectShapes, List.mem_cons, List.not_mem_nil, or_false] at hs
  rcases hs with rfl | rfl | rfl
  · obtain ⟨folder, hfolder, rfl⟩ := Validated.map_eq_valid_iff.1 h
    exact (Members.nonBlankText_eq_valid_iff.1 hfolder).2
  · obtain ⟨_, hg, allowUnknown, -, rfl⟩ := Validated.seq_eq_valid_iff.1 h
    obtain ⟨options, -, rfl⟩ := Validated.map_eq_valid_iff.1 hg
    trivial
  · obtain ⟨_, hg, allowUnknown, -, rfl⟩ := Validated.seq_eq_valid_iff.1 h
    obtain ⟨query, hquery, rfl⟩ := Validated.map_eq_valid_iff.1 hg
    exact (Members.nonBlankText_eq_valid_iff.1 hquery).2

theorem wellFormed_of_payload {kind : InputKind} {i : Input}
    (h : payload faultOf members base kind = .valid i) : i.WellFormed faultOf := by
  cases kind with
  | basic kind =>
    obtain ⟨hidden, -, rfl⟩ := Validated.map_eq_valid_iff.1 h
    trivial
  | tag =>
    obtain ⟨exclude, hexclude, rfl⟩ := Validated.map_eq_valid_iff.1 h
    exact (pattern_eq_valid_iff.1 hexclude).2
  | slider =>
    obtain ⟨_, hg, max, -, rfl⟩ := Validated.seq_eq_valid_iff.1 h
    obtain ⟨min, -, rfl⟩ := Validated.map_eq_valid_iff.1 hg
    exact ⟨⟨min, rfl⟩, ⟨max, rfl⟩⟩
  | note =>
    obtain ⟨folder, hfolder, rfl⟩ := Validated.map_eq_valid_iff.1 h
    exact (Members.nonBlankText_eq_valid_iff.1 hfolder).2
  | folder =>
    cases h
    trivial
  | dataview =>
    obtain ⟨query, hquery, rfl⟩ := Validated.map_eq_valid_iff.1 h
    exact (Members.nonBlankText_eq_valid_iff.1 hquery).2
  | select =>
    obtain ⟨source, hsource, rfl⟩ := Validated.map_eq_valid_iff.1 h
    exact wellFormed_of_selectShapes hsource
  | multiselect =>
    obtain ⟨source, hsource, rfl⟩ := Validated.map_eq_valid_iff.1 h
    exact wellFormed_of_multiselectShapes hsource
  | documentBlock =>
    obtain ⟨body, -, rfl⟩ := Validated.map_eq_valid_iff.1 h
    trivial

theorem typeName_eq_valid_iff {name : String} :
    typeName members base = .valid name ↔ lookup "type" members = some (.str name) := by
  unfold typeName
  split <;> simp_all [Validated.issueAt, Validated.issue]

/-- An input is checked by its type first, and then by the payload of that type. -/
theorem validate_eq_ok_iff {raw : Json} {i : Input} :
    validate faultOf raw = .ok i
      ↔ ∃ members name kind, raw = .obj members ∧ lookup "type" members = some (.str name)
          ∧ InputKind.ofName? name = some kind ∧ payload faultOf members [] kind = .valid i := by
  constructor
  · intro h
    unfold validate validateAt at h
    split at h
    · cases h
    · rename_i members hmembers
      split at h
      · cases h
      · rename_i name hname
        split at h
        · cases h
        · rename_i kind hkind
          split at h
          · rename_i hpayload
            cases h
            exact ⟨members, name, kind, Members.ofJson_eq_valid_iff.1 hmembers,
              typeName_eq_valid_iff.1 hname, hkind, hpayload⟩
          · cases h
  · rintro ⟨members, name, kind, rfl, hname, hkind, hpayload⟩
    simp only [validate, validateAt, Members.ofJson, typeName_eq_valid_iff.2 hname, hkind, hpayload]

theorem wellFormed_of_validate {raw : Json} {i : Input} (h : validate faultOf raw = .ok i) :
    i.WellFormed faultOf := by
  obtain ⟨members, name, kind, -, -, -, h⟩ := validate_eq_ok_iff.1 h
  exact wellFormed_of_payload h

end Input

/-! ## Fields -/

/-- A field whose name is not blank and whose parts are well-formed. -/
structure Field.WellFormed (faultOf : String → Option String) (f : Field) : Prop where
  name : Text.trim f.name ≠ ""
  input : f.input.WellFormed faultOf
  condition : ∀ c ∈ f.condition, c.WellFormed

namespace Field

theorem inputOf_eq_valid_iff {i : Input} :
    inputOf faultOf members base = .valid i
      ↔ ∃ v, lookup "input" members = some v ∧ Input.validate faultOf v = .ok i := by
  unfold inputOf
  cases hv : lookup "input" members with
  | none => simp [Validated.issueAt, Validated.issue]
  | some v =>
    have hinput : ∀ j, Input.validateAt faultOf (base ++ ["input"]) v = .ok j
        ↔ Input.validate faultOf v = .ok j := fun _ => Input.validateAt_eq_ok_iff
    simp only [Option.some.injEq, exists_eq_left', ← hinput]
    cases Input.validateAt faultOf (base ++ ["input"]) v <;> simp

theorem conditionOf_eq_valid_iff {c : Option Condition} :
    conditionOf members base = .valid c
      ↔ (members.present? "condition" = none ∧ c = none)
          ∨ ∃ v d, members.present? "condition" = some v ∧ Condition.validate [] v = .valid d
              ∧ c = some d := by
  unfold conditionOf
  cases hv : members.present? "condition" with
  | none => simp [eq_comm]
  | some v =>
    simp only [Validated.map_eq_valid_iff, (Condition.relocates_validate v).eq_valid_iff]
    simp [eq_comm]

theorem descriptionOf_eq_valid_iff {description : String} :
    descriptionOf members base = .valid description
      ↔ ∃ d, members.optionalText base "description" = .valid d ∧ d.getD "" = description :=
  Validated.map_eq_valid_iff

/-- The checks of a field, each with what it gives. -/
theorem check_eq_valid_iff {raw : Json} {f : Field} :
    check faultOf [] raw = .valid f
      ↔ ∃ members : Members, raw = .obj members
          ∧ members.nonBlankText [] "name" = .valid f.name
          ∧ members.optionalText [] "label" = .valid f.label
          ∧ descriptionOf members [] = .valid f.description
          ∧ members.optionalFlag [] "isRequired" = .valid f.required
          ∧ inputOf faultOf members [] = .valid f.input
          ∧ conditionOf members [] = .valid f.condition := by
  simp only [check, Validated.andThen_eq_valid_iff, Validated.seq_eq_valid_iff,
    Validated.map_eq_valid_iff, Members.ofJson_eq_valid_iff]
  constructor
  · rintro ⟨members, hraw, _, ⟨_, ⟨_, ⟨_, ⟨_, ⟨name, hname, rfl⟩, label, hlabel, rfl⟩, description,
      hdescription, rfl⟩, required, hrequired, rfl⟩, i, hi, rfl⟩, c, hc, rfl⟩
    exact ⟨members, hraw, hname, hlabel, hdescription, hrequired, hi, hc⟩
  · rintro ⟨members, hraw, hname, hlabel, hdescription, hrequired, hi, hc⟩
    exact ⟨members, hraw, _, ⟨_, ⟨_, ⟨_, ⟨_, ⟨_, hname, rfl⟩, _, hlabel, rfl⟩, _, hdescription,
      rfl⟩, _, hrequired, rfl⟩, _, hi, rfl⟩, _, hc, rfl⟩

theorem wellFormed_of_check {raw : Json} {f : Field} (h : check faultOf [] raw = .valid f) :
    f.WellFormed faultOf := by
  obtain ⟨members, -, hname, -, -, -, hi, hc⟩ := check_eq_valid_iff.1 h
  obtain ⟨v, -, hi⟩ := inputOf_eq_valid_iff.1 hi
  refine ⟨(Members.nonBlankText_eq_valid_iff.1 hname).2, Input.wellFormed_of_validate hi, ?_⟩
  intro c hmem
  rcases conditionOf_eq_valid_iff.1 hc with ⟨-, hnone⟩ | ⟨v, d, -, hd, hsome⟩
  · rw [hnone] at hmem
    cases hmem
  · rw [hsome] at hmem
    cases hmem
    exact Condition.wellFormed_of_validate hd

/-! ### Lists of fields -/

theorem distinctAt_eq_valid_iff {path : KeyPath} {index : Nat} {seen : List (String × Nat)}
    {found : Validated Field} {f : Field} :
    distinctAt path index seen found = .valid f ↔ found = .valid f ∧ lookup f.name seen = none := by
  simp only [distinctAt, Validated.mapIssues_eq_valid_iff, Validated.andThen_eq_valid_iff]
  constructor
  · rintro ⟨g, hg, h⟩
    split at h
    · cases h
    · rename_i hfresh
      cases h
      exact ⟨hg, hfresh⟩
  · rintro ⟨hf, hfresh⟩
    exact ⟨f, hf, by rw [hfresh]⟩

theorem addSeen_of_fresh {index : Nat} {seen : List (String × Nat)} {f : Field}
    (hfresh : lookup f.name seen = none) :
    addSeen index seen (.valid f) = (f.name, index) :: seen := by
  simp [addSeen, hfresh]

theorem lookup_seen_eq_none_iff {name other : String} {index : Nat} {seen : List (String × Nat)} :
    lookup name ((other, index) :: seen) = none ↔ other ≠ name ∧ lookup name seen = none := by
  rw [lookup]
  split <;> simp_all

/-- The names seen so far are those that no field of the rest may have. -/
theorem checkFrom_eq_valid_iff :
    ∀ {raws : List Json} {index : Nat} {seen : List (String × Nat)} {fields : List Field},
      checkFrom faultOf base index seen raws = .valid fields
        ↔ List.Forall₂ (fun raw f => check faultOf [] raw = .valid f) raws fields
          ∧ fields.Pairwise (fun f g => f.name ≠ g.name)
          ∧ ∀ f ∈ fields, lookup f.name seen = none
  | [], index, seen, fields => by
    rw [checkFrom, Validated.valid.injEq, List.forall₂_nil_left_iff, eq_comm]
    constructor
    · rintro rfl
      exact ⟨rfl, .nil, by simp⟩
    · exact And.left
  | raw :: raws, index, seen, fields => by
    rw [checkFrom, List.forall₂_cons_left_iff]
    simp only [Validated.seq_eq_valid_iff, Validated.map_eq_valid_iff, distinctAt_eq_valid_iff]
    constructor
    · rintro ⟨_, ⟨f, ⟨hf, hfresh⟩, rfl⟩, fs, hfs, rfl⟩
      rw [hf, addSeen_of_fresh hfresh, checkFrom_eq_valid_iff] at hfs
      obtain ⟨hall, hdistinct, hseen⟩ := hfs
      simp only [lookup_seen_eq_none_iff] at hseen
      exact ⟨⟨f, fs, (relocates_check faultOf raw).eq_valid_iff.1 hf, hall, rfl⟩,
        List.pairwise_cons.2 ⟨fun g hg => (hseen g hg).1, hdistinct⟩,
        List.forall_mem_cons.2 ⟨hfresh, fun g hg => (hseen g hg).2⟩⟩
    · rintro ⟨⟨f, fs, hf, hall, rfl⟩, hdistinct, hseen⟩
      obtain ⟨hfirst, hdistinct⟩ := List.pairwise_cons.1 hdistinct
      obtain ⟨hfresh, hseen⟩ := List.forall_mem_cons.1 hseen
      have hf : check faultOf (base ++ [toString index]) raw = .valid f :=
        (relocates_check faultOf raw).eq_valid_iff.2 hf
      refine ⟨_, ⟨f, ⟨hf, hfresh⟩, rfl⟩, fs, ?_, rfl⟩
      rw [hf, addSeen_of_fresh hfresh, checkFrom_eq_valid_iff]
      exact ⟨hall, hdistinct, fun g hg => lookup_seen_eq_none_iff.2 ⟨hfirst g hg, hseen g hg⟩⟩

/-- A list of fields passes when each field does and no two have one name. -/
theorem checkAllAt_eq_valid_iff {raws : List Json} {fields : List Field} :
    checkAllAt faultOf base raws = .valid fields
      ↔ List.Forall₂ (fun raw f => check faultOf [] raw = .valid f) raws fields
        ∧ fields.Pairwise fun f g => f.name ≠ g.name := by
  rw [checkAllAt, checkFrom_eq_valid_iff]
  simp [lookup]

end Field

/-! ## Forms -/

/-- A form whose title and name are not blank, and whose fields are well-formed and have different
names. -/
structure Form.WellFormed (faultOf : String → Option String) (f : Form) : Prop where
  title : Text.trim f.title ≠ ""
  name : Text.trim f.name ≠ ""
  fields : ∀ field ∈ f.fields, field.WellFormed faultOf
  distinct : f.fields.Pairwise fun a b => a.name ≠ b.name

namespace Form

theorem fieldsOf_eq_valid_iff {fields : List Field} :
    fieldsOf faultOf members base = .valid fields
      ↔ ∃ raws, lookup "fields" members = some (.arr raws)
          ∧ List.Forall₂ (fun raw f => Field.check faultOf [] raw = .valid f) raws fields
          ∧ fields.Pairwise fun f g => f.name ≠ g.name := by
  simp only [fieldsOf, Validated.andThen_eq_valid_iff, Field.checkAllAt_eq_valid_iff,
    Members.array_eq_valid_iff]

/-- The checks of a form, each with what it gives. -/
theorem validate_eq_valid_iff {raw : Json} {f : Form} :
    validate faultOf raw = .valid f
      ↔ ∃ members : Members, raw = .obj members
          ∧ members.nonBlankText [] "title" = .valid f.title
          ∧ members.nonBlankText [] "name" = .valid f.name
          ∧ members.optionalText [] "customClassname" = .valid f.className
          ∧ members.literal [] "version" formVersion = .valid ()
          ∧ fieldsOf faultOf members [] = .valid f.fields
          ∧ templateOf members = .valid f.template := by
  simp only [validate, Validated.andThen_eq_valid_iff, Validated.seq_eq_valid_iff,
    Validated.map_eq_valid_iff, Members.ofJson_eq_valid_iff]
  constructor
  · rintro ⟨members, hraw, _, ⟨_, ⟨_, ⟨_, ⟨_, ⟨title, htitle, rfl⟩, name, hname, rfl⟩, className,
      hclass, rfl⟩, ⟨⟩, hversion, rfl⟩, fields, hfields, rfl⟩, template, htemplate, rfl⟩
    exact ⟨members, hraw, htitle, hname, hclass, hversion, hfields, htemplate⟩
  · rintro ⟨members, hraw, htitle, hname, hclass, hversion, hfields, htemplate⟩
    exact ⟨members, hraw, _, ⟨_, ⟨_, ⟨_, ⟨_, ⟨_, htitle, rfl⟩, _, hname, rfl⟩, _, hclass, rfl⟩,
      (), hversion, rfl⟩, _, hfields, rfl⟩, _, htemplate, rfl⟩

/-- Whatever passes the checks is well-formed. -/
theorem wellFormed_of_validate {raw : Json} {f : Form} (h : validate faultOf raw = .valid f) :
    f.WellFormed faultOf := by
  obtain ⟨members, -, htitle, hname, -, -, hfields, -⟩ := validate_eq_valid_iff.1 h
  obtain ⟨raws, -, hall, hdistinct⟩ := fieldsOf_eq_valid_iff.1 hfields
  exact ⟨(Members.nonBlankText_eq_valid_iff.1 htitle).2,
    (Members.nonBlankText_eq_valid_iff.1 hname).2,
    forall_of_forall₂ hall Field.wellFormed_of_check, hdistinct⟩

end Form

/-- The example form is well-formed, whatever patterns have a fault. -/
theorem exampleForm_wellFormed (faultOf : String → Option String) :
    exampleForm.WellFormed faultOf where
  title := by decide
  name := by decide
  distinct := by decide
  fields := by
    have hmeals : (SelectSource.fixed [⟨"pizza", some "Pizza"⟩, ⟨"pasta", some "Pasta"⟩,
        ⟨"salad", some "Salad"⟩]).WellFormed := by
      simp only [SelectSource.WellFormed, List.forall_mem_cons]
      exact ⟨⟨by decide, by decide⟩, ⟨by decide, by decide⟩, ⟨by decide, by decide⟩, by simp⟩
    simp only [exampleForm, Field.plain, List.forall_mem_cons]
    refine ⟨⟨by decide, trivial, by simp⟩, ⟨by decide, trivial, by simp⟩,
      ⟨by decide, trivial, by simp⟩, ⟨by decide, trivial, by simp⟩, ⟨by decide, by rintro _ ⟨⟩, ?_⟩,
      ⟨by decide, hmeals, by simp⟩, ⟨by decide, trivial, by simp⟩,
      ⟨by decide, ⟨⟨_, rfl⟩, _, rfl⟩, by simp⟩, ⟨by decide, trivial, by simp⟩,
      ⟨by decide, trivial, ?_⟩, by simp⟩
    · rintro _ ⟨⟩
      exact ⟨by decide, trivial⟩
    · rintro _ ⟨⟩
      exact ⟨by decide, _, rfl⟩

end NoteForms
