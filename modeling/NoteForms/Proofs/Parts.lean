import NoteForms.Proofs.Issues

/-!
# What is said of each member

The checks of an object look at its members one by one.  A check of a member looks at what is found
under its key and at nothing else, and speaks of that key only (`Members.Reads`).  So what is said
against an object is put together of parts, one for each key and in the order of the keys
(`PartByPart`), and a fault in one member neither hides what is wrong with another nor changes what
is said of it (`each_member_alone`).
-/

namespace NoteForms

open Validated

/-! ## Checks of one member -/

namespace Members

variable {α β : Type} {members others : Members} {key : String}

/-- A check that looks at one member, and speaks of nothing else. -/
structure Reads (key : String) (check : Members → Validated α) : Prop where
  congr {members others : Members} :
    lookup key members = lookup key others → check members = check others
  found : ∀ members, (check members).FoundUnder key

theorem present?_congr (h : lookup key members = lookup key others) :
    members.present? key = others.present? key := by rw [present?, present?, h]

theorem Reads.map {check : Members → Validated α} (h : Reads key check) (f : α → β) :
    Reads key fun members => f <$> check members where
  congr hkey := congrArg (f <$> ·) (h.congr hkey)
  found members := (h.found members).map f

theorem Reads.andThen {check : Members → Validated α} (h : Reads key check)
    {f : α → Validated β} (hf : ∀ a, (f a).FoundUnder key) :
    Reads key fun members => (check members).andThen f where
  congr hkey := congrArg (·.andThen f) (h.congr hkey)
  found members := (h.found members).andThen hf

theorem reads_text (key : String) : Reads key (text · [] key) where
  congr hkey := by rw [text, text, present?_congr hkey]
  found members := by
    unfold text
    split <;> simp

theorem reads_nonBlankText (key : String) : Reads key (nonBlankText · [] key) :=
  (reads_text key).andThen fun s => by split <;> simp

theorem reads_optionalText (key : String) : Reads key (optionalText · [] key) where
  congr hkey := by rw [optionalText, optionalText, present?_congr hkey]
  found members := foundUnder_optionalText members key

theorem reads_optionalFlag (key : String) : Reads key (optionalFlag · [] key) where
  congr hkey := by rw [optionalFlag, optionalFlag, present?_congr hkey]
  found members := by
    unfold optionalFlag
    split <;> simp

theorem reads_number (key : String) : Reads key (number · [] key) where
  congr hkey := by rw [number, number, present?_congr hkey]
  found members := by
    unfold number
    split <;> simp

theorem reads_array (key : String) : Reads key (array · [] key) where
  congr hkey := by rw [array, array, present?_congr hkey]
  found members := foundUnder_array members key

theorem reads_literal (key expected : String) : Reads key (literal · [] key expected) where
  congr hkey := by rw [literal, literal, present?_congr hkey]
  found members := by
    unfold literal
    split
    · split <;> simp
    · simp
    · simp

end Members

open Members

theorem Validated.Explained.exists_valid_iff {α : Type} {x : Validated α} (hx : x.Explained) :
    (∃ a, x = .valid a) ↔ x.issues = [] := by
  cases x with
  | valid a => exact iff_of_true ⟨a, rfl⟩ rfl
  | invalid issues => exact iff_of_false (by simp) (hx.ne_nil rfl)

namespace Field

variable (faultOf : String → Option String)

theorem reads_inputOf : Reads "input" (inputOf faultOf · []) where
  congr hkey := by rw [inputOf, inputOf, hkey]
  found members := by
    unfold inputOf
    split
    · simp
    · split
      · simp
      · -- What is said against an input alone is put under its key, whatever it is.
        rename_i e he
        obtain ⟨alone, -, rfl⟩ := Input.validateAt_eq_error_iff.1 he
        intro i hi
        rw [Validated.issues, InputError.issuesUnder_under] at hi
        obtain ⟨j, -, rfl⟩ := List.mem_map.1 hi
        exact ⟨j.path, rfl⟩

theorem reads_conditionOf : Reads "condition" (conditionOf · []) where
  congr hkey := by rw [conditionOf, conditionOf, present?_congr hkey]
  found members := by
    unfold conditionOf
    split
    · simp
    · exact ((Condition.relocates_validate _).foundUnder "condition").map _

end Field

namespace Form

variable (faultOf : String → Option String)

theorem reads_fieldsOf : Reads "fields" (fieldsOf faultOf · []) :=
  (reads_array "fields").andThen fun items =>
    (Field.relocates_checkAllAt faultOf items).foundUnder "fields"

theorem reads_templateOf : Reads "template" templateOf where
  congr hkey := by rw [templateOf, templateOf, present?_congr hkey]
  found members := foundUnder_templateOf members

end Form

/-! ## Parts -/

/-- What is said of one member: it depends on what is found under the key of the member, and is
found there. -/
structure Part where
  key : String
  said : Option Json → List Issue
  found : ∀ v, ∀ i ∈ said v, ∃ rest, i.path = key :: rest

namespace Part

variable {α : Type} {key : String} {check : Members → Validated α}

/-- The members of an object with one key at most. -/
def alone (key : String) (v : Option Json) : Members := v.toList.map (key, ·)

theorem lookup_alone (key : String) (v : Option Json) : lookup key (alone key v) = v := by
  cases v with
  | none => rfl
  | some v => exact if_pos rfl

/-- What a check of one member says. -/
def ofReads (h : Reads key check) : Part where
  key := key
  said v := (check (alone key v)).issues
  found v := h.found (alone key v)

/-- What is said of the member of an object. -/
def saidOf (p : Part) (members : Members) : List Issue := p.said (lookup p.key members)

@[simp]
theorem saidOf_ofReads (h : Reads key check) (members : Members) :
    (ofReads h).saidOf members = (check members).issues :=
  congrArg issues (h.congr (lookup_alone key _))

end Part

/-- Whether an issue is found outside a key. -/
def Issue.isOutside (key : String) (i : Issue) : Bool := i.path.head? != some key

namespace Part

variable {p : Part} {key : String} {members others : Members}

theorem isOutside_eq_false (p : Part) {i : Issue} (h : i ∈ p.saidOf members) :
    i.isOutside p.key = false := by
  obtain ⟨rest, hpath⟩ := p.found _ i h
  simp [Issue.isOutside, hpath]

/-- Of objects that are alike but for one member, the same is said outside its key. -/
theorem filter_saidOf_eq (h : ∀ other, other ≠ key → lookup other members = lookup other others)
    (p : Part) :
    (p.saidOf members).filter (Issue.isOutside key)
      = (p.saidOf others).filter (Issue.isOutside key) := by
  by_cases hkey : p.key = key
  · subst hkey
    have hnone : ∀ members : Members, (p.saidOf members).filter (Issue.isOutside p.key) = [] :=
      fun members => List.filter_eq_nil_iff.2 fun i hi => by simp [p.isOutside_eq_false hi]
    rw [hnone members, hnone others]
  · rw [saidOf, saidOf, h p.key hkey]

end Part

/-- Objects are checked part by part: what is said against one is what is said of its members, one
key after the other, and it is accepted exactly if there is nothing to say of any. -/
structure PartByPart (keys : List String) (accepts : Members → Prop)
    (said : Members → List Issue) (parts : List Part) : Prop where
  keys : parts.map (·.key) = keys
  said (members : Members) : said members = parts.flatMap (·.saidOf members)
  accepts (members : Members) : accepts members ↔ ∀ p ∈ parts, p.saidOf members = []

namespace PartByPart

variable {keys : List String} {accepts : Members → Prop} {said : Members → List Issue}
  {parts : List Part}

theorem filter_said_eq (h : PartByPart keys accepts said parts) {key : String}
    {members others : Members}
    (hothers : ∀ other, other ≠ key → lookup other members = lookup other others) :
    (said members).filter (Issue.isOutside key) = (said others).filter (Issue.isOutside key) := by
  rw [h.said members, h.said others, List.filter_flatMap, List.filter_flatMap]
  congr 1
  funext p
  exact p.filter_saidOf_eq hothers

/-- Every issue is found under one of the keys. -/
theorem exists_key (h : PartByPart keys accepts said parts) {members : Members} {i : Issue}
    (hi : i ∈ said members) : ∃ key ∈ keys, ∃ rest, i.path = key :: rest := by
  rw [h.said, List.mem_flatMap] at hi
  obtain ⟨p, hp, hi⟩ := hi
  exact ⟨p.key, h.keys ▸ List.mem_map_of_mem hp, p.found _ i hi⟩

theorem of_check {α : Type} {check : Members → Validated α} (hkeys : parts.map (·.key) = keys)
    (hexplained : ∀ members, (check members).Explained)
    (hsaid : ∀ members, (check members).issues = parts.flatMap (·.saidOf members)) :
    PartByPart keys (fun members => ∃ a, check members = .valid a)
      (fun members => (check members).issues) parts where
  keys := hkeys
  said := hsaid
  accepts members := by
    rw [← List.flatMap_eq_nil_iff, ← hsaid members]
    exact (hexplained members).exists_valid_iff

end PartByPart

/-! ## Fields and forms -/

namespace Field

variable (faultOf : String → Option String)

/-- What is said against a raw field. -/
def issuesOf (raw : Json) : List Issue :=
  match validate faultOf raw with
  | .ok _ => []
  | .error e => e.issues

theorem issuesOf_eq (raw : Json) : issuesOf faultOf raw = (check faultOf [] raw).issues := by
  unfold issuesOf validate
  cases check faultOf [] raw <;> rfl

variable {faultOf} in
theorem validate_eq_ok_iff {raw : Json} {f : Field} :
    validate faultOf raw = .ok f ↔ check faultOf [] raw = .valid f := by
  unfold validate
  cases check faultOf [] raw <;> simp

variable {faultOf} in
theorem check_of_validate_eq_error {raw : Json} {e : FieldError}
    (h : validate faultOf raw = .error e) : check faultOf [] raw = .invalid e.issues := by
  unfold validate at h
  split at h
  · cases h
  · rename_i issues hissues
    cases h
    exact hissues

/-- The parts of a field. -/
def memberParts : List Part :=
  [.ofReads (reads_nonBlankText "name"), .ofReads (reads_optionalText "label"),
    .ofReads ((reads_optionalText "description").map (·.getD "")),
    .ofReads (reads_optionalFlag "isRequired"), .ofReads (reads_inputOf faultOf),
    .ofReads reads_conditionOf]

theorem partByPart :
    PartByPart ["name", "label", "description", "isRequired", "input", "condition"]
      (fun members => ∃ f, validate faultOf (.obj members) = .ok f)
      (fun members => issuesOf faultOf (.obj members)) (memberParts faultOf) := by
  simp only [validate_eq_ok_iff, issuesOf_eq]
  refine .of_check rfl (fun members => explained_check faultOf [] _) fun members => ?_
  simp only [check, Members.ofJson, Validated.andThen, issues_seq, issues_map, descriptionOf,
    memberParts, List.flatMap_cons, List.flatMap_nil, Part.saidOf_ofReads, List.append_assoc,
    List.append_nil]

end Field

namespace Form

variable (faultOf : String → Option String)

/-- The parts of a form. -/
def memberParts : List Part :=
  [.ofReads (reads_nonBlankText "title"), .ofReads (reads_nonBlankText "name"),
    .ofReads (reads_optionalText "customClassname"), .ofReads (reads_literal "version" formVersion),
    .ofReads (reads_fieldsOf faultOf), .ofReads reads_templateOf]

theorem partByPart :
    PartByPart ["title", "name", "customClassname", "version", "fields", "template"]
      (fun members => ∃ f, validate faultOf (.obj members) = .valid f)
      (fun members => (validate faultOf (.obj members)).issues) (memberParts faultOf) := by
  refine .of_check rfl (fun members => explained_validate faultOf _) fun members => ?_
  simp only [issues_validate_obj, memberParts, List.flatMap_cons, List.flatMap_nil,
    Part.saidOf_ofReads, List.append_assoc, List.append_nil]

end Form

/-- What is said against a field or a form is said of its members, each looked at alone, and stands
in the order of the keys.  It is accepted exactly if there is nothing to say of any, and of two that
are alike but for one member the same is said outside the key of that one. -/
theorem each_member_alone (faultOf : String → Option String) :
    (PartByPart ["name", "label", "description", "isRequired", "input", "condition"]
          (fun members => ∃ f, Field.validate faultOf (.obj members) = .ok f)
          (fun members => Field.issuesOf faultOf (.obj members)) (Field.memberParts faultOf)
        ∧ ∀ (key : String) (members others : Members),
          (∀ other, other ≠ key → lookup other members = lookup other others) →
            (Field.issuesOf faultOf (.obj members)).filter (Issue.isOutside key)
              = (Field.issuesOf faultOf (.obj others)).filter (Issue.isOutside key))
      ∧ PartByPart ["title", "name", "customClassname", "version", "fields", "template"]
          (fun members => ∃ f, Form.validate faultOf (.obj members) = .valid f)
          (fun members => (Form.validate faultOf (.obj members)).issues) (Form.memberParts faultOf)
        ∧ ∀ (key : String) (members others : Members),
          (∀ other, other ≠ key → lookup other members = lookup other others) →
            (Form.validate faultOf (.obj members)).issues.filter (Issue.isOutside key)
              = (Form.validate faultOf (.obj others)).issues.filter (Issue.isOutside key) :=
  ⟨⟨Field.partByPart faultOf, fun _ _ _ h => (Field.partByPart faultOf).filter_said_eq h⟩,
    Form.partByPart faultOf, fun _ _ _ h => (Form.partByPart faultOf).filter_said_eq h⟩

/-- A name, the bounds of a slider and the dependency of a condition are missed of a field, whether
its label is a text or not; and the same of the first field of a form, whose title is missed whether
its fields are readable or not. -/
theorem each_member_alone_label :
    let rest : Members := [("condition", .obj [("type", .str "isSet")]),
      ("input", .obj [("type", .str "slider")]), ("name", .str " ")]
    let members : Members := ("label", .bool true) :: rest
    let others : Members := ("label", .str "Tea") :: rest
    let form : Members := [("fields", .arr [.obj others]), ("name", .str "tea"),
      ("version", .str formVersion)]
    let empty : Members := [("fields", .arr []), ("name", .str "tea"),
      ("version", .str formVersion)]
    let issuesOf := fun members : Members => Field.issuesOf (fun _ => none) (.obj members)
    let said : List Issue := [⟨["name"], "must not be empty", none⟩,
      ⟨["input", "min"], "is required", none⟩, ⟨["input", "max"], "is required", none⟩,
      ⟨["condition", "dependencyName"], "is required", none⟩]
    (∀ other, other ≠ "label" → lookup other members = lookup other others)
      ∧ (issuesOf members).filter (Issue.isOutside "label")
        = (issuesOf others).filter (Issue.isOutside "label")
      ∧ (issuesOf members).filter (Issue.isOutside "label") = said ∧ issuesOf others = said
      ∧ (issuesOf members)[1]? = some ⟨["label"], "expected a string, received boolean", none⟩
      ∧ (∀ other, other ≠ "fields" → lookup other form = lookup other empty)
      ∧ (Form.validate (fun _ => none) (.obj form)).issues
        = ⟨["title"], "is required", none⟩
          :: said.map (fun i => ⟨"fields" :: "0" :: i.path, i.message, some 0⟩)
      ∧ (Form.validate (fun _ => none) (.obj form)).issues.filter (Issue.isOutside "fields")
        = [⟨["title"], "is required", none⟩] := by
  intro rest members others form empty issuesOf said
  have hlabel : ∀ other, other ≠ "label" → lookup other members = lookup other others := by
    intro other hother
    rw [lookup_cons_ne (Ne.symm hother), lookup_cons_ne (Ne.symm hother)]
  have hfields : ∀ other, other ≠ "fields" → lookup other form = lookup other empty := by
    intro other hother
    rw [lookup_cons_ne (Ne.symm hother), lookup_cons_ne (Ne.symm hother)]
  obtain ⟨⟨-, hfield⟩, -, hform⟩ := each_member_alone fun _ => none
  have hsame := hfield "label" members others hlabel
  have hothers : (issuesOf others).filter (Issue.isOutside "label") = said := by rfl
  exact ⟨hlabel, hsame, hsame.trans hothers, rfl, rfl, hfields, rfl,
    hform "fields" form empty hfields⟩

end NoteForms
