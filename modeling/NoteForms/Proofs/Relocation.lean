import NoteForms.Form.Validation

/-!
# Checks made elsewhere

A check is told the path that leads to the value it looks at, and the path decides nothing but where
the issues are found.  So a check that is made further down finds what it finds without the way to
there, with that way put in front (`Validated.Relocates`).  What is put together of such checks is
such a check, and so all of them are, from the members of an object (`Members.relocates_text`) and
the shapes of a choice (`Input.relocates_firstMatch`) to the fields of a form
(`Form.relocates_fieldsOf`).
-/

namespace NoteForms

/-! ## Putting issues under a path -/

/-- The issue as an issue of what holds its value under `base`. -/
def Issue.under (base : KeyPath) (i : Issue) : Issue := { i with path := base ++ i.path }

namespace Validated

variable {α β : Type}

/-- The same outcome with every issue put under `base`. -/
def under (base : KeyPath) (x : Validated α) : Validated α := x.mapIssues (Issue.under base)

section Under

variable (base : KeyPath)

@[simp]
theorem under_valid (a : α) : (valid a).under base = .valid a := rfl

@[simp]
theorem under_invalid (issues : List Issue) :
    (invalid issues : Validated α).under base = .invalid (issues.map (Issue.under base)) := rfl

theorem issues_mapIssues (change : Issue → Issue) (x : Validated α) :
    (x.mapIssues change).issues = x.issues.map change := by
  cases x <;> rfl

theorem under_eq_valid_iff {x : Validated α} {a : α} : x.under base = .valid a ↔ x = .valid a := by
  cases x <;> simp

theorem under_map (f : α → β) (x : Validated α) : (f <$> x).under base = f <$> x.under base := by
  cases x <;> rfl

theorem under_seq (f : Validated (α → β)) (x : Validated α) :
    (f <*> x).under base = f.under base <*> x.under base := by
  cases f <;> cases x <;> simp [Seq.seq, ap]

theorem under_andThen (x : Validated α) (f : α → Validated β) :
    (x.andThen f).under base = (x.under base).andThen fun a => (f a).under base := by
  cases x <;> rfl

end Under

/-! ## Relocation -/

/-- A check whose issues, when it is made further down, are those that it finds without the way to
there, with that way put in front. -/
def Relocates (check : KeyPath → Validated α) : Prop :=
  ∀ base path, check (base ++ path) = (check path).under base

section Relocates

variable {check : KeyPath → Validated α}

theorem Relocates.eq_under (h : Relocates check) (base : KeyPath) :
    check base = (check []).under base := by
  simpa using h base []

/-- Where a check is made does not matter for what passes. -/
theorem Relocates.eq_valid_iff (h : Relocates check) {base : KeyPath} {a : α} :
    check base = .valid a ↔ check [] = .valid a := by
  rw [h.eq_under, under_eq_valid_iff]

theorem relocates_valid (a : α) : Relocates fun _ => valid a := fun _ _ => rfl

theorem relocates_issue (message : String) :
    Relocates fun base => (issue base message : Validated α) := fun _ _ => rfl

/-- A part is looked at further down than the value that has it. -/
theorem Relocates.below (h : Relocates check) (key : String) :
    Relocates fun base => check (base ++ [key]) := by
  intro base path
  simpa only [List.append_assoc] using h base (path ++ [key])

theorem relocates_issueAt (key message : String) :
    Relocates fun base => (issueAt base key message : Validated α) :=
  (relocates_issue message).below key

theorem Relocates.map (h : Relocates check) (f : α → β) :
    Relocates fun base => f <$> check base := by
  intro base path
  simp only [h base path, under_map]

theorem Relocates.seq {f : KeyPath → Validated (α → β)} (hf : Relocates f) (h : Relocates check) :
    Relocates fun base => f base <*> check base := by
  intro base path
  simp only [hf base path, h base path, under_seq]

theorem Relocates.andThen (h : Relocates check) {f : KeyPath → α → Validated β}
    (hf : ∀ a, Relocates (f · a)) : Relocates fun base => (check base).andThen (f base) := by
  intro base path
  have hrest : f (base ++ path) = fun a => (f path a).under base := funext fun a => hf a base path
  simp only [h base path, under_andThen, hrest]

theorem Relocates.mapIssues (h : Relocates check) {change : Issue → Issue}
    (hchange : ∀ base i, change (i.under base) = (change i).under base) :
    Relocates fun base => (check base).mapIssues change := by
  intro base path
  simp only [h base path]
  cases check path with
  | valid a => rfl
  | invalid issues => simp [Validated.mapIssues, hchange]

theorem relocates_items {check : KeyPath → α → Validated β} (h : ∀ a, Relocates (check · a)) :
    ∀ (i : Nat) (as : List α), Relocates fun base => items check base i as
  | _, [] => relocates_valid []
  | i, a :: as => (((h a).below (toString i)).map _).seq (relocates_items h (i + 1) as)

end Relocates

end Validated

open Validated

/-! ## Members -/

namespace Members

variable (members : Members) (key : String)

theorem relocates_ofJson (raw : Json) : Relocates fun base => ofJson base raw := by
  cases raw with
  | obj members => exact relocates_valid members
  | _ => exact relocates_issue _

/-- What is looked at first does not depend on the path, so each outcome is looked at by itself. -/
theorem relocates_text : Relocates fun base => members.text base key := by
  unfold text
  rcases members.present? key with _ | v
  · exact relocates_issueAt _ _
  · cases v with
    | str s => exact relocates_valid s
    | _ => exact relocates_issueAt _ _

theorem relocates_nonBlankText : Relocates fun base => members.nonBlankText base key := by
  refine (relocates_text members key).andThen fun s => ?_
  cases Text.isBlankText s with
  | true => exact relocates_issueAt _ _
  | false => exact relocates_valid s

theorem relocates_optionalText : Relocates fun base => members.optionalText base key := by
  unfold optionalText
  rcases members.present? key with _ | v
  · exact relocates_valid none
  · cases v with
    | str s => exact relocates_valid _
    | _ => exact relocates_issueAt _ _

theorem relocates_optionalFlag : Relocates fun base => members.optionalFlag base key := by
  unfold optionalFlag
  rcases members.present? key with _ | v
  · exact relocates_valid none
  · cases v with
    | bool b => exact relocates_valid _
    | _ => exact relocates_issueAt _ _

theorem relocates_flag : Relocates fun base => members.flag base key := by
  unfold flag
  rcases members.present? key with _ | v
  · exact relocates_issueAt _ _
  · cases v with
    | bool b => exact relocates_valid _
    | _ => exact relocates_issueAt _ _

theorem relocates_number : Relocates fun base => members.number base key := by
  unfold number
  rcases members.present? key with _ | v
  · exact relocates_issueAt _ _
  · cases v with
    | num n => exact relocates_valid _
    | _ => exact relocates_issueAt _ _

theorem relocates_array : Relocates fun base => members.array base key := by
  unfold array
  rcases members.present? key with _ | v
  · exact relocates_issueAt _ _
  · cases v with
    | arr items => exact relocates_valid _
    | _ => exact relocates_issueAt _ _

theorem relocates_literal (expected : String) :
    Relocates fun base => members.literal base key expected := by
  unfold literal
  rcases members.present? key with _ | v
  · exact relocates_issueAt _ _
  · cases v with
    | str s =>
      by_cases hs : s = expected
      · simpa only [hs, if_true] using relocates_valid ()
      · simpa only [hs, if_false] using relocates_issueAt _ _
    | _ => exact relocates_issueAt _ _

end Members

open Members

/-! ## Inputs -/

namespace Input

variable (faultOf : String → Option String) (members : Members)

theorem relocates_optionValue : Relocates fun base => optionValue members base := by
  unfold optionValue
  rcases lookup "value" members with _ | v
  · exact relocates_issueAt _ _
  · dsimp only
    rcases optionText? v with _ | s
    · exact relocates_issueAt _ _
    · dsimp only
      cases s.isEmpty with
      | true => exact relocates_issueAt _ _
      | false => exact relocates_valid s

theorem relocates_selectOption (v : Json) : Relocates fun base => selectOption base v :=
  (relocates_ofJson v).andThen fun members =>
    ((relocates_optionValue members).map _).seq (relocates_optionalText members "label")

theorem relocates_selectOptions : Relocates fun base => selectOptions members base :=
  (relocates_array members "options").andThen fun items =>
    (relocates_items relocates_selectOption 0 items).below "options"

theorem relocates_listedText (v : Json) : Relocates fun base => listedText base v := by
  cases v with
  | str s => exact relocates_valid s
  | _ => exact relocates_issue _

theorem relocates_textList (key : String) : Relocates fun base => textList members base key :=
  (relocates_array members key).andThen fun items =>
    (relocates_items relocates_listedText 0 items).below key

theorem relocates_pattern : Relocates fun base => pattern faultOf members base := by
  refine (relocates_optionalText members "exclude").andThen fun exclude => ?_
  rcases exclude.bind faultOf with _ | fault
  · exact relocates_valid exclude
  · exact relocates_issueAt _ _

/-! ### Shapes -/

theorem relocates_attempt {α : Type} {s : Shape α} (h : Relocates (s.payload members)) :
    Relocates (s.attempt members) :=
  ((relocates_literal members "source" s.source).map _).seq h

/-- What is to be reported, with its issues put under `base`. -/
def Reported.under (base : KeyPath) (r : Reported) : Reported :=
  { r with issues := r.issues.map (Issue.under base) }

/-- Whether issues are kept or replaced does not depend on where they are found. -/
theorem Reported.next_under (source : String) (base : KeyPath) (issues : List Issue)
    (reported : Option Reported) :
    Reported.next members source (issues.map (Issue.under base))
        (reported.map (Reported.under base))
      = (Reported.next members source issues reported).under base := by
  cases reported with
  | none => rfl
  | some r =>
    simp only [Option.map_some, Reported.next, Reported.under]
    split <;> rfl

theorem tryInTurn_append {α : Type} (base path : KeyPath) :
    ∀ {shapes : List (Shape α)}, (∀ s ∈ shapes, Relocates (s.payload members)) →
      ∀ reported : Option Reported,
        tryInTurn members (base ++ path) (reported.map (Reported.under base)) shapes
          = (tryInTurn members path reported shapes).under base
  | [], _, reported => by cases reported <;> rfl
  | s :: shapes, h, reported => by
    obtain ⟨hs, hshapes⟩ := List.forall_mem_cons.1 h
    rw [tryInTurn, tryInTurn, relocates_attempt members hs]
    cases s.attempt members path with
    | valid a => rfl
    | invalid issues =>
      simp only [under_invalid, Reported.next_under]
      exact tryInTurn_append base path hshapes (some _)

theorem relocates_firstMatch {α : Type} {shapes : List (Shape α)}
    (h : ∀ s ∈ shapes, Relocates (s.payload members)) :
    Relocates fun base => firstMatch members base shapes :=
  fun base path => tryInTurn_append members base path h none

theorem relocates_allowUnknown : Relocates fun base => allowUnknown members base :=
  (relocates_optionalFlag members _).map _

theorem relocates_selectShapes : ∀ s ∈ selectShapes, Relocates (s.payload members) := by
  simp only [selectShapes, List.forall_mem_cons]
  exact ⟨(relocates_nonBlankText members "folder").map _, (relocates_selectOptions members).map _,
    by simp⟩

theorem relocates_multiselectShapes : ∀ s ∈ multiselectShapes, Relocates (s.payload members) := by
  simp only [multiselectShapes, List.forall_mem_cons]
  exact ⟨(relocates_nonBlankText members "folder").map _,
    ((relocates_textList members _).map _).seq (relocates_allowUnknown members),
    ((relocates_nonBlankText members "query").map _).seq (relocates_allowUnknown members), by simp⟩

/-! ### Payloads and types -/

theorem relocates_payload (kind : InputKind) :
    Relocates fun base => payload faultOf members base kind := by
  cases kind with
  | basic kind => exact (relocates_optionalFlag members _).map _
  | tag => exact (relocates_pattern faultOf members).map _
  | slider => exact ((relocates_number members _).map _).seq (relocates_number members _)
  | note => exact (relocates_nonBlankText members _).map _
  | folder => exact relocates_valid _
  | dataview => exact (relocates_nonBlankText members _).map _
  | select => exact (relocates_firstMatch members (relocates_selectShapes members)).map _
  | multiselect => exact (relocates_firstMatch members (relocates_multiselectShapes members)).map _
  | documentBlock => exact (relocates_text members _).map _

theorem relocates_typeName : Relocates fun base => typeName members base := by
  unfold typeName
  rcases lookup "type" members with _ | v
  · exact relocates_issueAt _ _
  · cases v with
    | str name => exact relocates_valid name
    | _ => exact relocates_issueAt _ _

end Input

/-- The error with the issues that it was made with put under `base`; an unknown type was made
without any. -/
def InputError.under (base : KeyPath) : InputError → InputError
  | .structure issues => .structure (issues.map (Issue.under base))
  | .unknownType name => .unknownType name
  | .payload kind issues => .payload kind (issues.map (Issue.under base))

/-- Flattened where the input is looked at, an error gives the issues of the input put there. -/
theorem InputError.issuesUnder_append (base path : KeyPath) (e : InputError) :
    (e.under base).issuesUnder (base ++ path) = (e.issuesUnder path).map (Issue.under base) := by
  cases e with
  | unknownType name => simp [InputError.under, issuesUnder, Issue.under]
  | _ => rfl

theorem InputError.issuesUnder_under (base : KeyPath) (e : InputError) :
    (e.under base).issuesUnder base = (e.issuesUnder []).map (Issue.under base) := by
  simpa using issuesUnder_append base [] e

/-- An input that is looked at further down is refused with the same error, put under the way to
there. -/
theorem Input.validateAt_append (faultOf : String → Option String) (raw : Json)
    (base path : KeyPath) :
    validateAt faultOf (base ++ path) raw
      = (validateAt faultOf path raw).mapError (InputError.under base) := by
  have hraw : ofJson (base ++ path) raw = (ofJson path raw).under base :=
    relocates_ofJson raw base path
  rw [validateAt, validateAt, hraw]
  cases ofJson path raw with
  | invalid issues => rfl
  | valid members =>
    have hname : typeName members (base ++ path) = (typeName members path).under base :=
      relocates_typeName members base path
    simp only [under_valid, hname]
    cases typeName members path with
    | invalid issues => rfl
    | valid name =>
      simp only [under_valid]
      cases InputKind.ofName? name with
      | none => rfl
      | some kind =>
        have hpayload : payload faultOf members (base ++ path) kind
            = (payload faultOf members path kind).under base :=
          relocates_payload faultOf members kind base path
        simp only [hpayload]
        cases payload faultOf members path kind <;> rfl

namespace Input

variable {faultOf : String → Option String} {raw : Json} {base : KeyPath}

theorem validateAt_eq_mapError :
    validateAt faultOf base raw = (validate faultOf raw).mapError (InputError.under base) := by
  rw [validate, ← validateAt_append, List.append_nil]

theorem validateAt_eq_ok_iff {i : Input} :
    validateAt faultOf base raw = .ok i ↔ validate faultOf raw = .ok i := by
  rw [validateAt_eq_mapError]
  cases validate faultOf raw with
  | ok found => exact .rfl
  | error alone => exact iff_of_false nofun nofun

theorem validateAt_eq_error_iff {e : InputError} :
    validateAt faultOf base raw = .error e
      ↔ ∃ alone, validate faultOf raw = .error alone ∧ alone.under base = e := by
  rw [validateAt_eq_mapError]
  cases validate faultOf raw with
  | ok found => exact iff_of_false nofun fun ⟨_, h, _⟩ => nomatch h
  | error alone =>
    show Except.error (alone.under base) = .error e ↔ _
    simp

end Input

/-! ## Fields -/

namespace Condition

variable (members : Members)

theorem relocates_testKind : Relocates fun base => testKind members base := by
  refine (relocates_text members "type").andThen fun name => ?_
  rcases TestKind.ofName? name with _ | kind
  · exact relocates_issueAt _ _
  · exact relocates_valid kind

theorem relocates_expectedFlag : Relocates fun base => expectedFlag members base := by
  unfold expectedFlag
  rcases lookup "value" members with _ | v
  · exact relocates_issueAt _ _
  · cases v with
    | bool b => exact relocates_valid b
    | _ => exact relocates_issueAt _ _

theorem relocates_testOf (kind : TestKind) : Relocates fun base => testOf members base kind := by
  cases kind with
  | isSet => exact relocates_valid _
  | startsWith => exact (relocates_text members _).map _
  | contains => exact (relocates_text members _).map _
  | above => exact (relocates_number members _).map _
  | below => exact (relocates_number members _).map _
  | boolean => exact (relocates_expectedFlag members).map _

theorem relocates_validate (raw : Json) : Relocates fun base => validate base raw :=
  (relocates_ofJson raw).andThen fun members =>
    ((relocates_nonBlankText members _).map _).seq
      ((relocates_testKind members).andThen (relocates_testOf members))

end Condition

namespace Field

variable (faultOf : String → Option String)

theorem relocates_inputOf (members : Members) :
    Relocates fun base => inputOf faultOf members base := by
  unfold inputOf
  rcases lookup "input" members with _ | v
  · exact relocates_issueAt _ _
  · intro base path
    have hinput := Input.validateAt_append faultOf v base (path ++ ["input"])
    simp only [List.append_assoc, hinput]
    cases Input.validateAt faultOf (path ++ ["input"]) v with
    | ok i => rfl
    | error e => exact congrArg invalid (e.issuesUnder_append base (path ++ ["input"]))

theorem relocates_conditionOf (members : Members) :
    Relocates fun base => conditionOf members base := by
  unfold conditionOf
  rcases members.present? "condition" with _ | v
  · exact relocates_valid none
  · exact ((Condition.relocates_validate v).below "condition").map _

theorem relocates_check (raw : Json) : Relocates fun base => check faultOf base raw :=
  (relocates_ofJson raw).andThen fun members =>
    ((((((relocates_nonBlankText members "name").map _).seq
      (relocates_optionalText members "label")).seq
      ((relocates_optionalText members "description").map _)).seq
      (relocates_optionalFlag members "isRequired")).seq
      (relocates_inputOf faultOf members)).seq (relocates_conditionOf members)

/-! ### Lists of fields -/

theorem relocates_distinctAt (index : Nat) (seen : List (String × Nat))
    {found : KeyPath → Validated Field} (h : Relocates found) :
    Relocates fun base => distinctAt base index seen (found base) := by
  refine Relocates.mapIssues (h.andThen fun field => ?_) fun _ _ => rfl
  rcases lookup field.name seen with _ | first
  · exact relocates_valid field
  · exact relocates_issueAt _ _

theorem addSeen_under (index : Nat) (seen : List (String × Nat)) (base : KeyPath)
    (found : Validated Field) :
    addSeen index seen (found.under base) = addSeen index seen found := by
  cases found <;> rfl

theorem relocates_checkFrom : ∀ (index : Nat) (seen : List (String × Nat)) (raws : List Json),
    Relocates fun base => checkFrom faultOf base index seen raws
  | _, _, [] => relocates_valid []
  | index, seen, raw :: raws => by
    intro base path
    -- The fields behind the first one are checked with names that do not depend on the path.
    have hfound := (relocates_check faultOf raw).below (toString index)
    have hfirst := (relocates_distinctAt index seen (relocates_check faultOf raw)).below
      (toString index) base path
    have hrest := relocates_checkFrom (index + 1)
      (addSeen index seen (check faultOf (path ++ [toString index]) raw)) raws base path
    simp only [checkFrom, under_seq, under_map, hfound base path, addSeen_under] at hfirst hrest ⊢
    rw [← hfirst, ← hrest]

theorem relocates_checkAllAt (raws : List Json) :
    Relocates fun base => checkAllAt faultOf base raws :=
  relocates_checkFrom faultOf 0 [] raws

end Field

/-! ## Forms -/

namespace NoteTemplate

theorem relocates_segmentsOf (members : Members) :
    Relocates fun base => segmentsOf members base := by
  unfold segmentsOf
  rcases lookup "parsedTemplate" members with _ | v
  · exact relocates_issueAt _ _
  · dsimp only
    cases Template.decode v with
    | ok t => exact relocates_valid t
    | error e => exact relocates_issueAt _ _

theorem relocates_validateAt (raw : Json) : Relocates fun base => validateAt base raw :=
  (relocates_ofJson raw).andThen fun members =>
    ((relocates_flag members "createCommand").map _).seq (relocates_segmentsOf members)

end NoteTemplate

theorem Form.relocates_fieldsOf (faultOf : String → Option String) (members : Members) :
    Relocates fun base => fieldsOf faultOf members base :=
  (relocates_array members "fields").andThen fun items =>
    (Field.relocates_checkAllAt faultOf items).below "fields"

end NoteForms
