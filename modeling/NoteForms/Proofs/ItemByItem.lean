import NoteForms.Proofs.Parts
import NoteForms.Proofs.WellFormed

/-!
# Lists of fields, item by item

The fields of a list are checked one by one, and all that one leaves for those behind it is its
name: the names seen before an item are those of the fields before it that pass alone, each at the
first of its indices (`Field.Recalls`).  An item is checked at its index, where the same is said of
it as alone (`Field.relocates_check`).  So it is refused for what is said of it alone, put under its
index, or else for a name that an earlier field has (`Field.saidAt`), and the issues of a list are
those of its items one after the other, wherever the list is found (`Field.checkAll_item_by_item`).
-/

namespace NoteForms

open Validated

/-! ## Shown paths -/

namespace KeyPath

/-- Only the root is shown by no words, and a single key without any. -/
theorem text_eq_empty_iff {path : KeyPath} : path.text = "" ↔ path = [] ∨ path = [""] := by
  match path with
  | [] => simp [KeyPath.text]
  | [key] => simp [KeyPath.text]
  | key :: next :: rest => simp [KeyPath.text, String.intercalate_cons_cons]

/-- A key in front of a path is all that is shown of it, or is followed by a point and the path. -/
theorem text_cons_eq_ite (key : String) {path : KeyPath} (hpath : path ≠ [""]) :
    KeyPath.text (key :: path) = if path.text = "" then key else key ++ "." ++ path.text := by
  by_cases hroot : path = []
  · subst hroot
    simp [KeyPath.text]
  · have hshown : path.text ≠ "" := fun h => (text_eq_empty_iff.1 h).elim hroot hpath
    rw [if_neg hshown]
    exact String.intercalate_cons_of_ne_nil hroot

end KeyPath

namespace Field

variable {faultOf : String → Option String}

/-! ## One item -/

/-- Whether a raw field passes alone and has a name. -/
def passesAs (faultOf : String → Option String) (name : String) (raw : Json) : Bool :=
  match validate faultOf raw with
  | .ok f => f.name == name
  | .error _ => false

/-- What is said of the field at an index of a list: what is said of it alone, found under the
index; or, if it passes alone, that a field before it has its name. -/
def saidAt (faultOf : String → Option String) (base : KeyPath) (raws : List Json) (index : Nat) :
    List Issue :=
  match raws[index]? with
  | none => []
  | some raw =>
    match validate faultOf raw with
    | .error e => e.issues.map fun i => ⟨base ++ toString index :: i.path, i.message, some index⟩
    | .ok f =>
      match (raws.take index).findIdx? (passesAs faultOf f.name) with
      | some first =>
        [⟨base ++ [toString index, "name"], duplicateMessage f.name first, some index⟩]
      | none => []

theorem validate_of_check_eq_invalid {raw : Json} {issues : List Issue}
    (h : check faultOf [] raw = .invalid issues) :
    validate faultOf raw = .error ⟨readableName? raw, issues⟩ := by rw [validate, h]

/-- The names seen are those of the fields that pass alone, each at its first index. -/
def Recalls (faultOf : String → Option String) (before : List Json) (seen : List (String × Nat)) :
    Prop :=
  ∀ name, lookup name seen = before.findIdx? (passesAs faultOf name)

theorem recalls_nil : Recalls faultOf [] [] := fun _ => rfl

theorem Recalls.addSeen {before : List Json} {seen : List (String × Nat)}
    (h : Recalls faultOf before seen) (path : KeyPath) (raw : Json) :
    Recalls faultOf (before ++ [raw]) (addSeen before.length seen (check faultOf path raw)) := by
  intro name
  rw [List.findIdx?_append, ← h name, (relocates_check faultOf raw).eq_under path, addSeen_under,
    List.findIdx?_singleton]
  cases hcheck : check faultOf [] raw with
  | invalid issues => simp [Field.addSeen, passesAs, validate_of_check_eq_invalid hcheck]
  | valid f =>
    have hpasses : passesAs faultOf name raw = (f.name == name) := by
      simp [passesAs, validate_eq_ok_iff.2 hcheck]
    rw [hpasses, Field.addSeen]
    by_cases hname : f.name = name
    · subst hname
      cases hseen : lookup f.name seen with
      | none => simp [lookup]
      | some first => simp [hseen]
    · cases hseen : lookup f.name seen with
      | none => simp [lookup, hname]
      | some first => simp [hname]

theorem issues_distinctAt {before : List Json} {seen : List (String × Nat)}
    (h : Recalls faultOf before seen) (base : KeyPath) (raw : Json) (after : List Json) :
    (distinctAt (base ++ [toString before.length]) before.length seen
        (check faultOf (base ++ [toString before.length]) raw)).issues
      = saidAt faultOf base (before ++ raw :: after) before.length := by
  have hitem : (before ++ raw :: after)[before.length]? = some raw := by simp
  rw [saidAt, hitem, List.take_left, distinctAt, (relocates_check faultOf raw).eq_under]
  cases hcheck : check faultOf [] raw with
  | invalid issues =>
    simp [validate_of_check_eq_invalid hcheck, Validated.andThen, mapIssues, Validated.issues,
      Issue.under, Issue.atIndex]
  | valid f =>
    simp only [validate_eq_ok_iff.2 hcheck, under_valid, Validated.andThen, h f.name]
    cases before.findIdx? (passesAs faultOf f.name) with
    | none => rfl
    | some first => simp [issueAt, issue, mapIssues, Validated.issues, Issue.atIndex]

/-! ## The list -/

/-- What is said of the rest of a list is said of its items one after the other. -/
theorem issues_checkFrom (base : KeyPath) :
    ∀ (raws : List Json) {before : List Json} {seen : List (String × Nat)},
      Recalls faultOf before seen →
        (checkFrom faultOf base before.length seen raws).issues
          = (List.range' before.length raws.length).flatMap (saidAt faultOf base (before ++ raws))
  | [], _, _, _ => rfl
  | raw :: raws, before, seen, h => by
    -- The item moves from the rest to what is before it, and leaves its name among those seen.
    have hrest := issues_checkFrom base raws (h.addSeen (base ++ [toString before.length]) raw)
    rw [List.length_append, List.length_singleton, List.append_assoc] at hrest
    rw [checkFrom, issues_seq, issues_map, issues_distinctAt h base raw raws, hrest,
      List.length_cons, List.range'_succ, List.flatMap_cons]
    rfl

theorem issues_checkAllAt (faultOf : String → Option String) (base : KeyPath) (raws : List Json) :
    (checkAllAt faultOf base raws).issues
      = (List.range raws.length).flatMap (saidAt faultOf base raws) := by
  rw [List.range_eq_range']
  exact issues_checkFrom base raws recalls_nil

theorem validate_fields_iff {base : KeyPath} {raws : List Json} {fields : List Field} :
    checkAllAt faultOf base raws = .valid fields
      ↔ List.Forall₂ (fun raw f => validate faultOf raw = .ok f) raws fields
        ∧ (fields.map (·.name)).Nodup := by
  simp only [checkAllAt_eq_valid_iff, validate_eq_ok_iff, List.Nodup, List.pairwise_map]

/-! ## Places of issues -/

/-- What is said against a field is that it is no object, or is found under one of its keys. -/
theorem path_ne_of_validate {raw : Json} {e : FieldError} (h : validate faultOf raw = .error e)
    {i : Issue} (hi : i ∈ e.issues) : i.path ≠ [""] := by
  have hmem : i ∈ issuesOf faultOf raw := by
    rw [issuesOf, h]
    exact hi
  cases raw with
  | obj members =>
    obtain ⟨key, hkey, rest, hpath⟩ := (partByPart faultOf).exists_key hmem
    intro hblank
    rw [hpath, List.cons.injEq] at hblank
    exact absurd (hblank.1 ▸ hkey) (by decide)
  | _ =>
    obtain rfl := List.mem_singleton.1 (issuesOf_eq faultOf _ ▸ hmem)
    exact (List.cons_ne_nil _ _).symm

theorem exists_path_of_saidAt {raws : List Json} {index : Nat} {i : Issue}
    (h : i ∈ saidAt faultOf [] raws index) : ∃ rest, i.path = toString index :: rest := by
  unfold saidAt at h
  split at h
  · cases h
  · split at h
    · obtain ⟨j, -, rfl⟩ := List.mem_map.1 h
      exact ⟨_, rfl⟩
    · split at h
      · obtain rfl := List.mem_singleton.1 h
        exact ⟨_, rfl⟩
      · cases h

/-- Whatever is said against a list is said of one of its items. -/
theorem exists_index_of_mem {raws : List Json} {i : Issue}
    (h : i ∈ (checkAll faultOf raws).issues) :
    ∃ (index : Nat) (rest : KeyPath), i.path = toString index :: rest := by
  rw [checkAll, issues_checkAllAt, List.mem_flatMap] at h
  obtain ⟨index, -, hi⟩ := h
  exact ⟨index, exists_path_of_saidAt hi⟩

/-- A list of fields passes exactly if each passes alone and no two have one name.  Otherwise what
is said against it is what is said of its items, one after the other: what is said of an item alone,
with its index in front, or that the name of an item that passes alone is that of an earlier one.
Below some path the same is said of the list, with that path in front; in a form it is the one of
the fields. -/
theorem checkAll_item_by_item (faultOf : String → Option String) (base : KeyPath)
    (raws : List Json) :
    (∀ fields, checkAllAt faultOf base raws = .valid fields
        ↔ List.Forall₂ (fun raw f => validate faultOf raw = .ok f) raws fields
          ∧ (fields.map (·.name)).Nodup)
      ∧ (∀ issues, checkAllAt faultOf base raws = .invalid issues →
          issues = (List.range raws.length).flatMap (saidAt faultOf base raws))
      ∧ (∀ raw e, validate faultOf raw = .error e → ∀ i ∈ e.issues, ∀ index : Nat,
          KeyPath.text (toString index :: i.path)
            = if i.path.text = "" then toString index else toString index ++ "." ++ i.path.text)
      ∧ checkAllAt faultOf base raws = (checkAll faultOf raws).under base
      ∧ (base ≠ [] → ∀ i ∈ (checkAll faultOf raws).issues,
          (i.under base).path.text = base.text ++ "." ++ i.path.text)
      ∧ ∀ members, lookup "fields" members = some (.arr raws) →
          Form.fieldsOf faultOf members base = checkAllAt faultOf (base ++ ["fields"]) raws := by
  refine ⟨fun fields => validate_fields_iff, fun issues h => ?_, fun raw e h i hi index => ?_,
    (relocates_checkAllAt faultOf raws).eq_under base, fun hbase i hi => ?_, fun members h => ?_⟩
  · rw [← issues_checkAllAt, h]
    rfl
  · exact KeyPath.text_cons_eq_ite _ (path_ne_of_validate h hi)
  · obtain ⟨index, rest, hpath⟩ := exists_index_of_mem hi
    have hnonempty : i.path ≠ [] := by simp [hpath]
    exact String.intercalate_append_of_ne_nil hbase hnonempty
  · rw [Form.fieldsOf, Members.array_eq_valid_iff.2 h]
    rfl

/-- A value that is no field, a choice with an option that has no value, and two fields of one
name, in a form. -/
theorem checkAll_item_by_item_tea_twice :
    let tea : Json := .obj [("input", .obj [("type", .str "text")]), ("name", .str "tea")]
    let choice : Json := .obj [("options", .arr [.obj []]), ("source", .str "fixed"),
      ("type", .str "select")]
    let raws := [.null, tea, .obj [("input", choice), ("name", .str "cup")], tea]
    let issues : List Issue := [⟨["fields", "0"], "expected an object, received null", some 0⟩,
      ⟨["fields", "2", "input", "options", "0", "value"], "is required", some 2⟩,
      ⟨["fields", "3", "name"], "duplicate field name \"tea\" (already used by field 1)", some 3⟩]
    let members : Members := [("fields", .arr raws)]
    checkAllAt (fun _ => none) ["fields"] raws = .invalid issues
      ∧ issues = (List.range 4).flatMap (saidAt (fun _ => none) ["fields"] raws)
      ∧ issues = (checkAll (fun _ => none) raws).issues.map (Issue.under ["fields"])
      ∧ lookup "fields" members = some (.arr raws)
      ∧ Form.fieldsOf (fun _ => none) members [] = .invalid issues
      ∧ ∃ e, validate (fun _ => none) .null = .error e
        ∧ ∀ i ∈ e.issues, KeyPath.text ("0" :: i.path) = "0" := by
  intro tea choice raws issues members
  have hinvalid : checkAllAt (fun _ => none) ["fields"] raws = .invalid issues := by rfl
  have hfields : lookup "fields" members = some (.arr raws) := by rfl
  have hnull : validate (fun _ => none) .null
      = .error ⟨none, [⟨[], "expected an object, received null", none⟩]⟩ := by rfl
  obtain ⟨-, hlist, hpaths, hunder, -, -⟩ :=
    checkAll_item_by_item (fun _ => none) ["fields"] raws
  obtain ⟨-, -, -, -, -, hform⟩ := checkAll_item_by_item (fun _ => none) [] raws
  refine ⟨hinvalid, hlist issues hinvalid, ?_, hfields, (hform members hfields).trans hinvalid, _,
    hnull, fun i hi => ?_⟩
  · have hissues := congrArg Validated.issues hunder
    rw [hinvalid] at hissues
    exact hissues.trans (issues_mapIssues _ _)
  · have htext := hpaths .null _ hnull i hi 0
    obtain rfl := List.mem_singleton.1 hi
    exact htext

end Field

end NoteForms
