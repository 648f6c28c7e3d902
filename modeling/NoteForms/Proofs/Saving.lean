import NoteForms.Proofs.Reload

/-!
# When saving changes what is stored

A report asks for saving when a form was dropped or brought to the current version, and then saving
changes the document.  But it does not ask for that when the document holds something that is not
written again, such as a key that no form has (`LoadReport.unknown_key_lost`).  Saving changes
nothing just if the report does not ask for it, the position is stored by its name, there is nothing
beside it and the forms, and each usable form is stored as it is written
(`LoadReport.same_toJson_iff`).
-/

namespace NoteForms

variable {faultOf : String → Option String}

/-! ## Values that are the same -/

namespace Json

theorem Number.same_refl (n : Number) : n.same n = true := by
  cases n <;> simp [Number.same]

mutual

theorem same_refl : ∀ v : Json, same v v = true
  | .null => rfl
  | .bool b => by simp [same]
  | .num n => n.same_refl
  | .str s => by simp [same]
  | .arr items => sameItems_refl items
  | .obj members => sameMembers_refl members

theorem sameItems_refl : ∀ items : List Json, sameItems items items = true
  | [] => rfl
  | v :: vs => by rw [sameItems, same_refl v, sameItems_refl vs, Bool.and_self]

theorem sameMembers_refl : ∀ members : List (String × Json), sameMembers members members = true
  | [] => rfl
  | (k, v) :: ms => by simp [sameMembers, same_refl v, sameMembers_refl ms]

end

theorem same_str_iff {s : String} {v : Json} : same (.str s) v = true ↔ v = .str s := by
  cases v with
  | str t => rw [same, beq_iff_eq, Json.str.injEq, eq_comm]
  | _ => simp [same]

theorem same_arr_iff {items : List Json} {v : Json} :
    same (.arr items) v = true ↔ ∃ others, v = .arr others ∧ sameItems items others = true := by
  cases v <;> simp [same]

theorem same_obj_iff {members : List (String × Json)} {v : Json} :
    same (.obj members) v = true
      ↔ ∃ others, v = .obj others ∧ sameMembers members others = true := by
  cases v <;> simp [same]

theorem sameItems_iff : ∀ {items others : List Json},
    sameItems items others = true ↔ List.Forall₂ (fun v w => same v w = true) items others
  | [], [] => by simp [sameItems]
  | [], _ :: _ => by simp [sameItems]
  | _ :: _, [] => by simp [sameItems]
  | _ :: items, _ :: others => by
    rw [sameItems, Bool.and_eq_true, sameItems_iff, List.forall₂_cons]

/-- Objects that are the same hold the same under each name. -/
theorem exists_of_sameMembers {key : String} {v : Json} :
    ∀ {members others : List (String × Json)}, sameMembers members others = true →
      lookup key members = some v → ∃ w, lookup key others = some w ∧ same v w = true
  | (k, u) :: members, [], h, _ => by cases h
  | (k, u) :: members, (l, w) :: others, h, hv => by
    simp only [sameMembers, Bool.and_eq_true, beq_iff_eq] at h
    obtain ⟨⟨rfl, hsame⟩, hrest⟩ := h
    rw [lookup] at hv ⊢
    split
    · rename_i hkey
      rw [if_pos hkey] at hv
      cases hv
      exact ⟨w, rfl, hsame⟩
    · rename_i hkey
      rw [if_neg hkey] at hv
      exact exists_of_sameMembers hrest hv

end Json

open Json

/-! ## Entries -/

/-- A form that is stored as it is written is current. -/
theorem needsMigration_eq_false {raw : Json} {f : Form}
    (h : Entry.ofJson faultOf raw = .ok (.usable f)) (hsame : same f.toJson.sorted raw = true) :
    needsMigration faultOf raw = false := by
  have hvalid := Entry.ofJson_eq_usable_iff.1 h
  have hwritten := Form.validate_sorted (Form.wellFormed_of_validate hvalid)
  obtain ⟨found, hobj, -, -, -, hversion, -, -⟩ := Form.validate_eq_valid_iff.1 hwritten
  rw [hobj] at hsame
  obtain ⟨members, rfl, hmembers⟩ := same_obj_iff.1 hsame
  obtain ⟨w, hw, hstr⟩ := exists_of_sameMembers hmembers (Members.literal_eq_valid_iff.1 hversion)
  rw [same_str_iff.1 hstr] at hw
  rw [Form.validate_stampVersion_of_lookup hw] at hvalid
  rw [needsMigration, hvalid]
  rfl

namespace Entry

theorem same_toJson_of_broken {raw : Json} (hraw : raw.IsOrdered) {b : BrokenForm}
    (h : ofJson faultOf raw = .ok (.broken b)) :
    same (broken b).toJson.sorted raw = true := by
  rw [toJson, (ofJson_eq_broken_iff.1 h).1, hraw]
  exact same_refl raw

theorem migratedName?_eq_none {raw : Json} {e : Entry} (h : ofJson faultOf raw = .ok e)
    (hsame : same e.toJson.sorted raw = true) : migratedName? faultOf raw = none := by
  unfold migratedName?
  rw [h]
  cases e with
  | broken b => rfl
  | usable f =>
    simp only [needsMigration_eq_false h hsame, Bool.false_eq_true, if_false]

/-- Where nothing is dropped, the entries are written as the forms are stored just if each is. -/
theorem forall₂_same_iff : ∀ {forms : List Json}, forms.filterMap (rejected? faultOf) = [] →
    (List.Forall₂ (fun e raw => same e.toJson.sorted raw = true)
        (forms.filterMap (accepted? faultOf)) forms
      ↔ ∀ raw ∈ forms, ∀ e, ofJson faultOf raw = .ok e → same e.toJson.sorted raw = true)
  | [], _ => by simp
  | raw :: forms, h => by
    rw [filterMap_cons_eq, List.append_eq_nil_iff] at h
    obtain ⟨hfirst, hrest⟩ := h
    cases hraw : ofJson faultOf raw with
    | error n =>
      rw [rejected?_eq_some_iff.2 hraw] at hfirst
      cases hfirst
    | ok e =>
      rw [filterMap_cons_eq, accepted?_eq_some_iff.2 hraw]
      simp only [Option.toList_some, List.singleton_append, List.forall₂_cons,
        forall₂_same_iff hrest, List.forall_mem_cons, hraw, Except.ok.injEq, forall_eq']

end Entry

/-! ## Settings -/

theorem Settings.sortedByName_members (position forms : Json) :
    SortedByName [("editorPosition", position), ("formDefinitions", forms)] := by
  have hlt : "editorPosition" < "formDefinitions" := by decide
  exact List.pairwise_pair.2 hlt

theorem Settings.sorted_toJson (s : Settings) :
    s.toJson.sorted = .obj [("editorPosition", .str s.position.name),
      ("formDefinitions", .arr (s.entries.map fun e => e.toJson.sorted))] := by
  rw [toJson, sorted, sortedMembers_eq_map, List.map_cons, List.map_cons, List.map_nil, sorted,
    sorted_arr_map, sortMembers_of_sortedByName (Settings.sortedByName_members _ _)]

theorem Settings.same_sorted_iff {s : Settings} {raw : Json} :
    same s.toJson.sorted raw = true
      ↔ ∃ forms, raw = .obj [("editorPosition", .str s.position.name),
          ("formDefinitions", .arr forms)]
        ∧ List.Forall₂ (fun e v => same e.toJson.sorted v = true) s.entries forms := by
  rw [sorted_toJson, same_obj_iff]
  constructor
  · rintro ⟨others, rfl, h⟩
    obtain ⟨k, v, l, w, rfl⟩ : ∃ k v l w, others = [(k, v), (l, w)] := by
      rcases others with _ | ⟨⟨k, v⟩, _ | ⟨⟨l, w⟩, _ | ⟨m, others⟩⟩⟩
      · cases h
      · simp [sameMembers] at h
      · exact ⟨k, v, l, w, rfl⟩
      · simp [sameMembers] at h
    simp only [sameMembers, Bool.and_eq_true, beq_iff_eq, and_true] at h
    obtain ⟨⟨rfl, hposition⟩, rfl, hforms⟩ := h
    obtain ⟨forms, rfl, hitems⟩ := same_arr_iff.1 hforms
    rw [sameItems_iff, List.forall₂_map_left_iff] at hitems
    exact ⟨forms, by rw [same_str_iff.1 hposition], hitems⟩
  · rintro ⟨forms, rfl, hitems⟩
    refine ⟨_, rfl, ?_⟩
    simp [sameMembers, same, sameItems_iff, List.forall₂_map_left_iff, hitems]

namespace LoadReport

theorem needsMigration_eq_false_iff {r : LoadReport} :
    r.needsMigration = false ↔ r.migrated = [] ∧ r.invalid = [] := by
  simp [needsMigration]

theorem ofJson_stored {position : String} {forms : List Json} {r : LoadReport}
    (h : ofJson faultOf (.obj [("editorPosition", .str position), ("formDefinitions", .arr forms)])
      = .ok r) :
    r.Sifts faultOf forms := by
  have hforms : lookup "formDefinitions" [("editorPosition", Json.str position),
      ("formDefinitions", .arr forms)] = some (.arr forms) := rfl
  rw [ofJson, StoredSettings.decode_obj hforms] at h
  cases h
  exact sifts_ofStored faultOf ⟨_, forms⟩

/-- A report that splits some forms and drops none asks for no saving if each form is stored as its
entry is written. -/
theorem Sifts.needsMigration_eq_false {forms : List Json} {r : LoadReport}
    (h : r.Sifts faultOf forms) (hinvalid : r.invalid = [])
    (hsame : ∀ v ∈ forms, ∀ e, Entry.ofJson faultOf v = .ok e → same e.toJson.sorted v = true) :
    r.needsMigration = false := by
  rw [needsMigration_eq_false_iff, h.migrated, List.filterMap_eq_nil_iff]
  refine ⟨fun v hv => ?_, hinvalid⟩
  cases hentry : Entry.ofJson faultOf v with
  | error n => rw [Entry.migratedName?, hentry]
  | ok e => exact Entry.migratedName?_eq_none hentry (hsame v hv e hentry)

theorem exists_of_same_toJson {raw : Json} {r : LoadReport} (h : ofJson faultOf raw = .ok r)
    (hsame : same r.settings.toJson.sorted raw = true) :
    r.needsMigration = false
      ∧ ∃ forms, raw = .obj [("editorPosition", .str r.settings.position.name),
          ("formDefinitions", .arr forms)]
        ∧ ∀ v ∈ forms, ∀ f, Entry.ofJson faultOf v = .ok (.usable f) →
          same f.toJson.sorted v = true := by
  obtain ⟨forms, hobj, hforms⟩ := Settings.same_sorted_iff.1 hsame
  have hsifts := ofJson_stored (hobj ▸ h)
  -- there are as many entries as forms, so nothing was dropped
  have hinvalid : r.invalid = [] := by
    have hlength := hforms.length_eq
    have hsum := hsifts.length
    rw [← List.length_eq_zero_iff]
    omega
  rw [hsifts.entries, Entry.forall₂_same_iff (hsifts.invalid.symm.trans hinvalid)] at hforms
  exact ⟨hsifts.needsMigration_eq_false hinvalid hforms, forms, hobj,
    fun v hv f hf => hforms v hv _ hf⟩

theorem same_toJson_of_stored {raw : Json} (hraw : raw.IsOrdered) {r : LoadReport}
    (h : ofJson faultOf raw = .ok r) (hcurrent : r.needsMigration = false) {forms : List Json}
    (hobj : raw = .obj [("editorPosition", .str r.settings.position.name),
      ("formDefinitions", .arr forms)])
    (hforms : ∀ v ∈ forms, ∀ f, Entry.ofJson faultOf v = .ok (.usable f) →
      same f.toJson.sorted v = true) :
    same r.settings.toJson.sorted raw = true := by
  have hsifts := ofJson_stored (hobj ▸ h)
  have hinvalid := (needsMigration_eq_false_iff.1 hcurrent).2
  have hordered : ∀ v ∈ forms, v.IsOrdered := by
    rw [hobj] at hraw
    exact isOrdered_arr.1 ((isOrdered_obj.1 hraw).2 ("formDefinitions", .arr forms) (by simp))
  refine Settings.same_sorted_iff.2 ⟨forms, hobj, ?_⟩
  rw [hsifts.entries, Entry.forall₂_same_iff (hsifts.invalid.symm.trans hinvalid)]
  intro v hv e he
  cases e with
  | usable f => exact hforms v hv f he
  | broken b => exact Entry.same_toJson_of_broken (hordered v hv) he

/-- Settings that were loaded are written as they were stored just if the report does not ask for
saving, the document holds a position by its name and some forms and nothing else, and each usable
form is stored as it is written.  In particular saving changes the document whenever the report asks
for it. -/
theorem same_toJson_iff {raw : Json} (hraw : raw.IsOrdered) {r : LoadReport}
    (h : ofJson faultOf raw = .ok r) :
    (r.needsMigration = true → same r.settings.toJson.sorted raw = false)
      ∧ (same r.settings.toJson.sorted raw = true ↔ r.needsMigration = false
        ∧ ∃ forms, raw = .obj [("editorPosition", .str r.settings.position.name),
            ("formDefinitions", .arr forms)]
          ∧ ∀ v ∈ forms, ∀ f, Entry.ofJson faultOf v = .ok (.usable f) →
            same f.toJson.sorted v = true) := by
  refine ⟨fun hneeds => ?_, exists_of_same_toJson h, ?_⟩
  · rw [← Bool.not_eq_true]
    intro hsame
    exact absurd (hneeds.symm.trans (exists_of_same_toJson h hsame).1) Bool.noConfusion
  · rintro ⟨hcurrent, forms, hobj, hforms⟩
    exact same_toJson_of_stored hraw h hcurrent hobj hforms

/-- A form that needs a fix by hand is written as it was found, and so is one that is in order. -/
theorem same_toJson_iff_blank_title :
    let note : Json := .obj [("fields", .arr []), ("name", .str "note"), ("title", .str " ")]
    let tea : Json := .obj [("fields", .arr []), ("name", .str "tea"), ("title", .str "Tea"),
      ("version", .str "1")]
    let raw : Json := .obj [("editorPosition", .str "left"), ("formDefinitions", .arr [note, tea])]
    let b : BrokenForm :=
      ⟨⟨" ", "note", none, []⟩, note, [⟨["title"], "must not be empty", none⟩]⟩
    let r : LoadReport := ⟨⟨.left, [.broken b, .usable ⟨"Tea", "tea", none, [], none⟩]⟩, [], []⟩
    raw.IsOrdered ∧ ofJson Pattern.faultOf raw = .ok r
      ∧ same r.settings.toJson.sorted raw = true := by
  intro note tea raw b r
  have hforms : ∀ v ∈ [note, tea], v.IsOrdered := by
    simp only [List.forall_mem_cons]
    exact ⟨by rfl, by rfl, nofun⟩
  have hleft : (Json.str "left").IsOrdered := by rfl
  have hordered : raw.IsOrdered :=
    isOrdered_obj.2 ⟨Settings.sortedByName_members _ _, by
      simpa [isOrdered_arr, hleft] using hforms⟩
  have hload : ofJson Pattern.faultOf raw = .ok r := by rfl
  refine ⟨hordered, hload, (same_toJson_iff hordered hload).2.2 ⟨by rfl, _, rfl, ?_⟩⟩
  have hbroken : Entry.ofJson Pattern.faultOf note = .ok (.broken b) := by rfl
  have husable : Entry.ofJson Pattern.faultOf tea
      = .ok (.usable ⟨"Tea", "tea", none, [], none⟩) := by rfl
  intro v hv f hf
  simp only [List.mem_cons, List.not_mem_nil, or_false] at hv
  rcases hv with rfl | rfl
  · rw [hbroken] at hf
    cases hf
  · rw [husable] at hf
    cases hf
    decide +kernel

/-- A current form that is stored with a key that no form has. -/
theorem unknown_key_lost :
    let raw : Json := .obj [("editorPosition", .str "right"),
      ("formDefinitions", .arr [.obj [("fields", .arr []), ("hint", .str "old"),
        ("name", .str "note"), ("title", .str "Note"), ("version", .str "1")]])]
    let r : LoadReport := ⟨⟨.right, [.usable ⟨"Note", "note", none, [], none⟩]⟩, [], []⟩
    raw.IsOrdered ∧ ofJson Pattern.faultOf raw = .ok r ∧ r.needsMigration = false
      ∧ same r.settings.toJson.sorted raw = false := by
  intro raw r
  exact ⟨by rfl, by rfl, by rfl, by decide +kernel⟩

end LoadReport

end NoteForms
