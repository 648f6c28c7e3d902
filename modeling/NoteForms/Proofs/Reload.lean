import NoteForms.Proofs.Sifting

/-!
# Loading what was saved

An entry of a collection is either a form that passes the checks or kept as it was stored, so what
is stored for it stands for the same entry again (`Entry.isStable_of_ofJson`).  Loading therefore
settles: what is saved after loading loads as the same settings, and nothing is dropped or brought
to the current version a second time (`LoadReport.ofJson_toJson`).
-/

namespace NoteForms

variable {faultOf : String → Option String}

open Json

/-! ## Entries -/

namespace Entry

/-- An entry is a form that passes the checks, or the stored value itself. -/
theorem of_ofJson {raw : Json} {e : Entry} (h : ofJson faultOf raw = .ok e) :
    (∃ f : Form, e = .usable f ∧ f.WellFormed faultOf) ∨ ∃ b, e = .broken b ∧ b.raw = raw := by
  unfold ofJson at h
  split at h
  · rename_i f hf
    cases h
    exact .inl ⟨f, rfl, Form.wellFormed_of_validate hf⟩
  · split at h
    · cases h
    · split at h
      · rename_i f hf
        cases h
        exact .inl ⟨f, rfl, Form.wellFormed_of_validate hf⟩
      · cases h
        exact .inr ⟨_, rfl, rfl⟩

/-- What is stored for an entry stands for the entry. -/
def IsStable (faultOf : String → Option String) (e : Entry) : Prop :=
  ofJson faultOf e.toJson.sorted = .ok e
    ∧ (e.isUsable = true → NoteForms.needsMigration faultOf e.toJson.sorted = false)

theorem isStable_usable {f : Form} (hf : f.WellFormed faultOf) : (usable f).IsStable faultOf := by
  have hvalid : Form.validate faultOf (usable f).toJson.sorted = .valid f := Form.validate_sorted hf
  constructor
  · rw [ofJson, hvalid]
  · intro _
    rw [NoteForms.needsMigration, hvalid]
    rfl

/-- A stored value in order stands for an entry that is stored the same way again. -/
theorem isStable_of_ofJson {raw : Json} (hraw : raw.IsOrdered) {e : Entry}
    (h : ofJson faultOf raw = .ok e) : e.IsStable faultOf := by
  rcases of_ofJson h with ⟨f, rfl, hf⟩ | ⟨b, rfl, hb⟩
  · exact isStable_usable hf
  · have hsame : (broken b).toJson.sorted = raw := by rw [toJson, hb, hraw]
    exact ⟨by rw [hsame, h], by simp [isUsable]⟩

end Entry

/-! ## Stored settings -/

theorem EditorPosition.ofJson_name (p : EditorPosition) : ofJson (.str p.name) = p := by
  cases p <;> decide

namespace StoredSettings

theorem isOrdered_getD {forms : Option (List Json)}
    (h : ∀ found, forms = some found → (Json.arr found).IsOrdered) :
    ∀ v ∈ forms.getD [], v.IsOrdered := by
  cases forms with
  | none => simp
  | some found => exact isOrdered_arr.1 (h found rfl)

/-- The forms of stored settings in order are in order. -/
theorem isOrdered_forms {raw : Json} (hraw : raw.IsOrdered) {stored : StoredSettings}
    (h : decode raw = .ok stored) : ∀ v ∈ stored.forms, v.IsOrdered := by
  obtain ⟨p, hp, h⟩ := bind_eq_ok_iff.1 h
  cases raw with
  | obj members =>
    cases hp
    obtain ⟨position, -, h⟩ := bind_eq_ok_iff.1 h
    obtain ⟨forms, hforms, h⟩ := bind_eq_ok_iff.1 h
    cases h
    refine isOrdered_getD fun found hfound => ?_
    rw [hfound] at hforms
    obtain ⟨v, hv, hdecode⟩ := exists_of_member? hforms
    rw [← decodeList_ok_iff.1 hdecode]
    exact (isOrdered_obj.1 hraw).2 _ (mem_of_lookup hv)
  | arr items =>
    cases hp
    obtain ⟨position, -, h⟩ := bind_eq_ok_iff.1 h
    obtain ⟨forms, hforms, h⟩ := bind_eq_ok_iff.1 h
    obtain ⟨-, -, h⟩ := bind_eq_ok_iff.1 h
    cases h
    refine isOrdered_getD fun found hfound => ?_
    rw [hfound] at hforms
    obtain ⟨v, hv, hdecode⟩ := exists_of_item? hforms
    rw [← decodeList_ok_iff.1 hdecode]
    exact isOrdered_arr.1 hraw v hv
  | _ => cases hp

theorem decode_toJson (s : Settings) :
    decode s.toJson.sorted = .ok ⟨s.position, s.entries.map fun e => e.toJson.sorted⟩ := by
  obtain ⟨found, hobj, hfind⟩ := exists_sorted_obj [("editorPosition", .str s.position.name),
    ("formDefinitions", .arr (s.entries.map Entry.toJson))] (by simp)
  have hposition : member? found "editorPosition" (fun v => .ok (EditorPosition.ofJson v))
      = .ok (some s.position) :=
    member?_of_lookup (hfind "editorPosition") (congrArg Except.ok s.position.ofJson_name)
  have hforms : lookup "formDefinitions" found
      = some (.arr (s.entries.map fun e => e.toJson.sorted)) := by
    rw [hfind, ← sorted_arr_map]
    rfl
  have hdecode : decodeList .ok (.arr (s.entries.map fun e => e.toJson.sorted))
      = .ok (s.entries.map fun e => e.toJson.sorted) := decodeList_ok_iff.2 rfl
  rw [Settings.toJson, hobj, decode, parts]
  simp only [bind, Except.bind, hposition, member?_of_lookup hforms hdecode]
  rfl

end StoredSettings

/-! ## Reports -/

namespace LoadReport

/-- Stable entries are found again one by one, and nothing is reported of them. -/
theorem ofStored_of_isStable {entries : List Entry} (h : ∀ e ∈ entries, e.IsStable faultOf)
    (position : EditorPosition) :
    ofStored faultOf ⟨position, entries.map fun e => e.toJson.sorted⟩
      = ⟨⟨position, entries⟩, [], []⟩ := by
  have haccepted : (entries.map fun e => e.toJson.sorted).filterMap (Entry.accepted? faultOf)
      = entries := by
    rw [List.filterMap_map]
    refine (List.filterMap_congr fun e he => ?_).trans List.filterMap_some
    exact Entry.accepted?_eq_some_iff.2 (h e he).1
  have hrejected : (entries.map fun e => e.toJson.sorted).filterMap (Entry.rejected? faultOf)
      = [] := by
    rw [List.filterMap_map, List.filterMap_eq_nil_iff]
    intro e he
    simp only [Function.comp, Entry.rejected?, (h e he).1]
  have hmigrated : (entries.map fun e => e.toJson.sorted).filterMap (Entry.migratedName? faultOf)
      = [] := by
    rw [List.filterMap_map, List.filterMap_eq_nil_iff]
    intro e he
    obtain ⟨hsame, hcurrent⟩ := h e he
    cases e with
    | broken b => simp only [Function.comp, Entry.migratedName?, hsame]
    | usable f =>
      simp only [Function.comp, Entry.migratedName?, hsame, hcurrent rfl, Bool.false_eq_true,
        if_false]
  rw [ofStored_eq, haccepted, hrejected, hmigrated]

/-- Every entry that loading settings in order finds is stable. -/
theorem isStable_of_ofJson {raw : Json} (hraw : raw.IsOrdered) {r : LoadReport}
    (h : ofJson faultOf raw = .ok r) : ∀ e ∈ r.settings.entries, e.IsStable faultOf := by
  obtain ⟨stored, hstored, rfl⟩ := map_eq_ok_iff.1 h
  intro e he
  rw [ofStored_eq] at he
  obtain ⟨v, hv, he⟩ := List.mem_filterMap.1 he
  exact Entry.isStable_of_ofJson (StoredSettings.isOrdered_forms hraw hstored v hv)
    (Entry.accepted?_eq_some_iff.1 he)

/-- Settings whose entries are stable load as they were saved. -/
theorem ofJson_of_isStable {s : Settings} (h : ∀ e ∈ s.entries, e.IsStable faultOf) :
    ofJson faultOf s.toJson.sorted = .ok ⟨s, [], []⟩ := by
  rw [ofJson, StoredSettings.decode_toJson]
  exact congrArg Except.ok (ofStored_of_isStable h s.position)

/-- Loading what was saved after loading gives the same settings, and reports nothing; and a stored
form stands for an entry that is stored as one which stands for the same entry, or, if it needs a
fix by hand, as it was found.  Values are in order, as whatever is read from text is. -/
theorem ofJson_toJson (faultOf : String → Option String) :
    (∀ raw : Json, raw.IsOrdered → ∀ r, ofJson faultOf raw = .ok r →
      ∃ again, ofJson faultOf r.settings.toJson.sorted = .ok again
        ∧ again.settings = r.settings ∧ again.invalid = [] ∧ again.migrated = []
        ∧ again.needsMigration = false)
      ∧ ∀ raw : Json, raw.IsOrdered → ∀ e, Entry.ofJson faultOf raw = .ok e →
        Entry.ofJson faultOf e.toJson.sorted = .ok e
          ∧ ∀ b, e = .broken b → e.toJson.sorted = raw := by
  constructor
  · intro raw hraw r h
    exact ⟨_, ofJson_of_isStable (isStable_of_ofJson hraw h), rfl, rfl, rfl, rfl⟩
  · intro raw hraw e h
    refine ⟨(Entry.isStable_of_ofJson hraw h).1, ?_⟩
    rintro b rfl
    rcases Entry.of_ofJson h with ⟨f, hf, -⟩ | ⟨c, hc, hraw'⟩
    · cases hf
    · cases hc
      rw [Entry.toJson, hraw', hraw]

/-- A form that was stored without a version is brought to the current one, and only once. -/
theorem ofJson_toJson_unversioned :
    let raw : Json := .obj [("editorPosition", .str " left"),
      ("formDefinitions", .arr [.obj [("fields", .arr []), ("name", .str "note"),
        ("title", .str "Note")]])]
    let settings : Settings := ⟨.left, [.usable ⟨"Note", "note", none, [], none⟩]⟩
    ofJson Pattern.faultOf raw = .ok ⟨settings, [], ["note"]⟩
      ∧ ∃ again, ofJson Pattern.faultOf settings.toJson.sorted = .ok again
        ∧ again.settings = settings ∧ again.invalid = [] ∧ again.migrated = []
        ∧ again.needsMigration = false := by
  intro raw settings
  have hload : ofJson Pattern.faultOf raw = .ok ⟨settings, [], ["note"]⟩ := by rfl
  have hordered : raw.IsOrdered := by rfl
  exact ⟨hload, (ofJson_toJson Pattern.faultOf).1 raw hordered ⟨settings, [], ["note"]⟩ hload⟩

end LoadReport

end NoteForms
