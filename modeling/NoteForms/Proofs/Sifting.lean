import NoteForms.Proofs.Migration
import NoteForms.Proofs.RoundTrip
import NoteForms.Settings.Basic

/-!
# What loading makes of stored forms

Each stored form is looked at alone: it adds an entry to the settings, or what is reported of a
value that is no form, and maybe the name of a form that was brought to the current version
(`LoadReport.addForm_eq`).  So a report splits the stored forms without loss and in their order
(`LoadReport.Sifts`), and the report on two lists of forms is one report behind the other
(`LoadReport.ofJson_sifts`).
-/

namespace NoteForms

variable {faultOf : String → Option String}

open Json

theorem filterMap_cons_eq {α β : Type} (f : α → Option β) (a : α) (as : List α) :
    (a :: as).filterMap f = (f a).toList ++ as.filterMap f := by
  rw [List.filterMap_cons]
  cases f a <;> rfl

/-! ## One stored form -/

namespace Entry

/-- The entry that a stored value stands for, unless it is no form. -/
def accepted? (faultOf : String → Option String) (raw : Json) : Option Entry :=
  (ofJson faultOf raw).toOption

/-- What is reported of a stored value that is no form. -/
def rejected? (faultOf : String → Option String) (raw : Json) : Option NotAForm :=
  match ofJson faultOf raw with
  | .ok _ => none
  | .error invalid => some invalid

/-- The name of the form that a stored value stands for, if it was stored in another version. -/
def migratedName? (faultOf : String → Option String) (raw : Json) : Option String :=
  match ofJson faultOf raw with
  | .ok (.usable form) => if NoteForms.needsMigration faultOf raw then some form.name else none
  | _ => none

theorem accepted?_eq_some_iff {raw : Json} {e : Entry} :
    accepted? faultOf raw = some e ↔ ofJson faultOf raw = .ok e := by
  unfold accepted?
  cases ofJson faultOf raw <;> simp [Except.toOption]

theorem rejected?_eq_some_iff {raw : Json} {n : NotAForm} :
    rejected? faultOf raw = some n ↔ ofJson faultOf raw = .error n := by
  unfold rejected?
  cases ofJson faultOf raw <;> simp

theorem isSome_accepted? (faultOf : String → Option String) (raw : Json) :
    (accepted? faultOf raw).isSome = !(rejected? faultOf raw).isSome := by
  unfold accepted? rejected?
  cases ofJson faultOf raw <;> rfl

theorem raw_of_rejected? {raw : Json} {n : NotAForm} (h : rejected? faultOf raw = some n) :
    n.raw = raw := (ofJson_eq_error_iff.1 (rejected?_eq_some_iff.1 h)).1

end Entry

/-! ## Stored settings -/

theorem decodeItems_ok : ∀ items : List Json, decodeItems .ok items = .ok items
  | [] => rfl
  | v :: vs => by
    rw [decodeItems, decodeItems_ok vs]
    rfl

theorem decodeList_ok_iff {v : Json} {items : List Json} :
    decodeList .ok v = .ok items ↔ v = .arr items := by
  cases v <;> simp [decodeList, decodeItems_ok]

/-- The position that an object stores, or else the right. -/
def positionIn (members : Members) : EditorPosition :=
  ((lookup "editorPosition" members).map EditorPosition.ofJson).getD .right

theorem StoredSettings.decode_obj {members : Members} {forms : List Json}
    (h : lookup "formDefinitions" members = some (.arr forms)) :
    decode (.obj members) = .ok ⟨positionIn members, forms⟩ := by
  have hposition : member? members "editorPosition" (fun v => .ok (EditorPosition.ofJson v))
      = .ok ((lookup "editorPosition" members).map EditorPosition.ofJson) := by
    unfold member?
    cases lookup "editorPosition" members <;> rfl
  have hforms : member? members "formDefinitions" (decodeList .ok) = .ok (some forms) :=
    member?_of_lookup h (decodeList_ok_iff.2 rfl)
  rw [decode, parts]
  simp only [bind, Except.bind, hposition, hforms]
  rfl

namespace LoadReport

/-! ## Reports -/

/-- A report that splits stored forms without loss, each looked at alone. -/
structure Sifts (faultOf : String → Option String) (forms : List Json) (r : LoadReport) :
    Prop where
  entries : r.settings.entries = forms.filterMap (Entry.accepted? faultOf)
  invalid : r.invalid = forms.filterMap (Entry.rejected? faultOf)
  /-- What is no form is reported as it was found. -/
  raw : r.invalid.map (·.raw) = forms.filter fun raw => (Entry.rejected? faultOf raw).isSome
  length : r.settings.entries.length + r.invalid.length = forms.length
  migrated : r.migrated = forms.filterMap (Entry.migratedName? faultOf)

theorem addForm_eq (faultOf : String → Option String) (r : LoadReport) (raw : Json) :
    r.addForm faultOf raw =
      ⟨⟨r.settings.position, r.settings.entries ++ (Entry.accepted? faultOf raw).toList⟩,
        r.invalid ++ (Entry.rejected? faultOf raw).toList,
        r.migrated ++ (Entry.migratedName? faultOf raw).toList⟩ := by
  unfold addForm Entry.accepted? Entry.rejected? Entry.migratedName?
  cases Entry.ofJson faultOf raw with
  | error n => simp [Except.toOption]
  | ok e =>
    cases e with
    | broken b => simp [Entry.isUsable, Except.toOption]
    | usable f =>
      cases NoteForms.needsMigration faultOf raw <;>
        simp [Entry.isUsable, Entry.name, Except.toOption]

/-- A report with more stored forms, one after the other. -/
theorem foldl_addForm_eq (faultOf : String → Option String) :
    ∀ (forms : List Json) (r : LoadReport), forms.foldl (addForm faultOf) r =
      ⟨⟨r.settings.position, r.settings.entries ++ forms.filterMap (Entry.accepted? faultOf)⟩,
        r.invalid ++ forms.filterMap (Entry.rejected? faultOf),
        r.migrated ++ forms.filterMap (Entry.migratedName? faultOf)⟩
  | [], r => by simp
  | raw :: forms, r => by
    rw [List.foldl_cons, foldl_addForm_eq faultOf forms, addForm_eq]
    simp only [filterMap_cons_eq, List.append_assoc]

theorem ofStored_eq (faultOf : String → Option String) (stored : StoredSettings) :
    ofStored faultOf stored =
      ⟨⟨stored.position, stored.forms.filterMap (Entry.accepted? faultOf)⟩,
        stored.forms.filterMap (Entry.rejected? faultOf),
        stored.forms.filterMap (Entry.migratedName? faultOf)⟩ :=
  foldl_addForm_eq faultOf stored.forms _

/-- What is no form is reported as it was found. -/
theorem map_raw_rejected? (faultOf : String → Option String) : ∀ forms : List Json,
    (forms.filterMap (Entry.rejected? faultOf)).map (·.raw)
      = forms.filter fun raw => (Entry.rejected? faultOf raw).isSome
  | [] => rfl
  | raw :: forms => by
    rw [filterMap_cons_eq, List.map_append, map_raw_rejected? faultOf forms, List.filter_cons]
    cases h : Entry.rejected? faultOf raw with
    | none => rfl
    | some n => simp [Entry.raw_of_rejected? h]

/-- Every stored form is an entry, or is reported. -/
theorem length_accepted?_add_rejected? (faultOf : String → Option String) :
    ∀ forms : List Json, (forms.filterMap (Entry.accepted? faultOf)).length
      + (forms.filterMap (Entry.rejected? faultOf)).length = forms.length
  | [] => rfl
  | raw :: forms => by
    have hrest := length_accepted?_add_rejected? faultOf forms
    have hraw := Entry.isSome_accepted? faultOf raw
    simp only [filterMap_cons_eq, List.length_append, List.length_cons, Option.length_toList]
    cases haccepted : Entry.accepted? faultOf raw <;>
      cases hrejected : Entry.rejected? faultOf raw <;>
      simp [haccepted, hrejected] at hraw ⊢ <;> omega

theorem sifts_ofStored (faultOf : String → Option String) (stored : StoredSettings) :
    (ofStored faultOf stored).Sifts faultOf stored.forms := by
  rw [ofStored_eq]
  exact ⟨rfl, rfl, map_raw_rejected? faultOf stored.forms,
    length_accepted?_add_rejected? faultOf stored.forms, rfl⟩

/-- A document is refused for its shape alone, or else the report on it splits the forms that it
stores.  In particular an object whose forms are a list is not refused, whatever the forms are, and
the report on one list of forms behind another is one report behind the other. -/
theorem ofJson_sifts (faultOf : String → Option String) :
    (∀ raw : Json,
      (∃ e, StoredSettings.decode raw = .error e ∧ ofJson faultOf raw = .error e)
        ∨ ∃ stored r, StoredSettings.decode raw = .ok stored ∧ ofJson faultOf raw = .ok r
          ∧ r.settings.position = stored.position ∧ r.Sifts faultOf stored.forms)
    ∧ ∀ members : Members, ∃ report : List Json → LoadReport,
      (∀ forms,
        ofJson faultOf (.obj (insertEntry "formDefinitions" (.arr forms) members))
            = .ok (report forms)
          ∧ (report forms).Sifts faultOf forms)
      ∧ ∀ a b, report (a ++ b) =
        ⟨⟨(report a).settings.position,
            (report a).settings.entries ++ (report b).settings.entries⟩,
          (report a).invalid ++ (report b).invalid,
          (report a).migrated ++ (report b).migrated⟩ := by
  refine ⟨fun raw => ?_, fun members => ?_⟩
  · cases hdecode : StoredSettings.decode raw with
    | error e => exact .inl ⟨e, rfl, by rw [ofJson, hdecode]; rfl⟩
    | ok stored =>
      refine .inr ⟨stored, ofStored faultOf stored, rfl, by rw [ofJson, hdecode]; rfl, ?_,
        sifts_ofStored faultOf stored⟩
      rw [ofStored_eq]
  · refine ⟨fun forms => ofStored faultOf ⟨positionIn members, forms⟩, fun forms =>
      ⟨?_, sifts_ofStored faultOf ⟨positionIn members, forms⟩⟩, fun a b => ?_⟩
    · have hforms : lookup "formDefinitions" (insertEntry "formDefinitions" (.arr forms) members)
          = some (.arr forms) := by rw [lookup_insertEntry, if_pos rfl]
      have hposition : positionIn (insertEntry "formDefinitions" (.arr forms) members)
          = positionIn members := by
        rw [positionIn, lookup_insertEntry, if_neg (by decide), positionIn]
      rw [ofJson, StoredSettings.decode_obj hforms, hposition]
      rfl
    · simp only [ofStored_eq, List.filterMap_append]

end LoadReport

end NoteForms
