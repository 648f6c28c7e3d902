import NoteForms.Proofs.Moments
import NoteForms.Proofs.Unwatched

/-!
# What lasts

At every moment of every run, whatever watchers do, errors stand only against a field that must be
answered and is not, and say just that.  From one moment to any later one no field is lost, and a
session that is closed stays closed with its status, and no error comes up in it any more
(`Session.lasts_throughout`).
-/

namespace NoteForms

variable {ε : Type}

/-! ## Errors -/

namespace FieldState

/-- Errors stand only against a field that must be answered and is not, and say that. -/
def IsSound (f : FieldState) : Prop :=
  f.errors ≠ [] → f.filled? = none ∧ ∃ message, f.requirement = some message ∧ f.errors = [message]

theorem isSound_of_nil {f : FieldState} (h : f.errors = []) : f.IsSound :=
  fun hne => absurd h hne

theorem isSound_checked (f : FieldState) : f.checked.IsSound := by
  intro hne
  have herrors : f.checked.errors = f.faults := rfl
  have hfilled : f.checked.filled? = f.filled? := rfl
  have hrequirement : f.checked.requirement = f.requirement := rfl
  rw [herrors] at hne
  rw [herrors, hfilled, hrequirement]
  unfold faults at hne ⊢
  cases hmessage : f.requirement with
  | none =>
    rw [hmessage] at hne
    exact absurd rfl hne
  | some message =>
    cases ha : f.filled? with
    | none => exact ⟨rfl, message, rfl, rfl⟩
    | some a =>
      rw [hmessage, ha] at hne
      exact absurd rfl hne

theorem filled?_eq_none_iff {f : FieldState} :
    f.filled? = none ↔ ∀ a, f.answer = some a → a.isEmpty = true := by
  simp [filled?, Option.filter_eq_none_iff]

end FieldState

namespace SessionState

variable {s : SessionState}

/-- The errors of every field are sound. -/
def IsSound (s : SessionState) : Prop := ∀ name f, s.fields.get? name = some f → f.IsSound

theorem isSound_apply (h : s.IsSound) (defaults : Answers) (deed : Deed) :
    (deed.apply defaults s).IsSound := by
  intro name f hf
  cases deed with
  | registered field =>
    rw [Deed.apply, get?_register] at hf
    split at hf
    · cases hf
      exact FieldState.isSound_of_nil rfl
    · exact h name f hf
  | answered other edit =>
    rw [Deed.apply, get?_setAnswer] at hf
    split at hf
    · obtain ⟨g, -, rfl⟩ := Option.map_eq_some_iff.1 hf
      exact FieldState.isSound_of_nil rfl
    · exact h name f hf
  | attempted =>
    rw [Deed.apply, get?_attempted] at hf
    obtain ⟨g, -, rfl⟩ := Option.map_eq_some_iff.1 hf
    exact g.isSound_checked
  | cancelled => exact h name f hf

theorem isSome_apply (defaults : Answers) (deed : Deed) {name : String}
    (h : (s.fields.get? name).isSome = true) :
    ((deed.apply defaults s).fields.get? name).isSome = true := by
  cases deed with
  | registered field =>
    rw [Deed.apply, get?_register]
    split
    · rfl
    · exact h
  | answered other edit =>
    rw [Deed.apply, get?_setAnswer]
    split
    · rw [Option.isSome_map]
      exact h
    · exact h
  | attempted =>
    rw [Deed.apply, get?_attempted, Option.isSome_map]
    exact h
  | cancelled => exact h

theorem errors_subset_of_get? {t : SessionState} {name : String}
    (h : t.fields.get? name = s.fields.get? name
      ∨ ∃ f, t.fields.get? name = some f ∧ f.errors = []) :
    t.errors name ⊆ s.errors name := by
  rcases h with h | ⟨f, hf, herrors⟩
  · rw [errors_congr h]
    exact List.Subset.refl _
  · rw [errors, hf, Option.map_some, Option.getD_some, herrors]
    exact List.nil_subset _

theorem errors_register_subset (field : Field) (defaults : Answers) (name : String) :
    (s.register field defaults).errors name ⊆ s.errors name := by
  apply errors_subset_of_get?
  rw [get?_register]
  split
  · exact .inr ⟨_, rfl, rfl⟩
  · exact .inl rfl

theorem errors_setAnswer_subset (other name : String) (answer : Option Answer) :
    (s.setAnswer other answer).errors name ⊆ s.errors name := by
  apply errors_subset_of_get?
  rw [get?_setAnswer]
  split
  · cases s.fields.get? name with
    | none => exact .inl rfl
    | some f => exact .inr ⟨_, rfl, rfl⟩
  · exact .inl rfl

end SessionState

theorem Table.mem_keys_iff {α : Type} {t : Table α} {name : String} :
    name ∈ t.keys ↔ (t.get? name).isSome = true := by
  rw [keys, get?, Option.isSome_iff_ne_none, Ne, lookup_eq_none_iff, not_not]

/-! ## From one moment to the next -/

namespace Session

/-- What lasts of a session. -/
structure Endures (s t : Session ε) : Prop where
  sound : s.state.IsSound → t.state.IsSound
  keys : s.state.fields.keys ⊆ t.state.fields.keys
  closed : s.isClosed = true → t.isClosed = true ∧ t.state.status = s.state.status
    ∧ ∀ name, t.state.errors name ⊆ s.state.errors name

theorem Endures.trans {s t u : Session ε} (hst : s.Endures t) (htu : t.Endures u) :
    s.Endures u where
  sound hs := htu.sound (hst.sound hs)
  keys := List.Subset.trans hst.keys htu.keys
  closed hs := by
    obtain ⟨ht, hstatus, herrors⟩ := hst.closed hs
    obtain ⟨hu, hstatus', herrors'⟩ := htu.closed ht
    exact ⟨hu, hstatus'.trans hstatus, fun name =>
      List.Subset.trans (herrors' name) (herrors name)⟩

theorem endures_of_state {s t : Session ε} (hstate : t.state = s.state)
    (hclosed : s.isClosed = true → t.isClosed = true) : s.Endures t where
  sound hs := hstate ▸ hs
  keys := hstate ▸ List.Subset.refl _
  closed hs := ⟨hclosed hs, by rw [hstate], fun _ => hstate ▸ List.Subset.refl _⟩

theorem Aside.endures {s t : Session ε} (h : s.Aside t) : s.Endures t := by
  cases h with
  | submitted | cancelled => exact endures_of_state rfl fun _ => rfl
  | _ => exact endures_of_state rfl id

theorem endures_apply {D : Discipline ε} {s : Session ε} {deed : Deed} (h : s.Admits D deed) :
    s.Endures { s with state := deed.apply s.defaults s.state } where
  sound hs := SessionState.isSound_apply hs s.defaults deed
  keys name hname :=
    Table.mem_keys_iff.2 (SessionState.isSome_apply s.defaults deed (Table.mem_keys_iff.1 hname))
  closed hs := by
    cases deed with
    | registered field => exact ⟨hs, rfl, SessionState.errors_register_subset field s.defaults⟩
    | answered name edit =>
      exact ⟨hs, SessionState.status_setAnswer _ _,
        fun other => SessionState.errors_setAnswer_subset _ other _⟩
    | attempted | cancelled =>
      -- neither end is let through in a closed session
      exact absurd (h.2.symm.trans hs) Bool.false_ne_true

theorem lasts_endures (D : Discipline ε) : Lasts D (Endures (ε := ε)) where
  trans := Endures.trans
  aside h := h.endures
  did := endures_apply
  informed _ _ := endures_of_state rfl id
  greeted s view := by
    unfold greeted
    simp only []
    split <;> exact endures_of_state rfl id
  joined _ _ := endures_of_state rfl id

/-- At every moment a field has errors only if it must be answered and is not, and then just the one
that says so; and no two fields have one name.  Later no field is missing, and once a session is
closed it is so for good, with its status and without new errors. -/
theorem lasts_throughout (defaults : Answers) (onSubmit onCancel : Option (Ending ε))
    (actions : List (Action ε)) :
    let s := start defaults onSubmit onCancel
    let history := .of s :: s.allMoments actions
    (∀ m ∈ history, m.session.state.fields.keys.Nodup ∧
      ∀ name f, m.session.state.fields.get? name = some f → f.errors ≠ [] →
        (∀ a, f.answer = some a → a.isEmpty = true)
          ∧ ∃ message, f.requirement = some message ∧ f.errors = [message])
    ∧ history.Pairwise fun m m' =>
        m.session.state.fields.keys ⊆ m'.session.state.fields.keys
          ∧ (m.session.isClosed = true → m'.session.isClosed = true
            ∧ m'.session.state.status = m.session.state.status
            ∧ ∀ name, m'.session.state.errors name ⊆ m.session.state.errors name) := by
  intro s history
  have halong : Along Endures s (s.allMoments actions) (s.runAll actions) :=
    (lasts_endures anything).allMoments (obeys_anything s) fun _ _ => trivial
  have hstart : s.state.IsSound := by
    intro name f hf
    cases hf
  refine ⟨fun m hm => ⟨m.session.state.fields.sorted.nodup, fun name f hf hne => ?_⟩,
    List.pairwise_cons.2 ⟨fun m hm => ?_, halong.pairwise.imp fun h => ⟨h.keys, h.closed⟩⟩⟩
  · have hsound : m.session.state.IsSound := by
      rcases List.mem_cons.1 hm with rfl | hm
      · exact hstart
      · exact (halong.before m hm).sound hstart
    obtain ⟨hfilled, hmessage⟩ := hsound name f hf hne
    exact ⟨FieldState.filled?_eq_none_iff.1 hfilled, hmessage⟩
  · exact ⟨(halong.before m hm).keys, (halong.before m hm).closed⟩

end Session

end NoteForms
