import NoteForms.Proofs.Closing

/-!
# Submitting

While watchers only read, what is told changes nothing (`Session.undisturbed_publish`), so an
attempt to submit an open session does just what the answers ask for: it is accepted if every field
that must be answered is, and then the answers are handed over once and the session is over; else the
session stays open and each field says what it lacks (`Session.submit_gated`).
-/

namespace NoteForms

variable {ε : Type}

/-! ## Reading only -/

/-- Whether an action changes nothing of a session. -/
def Action.IsReading : Action ε → Prop
  | .read _ | .answers | .refused _ | .refusedAt _ _ => True
  | .andThen first next => first.IsReading ∧ next.IsReading
  | _ => False

/-- Whether the watchers that an action brings in only read. -/
def Action.IsQuiet : Action ε → Prop
  | .watch _ (some r) => r.Does Action.IsReading
  | .andThen first next => first.IsQuiet ∧ next.IsQuiet
  | _ => True

theorem Action.IsReading.isQuiet {a : Action ε} (h : a.IsReading) : a.IsQuiet := by
  cases a with
  | andThen first next => exact ⟨h.1.isQuiet, h.2.isQuiet⟩
  | watch focus reaction => exact h.elim
  | _ => trivial

/-- Watchers only read, and the ends of the session bring in only such watchers. -/
def quiet : Discipline ε where
  acts := Action.IsQuiet
  reacts := Action.IsReading
  ends := Action.IsQuiet
  acts_of_reacts := Action.IsReading.isQuiet
  acts_of_ends _ := id
  reacts_of_watch := id
  acts_of_andThen := id

/-- Nothing is done but reading. -/
def reading : Discipline ε where
  acts := Action.IsReading
  reacts := Action.IsReading
  ends _ := True
  acts_of_reacts := id
  acts_of_ends h := by rcases h with h | h <;> cases h
  reacts_of_watch h := by cases h
  acts_of_andThen := id

namespace Session

theorem Obeys.reading {s : Session ε} (h : s.Obeys quiet) : s.Obeys reading :=
  ⟨h.watchers, fun _ _ _ _ => trivial, fun _ _ _ _ => trivial⟩

theorem run_of_isReading {a : Action ε} (h : a.IsReading) (s : Session ε) : (s.run a).1 = s := by
  cases a with
  | read handle =>
    rw [run_eq_perform, perform]
    split <;> rfl
  | answers => rw [run_eq_perform, perform]
  | refused reason => rw [run_eq_perform, perform]
  | refusedAt handle reason =>
    rw [run_eq_perform, perform]
    split <;> rfl
  | andThen first next =>
    rw [run_eq_perform, perform, run_of_isReading h.1, run_of_isReading h.2]
  | _ => exact h.elim

/-- Nothing has changed but what watchers were told. -/
structure Undisturbed (s t : Session ε) : Prop where
  state : t.state = s.state
  isClosed : t.isClosed = s.isClosed
  onSubmit : t.onSubmit = s.onSubmit
  onCancel : t.onCancel = s.onCancel
  endings : t.endings = s.endings

theorem Undisturbed.trans {s t u : Session ε} (hst : s.Undisturbed t) (htu : t.Undisturbed u) :
    s.Undisturbed u :=
  ⟨htu.state.trans hst.state, htu.isClosed.trans hst.isClosed, htu.onSubmit.trans hst.onSubmit,
    htu.onCancel.trans hst.onCancel, htu.endings.trans hst.endings⟩

theorem undisturbed_publish {s : Session ε} (hs : s.Obeys quiet) :
    s.Undisturbed (s.publish fun action s => s.run action) := by
  have htelling :
      Telling reading Undisturbed (fun action (s : Session ε) => s.run action) s.state :=
    { alike := fun h => ⟨h.state, h.isClosed, h.onSubmit, h.onCancel, by
        rw [endings, endings, h.events]⟩
      trans := Undisturbed.trans
      caused := fun _ _ => ⟨rfl, rfl, rfl, rfl, rfl⟩
      told := fun _ _ _ => ⟨rfl, rfl, rfl, rfl, rfl⟩
      acted := fun {a s} ha hs => by
        rw [run_of_isReading ha]
        exact ⟨hs, rfl, rfl, rfl, rfl, rfl⟩ }
  exact (htelling.publish hs.reading).2

end Session

/-! ## Fields that must be answered -/

/-- Whether a field that must be answered has an answer that is not empty. -/
def FieldState.isMet (f : FieldState) : Bool :=
  f.requirement.isNone || f.answer.any fun a => !a.isEmpty

namespace FieldState

theorem filled?_eq_some_iff {f : FieldState} {a : Answer} :
    f.filled? = some a ↔ f.answer = some a ∧ a.isEmpty = false := by
  simp [filled?, Option.filter_eq_some_iff]

theorem faults_eq (f : FieldState) : f.faults = if f.isMet then [] else f.requirement.toList := by
  unfold faults isMet filled?
  cases f.requirement with
  | none => simp
  | some message =>
    cases f.answer with
    | none => simp
    | some a => cases h : a.isEmpty <;> simp [Option.filter, h]

theorem faults_eq_nil_iff {f : FieldState} : f.faults = [] ↔ f.isMet = true := by
  rw [faults_eq]
  unfold isMet
  cases f.requirement with
  | none => simp
  | some message => cases f.answer.any (fun a => !a.isEmpty) <;> simp

theorem isMet_iff {f : FieldState} : f.isMet = true
    ↔ (f.requirement.isSome → ∃ a, f.answer = some a ∧ a.isEmpty = false) := by
  unfold isMet
  cases f.requirement with
  | none => simp
  | some message => simp [Option.any_eq_true]

end FieldState

namespace SessionState

theorem isValid_checkAll_iff {s : SessionState} :
    s.checkAll.isValid = true ↔ ∀ name f, s.fields.get? name = some f → f.isMet = true := by
  simp only [isValid_iff, checkAll, Table.get?_map, Option.map_eq_some_iff]
  constructor
  · intro h name f hf
    exact FieldState.faults_eq_nil_iff.1 (h name f.checked ⟨f, hf, rfl⟩)
  · rintro h name _ ⟨f, hf, rfl⟩
    exact FieldState.faults_eq_nil_iff.2 (h name f hf)

theorem get?_answers_iff {s : SessionState} {name : String} {a : Answer} :
    s.answers.get? name = some a
      ↔ ∃ f, s.fields.get? name = some f ∧ f.answer = some a ∧ a.isEmpty = false := by
  simp only [answers, Table.get?_filterMap, Option.bind_eq_some_iff,
    FieldState.filled?_eq_some_iff]

theorem answers_checkAll (s : SessionState) : s.checkAll.answers = s.answers := by
  refine Table.ext_get? fun name => Option.ext fun a => ?_
  simp only [get?_answers_iff, checkAll, Table.get?_map, Option.map_eq_some_iff]
  constructor
  · rintro ⟨_, ⟨f, hf, rfl⟩, ha⟩
    exact ⟨f, hf, ha⟩
  · rintro ⟨f, hf, ha⟩
    exact ⟨f.checked, ⟨f, hf, rfl⟩, ha⟩

end SessionState

/-! ## Attempts to submit -/

namespace Session

/-- What an accepted submission comes to. -/
structure Accepts (s : Session ε) (onSubmit : Option (Ending ε)) (t : Session ε) : Prop where
  status : t.state.status = .submitted
  isClosed : t.isClosed = true
  noErrors : ∀ name f, t.state.fields.get? name = some f → f.errors = []
  /-- The answers that are not empty are handed over once, if anybody asked for them. -/
  handedOver : ∃ answers : Answers, t.endings = (onSubmit.map fun _ => .submitted answers).toList
    ∧ (∀ name a, answers.get? name = some a
      ↔ ∃ f, s.state.fields.get? name = some f ∧ f.answer = some a ∧ a.isEmpty = false)
    ∧ ∀ name f, s.state.fields.get? name = some f → f.requirement.isSome → ∃ a,
      f.answer = some a ∧ answers.get? name = some a
  isOver : t.IsOver
  /-- The session was over already when what follows from the end began. -/
  followed : ∃ c : Session ε, c.IsOver ∧ c.state.status = .submitted ∧ c.endings = t.endings
    ∧ t = c.react (fun action s => s.run action) (onSubmit.bind (·.action))

/-- What a refused submission comes to. -/
structure Refuses (s : Session ε) (onSubmit onCancel : Option (Ending ε)) (t : Session ε) :
    Prop where
  status : t.state.status = .draft
  isOpen : t.isClosed = false
  noEnd : t.endings = [] ∧ t.onSubmit = onSubmit ∧ t.onCancel = onCancel
  fields : ∀ name, t.state.fields.get? name = (s.state.fields.get? name).map fun f =>
    { f with errors := if f.isMet then [] else f.requirement.toList }

theorem Refuses.isClosed_ne {s t : Session ε} {onSubmit onCancel : Option (Ending ε)}
    (h : s.Refuses onSubmit onCancel t) : t.isClosed ≠ true := by
  rw [h.isOpen]
  exact Bool.false_ne_true

variable {s : Session ε}

theorem undisturbed_change (hs : s.Obeys quiet) (f : SessionState → SessionState) :
    Undisturbed { s with state := f s.state } (s.change (fun action s => s.run action) f) :=
  undisturbed_publish (s := { s with state := f s.state })
    ⟨hs.watchers, hs.onSubmit, hs.onCancel⟩

/-- Handing over the answers is the last thing that a session without an end does. -/
theorem exists_handedOver {t : Session ε} (hnone : t.endings = []) (answers : Answers)
    (onSubmit : Option (Ending ε)) :
    ∃ c : Session ε, c.isClosed = t.isClosed ∧ c.state = t.state
      ∧ c.endings = (onSubmit.map fun _ => .submitted answers).toList
      ∧ t.conclude (fun action s => s.run action) (.submitted answers) onSubmit
        = c.react (fun action s => s.run action) (onSubmit.bind (·.action)) := by
  cases onSubmit with
  | none => exact ⟨t, rfl, rfl, hnone, rfl⟩
  | some e =>
    refine ⟨t.note (.submitted answers), rfl, rfl, ?_, rfl⟩
    show Event.submitted answers :: t.endings = [.submitted answers]
    rw [hnone]

theorem accepts_submit (hs : s.Obeys quiet) (hopen : s.isClosed = false) (hnone : s.endings = [])
    (hmet : ∀ name f, s.state.fields.get? name = some f → f.isMet = true) :
    (s.run .submit).2 = .submitted true ∧ s.Accepts s.onSubmit (s.run .submit).1 := by
  have hvalid := SessionState.isValid_checkAll_iff.2 hmet
  have hchange := undisturbed_change hs SessionState.attempted
  have hattempted : s.state.attempted = { s.state.checkAll with status := .submitted } := by
    rw [SessionState.attempted, if_pos hvalid]
  rw [run_eq_perform, perform, submit, if_neg (by rw [hopen]; exact Bool.false_ne_true)]
  simp only [hvalid, if_true, true_and]
  rw [hattempted] at hchange
  generalize s.change (fun action s => s.run action) SessionState.attempted = t at hchange ⊢
  have hanswers : t.state.answers = s.state.answers := by
    rw [hchange.state]
    exact SessionState.answers_checkAll s.state
  obtain ⟨c, hclosed, hstate, hendings, hfollowed⟩ :=
    exists_handedOver (t := { t with isClosed := true, onSubmit := none })
      (hchange.endings.trans hnone) s.state.answers s.onSubmit
  have hcstate := hstate.trans hchange.state
  obtain ⟨htclosed, hstatus, hkept, herrors⟩ :=
    (evolves_reaction c (s.onSubmit.bind (·.action))).closed hclosed
  rw [hanswers, hchange.onSubmit, hfollowed]
  refine ⟨?_, htclosed, ?_, ⟨s.state.answers, hkept.trans hendings, fun name a =>
    SessionState.get?_answers_iff, ?_⟩, isOver_of_isClosed htclosed, c,
    isOver_of_isClosed hclosed, ?_, hkept.symm, rfl⟩
  · rw [hstatus, hcstate]
  · exact SessionState.isValid_iff.1 (herrors (by rw [hcstate]; exact hvalid))
  · intro name f hf hrequired
    obtain ⟨a, ha, hfull⟩ := FieldState.isMet_iff.1 (hmet name f hf) hrequired
    exact ⟨a, ha, SessionState.get?_answers_iff.2 ⟨f, hf, ha, hfull⟩⟩
  · rw [hcstate]

theorem refuses_submit (hs : s.Obeys quiet) (hopen : s.isClosed = false) (hnone : s.endings = [])
    (hunmet : ¬ ∀ name f, s.state.fields.get? name = some f → f.isMet = true) :
    (s.run .submit).2 = .submitted false
      ∧ s.Refuses s.onSubmit s.onCancel (s.run .submit).1 := by
  have hvalid := mt SessionState.isValid_checkAll_iff.1 hunmet
  have hchange := undisturbed_change hs SessionState.attempted
  have hattempted : s.state.attempted = { s.state.checkAll with status := .draft } := by
    rw [SessionState.attempted, if_neg hvalid]
  rw [run_eq_perform, perform, submit, if_neg (by rw [hopen]; exact Bool.false_ne_true)]
  simp only [if_neg hvalid, true_and]
  rw [hattempted] at hchange
  refine ⟨by rw [hchange.state], by rw [hchange.isClosed, hopen],
    ⟨hchange.endings.trans hnone, hchange.onSubmit, hchange.onCancel⟩, fun name => ?_⟩
  rw [hchange.state, SessionState.checkAll, Table.get?_map]
  congr 1
  funext f
  rw [FieldState.checked, FieldState.faults_eq]

/-- A session in which watchers only read accepts a submission just if every field that must be
answered is; and once it was submitted or cancelled, it is over. -/
theorem submit_gated (defaults : Answers) (onSubmit onCancel : Option (Ending ε))
    (hsubmit : ∀ e ∈ onSubmit, ∀ a ∈ e.action, a.IsQuiet)
    (hcancel : ∀ e ∈ onCancel, ∀ a ∈ e.action, a.IsQuiet)
    (actions : List (Action ε)) (hactions : ∀ a ∈ actions, a.IsQuiet) :
    let s := (start defaults onSubmit onCancel).runAll actions
    (s.isClosed = false → ∃ accepted, (s.run .submit).2 = .submitted accepted
      ∧ (accepted = true ↔ ∀ name f, s.state.fields.get? name = some f → f.requirement.isSome →
        ∃ a, f.answer = some a ∧ a.isEmpty = false)
      ∧ (accepted = true → s.Accepts onSubmit (s.run .submit).1)
      ∧ (accepted = false → s.Refuses onSubmit onCancel (s.run .submit).1))
    ∧ (s.isClosed = true → s.IsOver)
    ∧ (s.run .cancel).1.IsOver := by
  intro s
  have hstart : (start defaults onSubmit onCancel).Obeys quiet :=
    ⟨fun w hw => absurd hw List.not_mem_nil, hsubmit, hcancel⟩
  have hobeys : s.Obeys quiet := hstart.runAll hactions
  have hevolves : (start defaults onSubmit onCancel).Evolves s := evolves_runAll actions _
  refine ⟨fun hopen => ?_, isOver_of_isClosed, isOver_of_isClosed (isClosed_run_cancel s)⟩
  obtain ⟨-, hgiven, hgiven', hnone⟩ := hevolves.stillOpen hopen
  by_cases hmet : ∀ name f, s.state.fields.get? name = some f → f.isMet = true
  · obtain ⟨hreply, haccepts⟩ := accepts_submit hobeys hopen hnone hmet
    refine ⟨true, hreply, ⟨fun _ name f hf => ?_, fun _ => rfl⟩, fun _ => ?_, nofun⟩
    · exact FieldState.isMet_iff.1 (hmet name f hf)
    · rw [hgiven] at haccepts
      exact haccepts
  · obtain ⟨hreply, hrefuses⟩ := refuses_submit hobeys hopen hnone hmet
    refine ⟨false, hreply, ⟨nofun, fun h => ?_⟩, nofun, fun _ => ?_⟩
    · exact absurd (fun name f hf => FieldState.isMet_iff.2 (h name f hf)) hmet
    · rw [hgiven, hgiven'] at hrefuses
      exact hrefuses

/-- A name that must be given and is missing at the first attempt, given before the second, and
taken away again when it was handed over. -/
theorem submit_gated_second_attempt :
    let name : Field := ⟨"name", none, "", .basic .text none, some true, none⟩
    let onSubmit : Option (Ending Unit) := some ⟨some (.clear 0)⟩
    let s : Session Unit := (start ∅ onSubmit none).runAll
      [.register name, .watch (.session .status) (some (.mk 0 9 (.read 0))), .submit,
        .set 0 (.text "Ada")]
    s.isClosed = false ∧ s.Accepts onSubmit (s.run .submit).1 := by
  intro name onSubmit s
  have hopen : s.isClosed = false := by decide +kernel
  obtain ⟨accepted, -, -, haccepts, hrefuses⟩ := (submit_gated ∅ onSubmit none
    (by simp [onSubmit, Action.IsQuiet]) (by simp)
    [.register name, .watch (.session .status) (some (.mk 0 9 (.read 0))), .submit,
      .set 0 (.text "Ada")] (by simp [Action.IsQuiet, Reaction.Does, Action.IsReading])).1 hopen
  cases accepted with
  | true => exact ⟨hopen, haccepts rfl⟩
  | false => exact ((hrefuses rfl).isClosed_ne (by decide +kernel)).elim

end Session

end NoteForms
