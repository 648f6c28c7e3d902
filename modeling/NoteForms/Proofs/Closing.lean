import NoteForms.Proofs.Reactions
import NoteForms.Proofs.Unfolding

/-!
# What never happens twice

A session that is closed stays closed, with its status, without errors if it has none, and without
another end; while it is open its endings are still to come; and each of them comes at most once
(`Session.evolves_performWithin`).  This holds of every action, whatever watchers do.
-/

namespace NoteForms

variable {ε : Type}

/-! ## Errors of fields -/

namespace SessionState

variable {s : SessionState}

theorem isValid_iff :
    s.isValid = true ↔ ∀ name f, s.fields.get? name = some f → f.errors = [] := by
  simp only [isValid, List.all_eq_true, Prod.forall, Table.mem_entries_iff, List.isEmpty_iff]

theorem isValid_insert (h : s.isValid = true) (status : SessionStatus) (name : String)
    {f : FieldState} (hf : f.errors = []) :
    isValid { s with status := status, fields := s.fields.insert name f } = true := by
  rw [isValid_iff] at h ⊢
  intro other g hg
  rw [Table.get?_insert] at hg
  split at hg
  · cases hg
    exact hf
  · exact h other g hg

theorem isValid_setAnswer (h : s.isValid = true) (name : String) (answer : Option Answer) :
    (s.setAnswer name answer).isValid = true := by
  unfold setAnswer
  split
  · exact isValid_insert h s.status name rfl
  · exact h

theorem isValid_register (h : s.isValid = true) (field : Field) (defaults : Answers) :
    (s.register field defaults).isValid = true := isValid_insert h s.status field.name rfl

theorem status_setAnswer (name : String) (answer : Option Answer) :
    (s.setAnswer name answer).status = s.status := by
  unfold setAnswer
  split <;> rfl

end SessionState

/-! ## Endings -/

/-- Whether the event is the end of a session by submission. -/
def Event.isSubmission : Event ε → Bool
  | .submitted _ => true
  | _ => false

/-- Whether the event is the end of a session by cancelling. -/
def Event.isCancellation : Event ε → Bool
  | .cancelled => true
  | _ => false

namespace Session

/-- The ends that were noted, the last first. -/
def endings (s : Session ε) : List (Event ε) :=
  s.events.filter fun e => e.isSubmission || e.isCancellation

/-- How many submissions were noted and are still to be noted. -/
def submissions (s : Session ε) : Nat :=
  s.events.countP Event.isSubmission + s.onSubmit.isSome.toNat

/-- How many times cancelling was noted and is still to be noted. -/
def cancellations (s : Session ε) : Nat :=
  s.events.countP Event.isCancellation + s.onCancel.isSome.toNat

/-- What a session can become. -/
structure Evolves (s t : Session ε) : Prop where
  closed : s.isClosed = true → t.isClosed = true ∧ t.state.status = s.state.status
    ∧ t.endings = s.endings ∧ (s.state.isValid = true → t.state.isValid = true)
  stillOpen : t.isClosed = false → s.isClosed = false ∧ t.onSubmit = s.onSubmit
    ∧ t.onCancel = s.onCancel ∧ t.endings = s.endings
  submissions : t.submissions = s.submissions
  cancellations : t.cancellations = s.cancellations

theorem Evolves.trans {s t u : Session ε} (hst : s.Evolves t) (htu : t.Evolves u) :
    s.Evolves u where
  closed hs := by
    obtain ⟨ht, hstatus, hendings, hvalid⟩ := hst.closed hs
    obtain ⟨hu, hstatus', hendings', hvalid'⟩ := htu.closed ht
    exact ⟨hu, hstatus'.trans hstatus, hendings'.trans hendings, fun h => hvalid' (hvalid h)⟩
  stillOpen hu := by
    obtain ⟨ht, hsubmit, hcancel, hendings⟩ := htu.stillOpen hu
    obtain ⟨hs, hsubmit', hcancel', hendings'⟩ := hst.stillOpen ht
    exact ⟨hs, hsubmit.trans hsubmit', hcancel.trans hcancel', hendings.trans hendings'⟩
  submissions := htu.submissions.trans hst.submissions
  cancellations := htu.cancellations.trans hst.cancellations

/-- A change of the answers and of what is not an end. -/
theorem evolves_of_eq {s t : Session ε} (hclosed : t.isClosed = s.isClosed)
    (hstatus : t.state.status = s.state.status)
    (hvalid : s.state.isValid = true → t.state.isValid = true) (hsubmit : t.onSubmit = s.onSubmit)
    (hcancel : t.onCancel = s.onCancel) (hendings : t.endings = s.endings)
    (hsubmissions : t.submissions = s.submissions)
    (hcancellations : t.cancellations = s.cancellations) : s.Evolves t where
  closed hs := ⟨hclosed.trans hs, hstatus, hendings, hvalid⟩
  stillOpen ht := ⟨hclosed.symm.trans ht, hsubmit, hcancel, hendings⟩
  submissions := hsubmissions
  cancellations := hcancellations

theorem evolves_note (s : Session ε) {e : Event ε} (hsubmission : e.isSubmission = false)
    (hcancellation : e.isCancellation = false) : s.Evolves (s.note e) :=
  evolves_of_eq rfl rfl id rfl rfl (by simp [endings, note, hsubmission, hcancellation])
    (by simp [Session.submissions, note, hsubmission])
    (by simp [Session.cancellations, note, hcancellation])

/-- An open session that is closed now, its ends noted or still to be noted as before. -/
theorem Evolves.ofClosing {s c t : Session ε} (hs : s.isClosed = false) (hc : c.isClosed = true)
    (hsubmissions : c.submissions = s.submissions)
    (hcancellations : c.cancellations = s.cancellations) (hct : c.Evolves t) : s.Evolves t where
  closed h := by rw [hs] at h; cases h
  stillOpen h := by rw [(hct.closed hc).1] at h; cases h
  submissions := hct.submissions.trans hsubmissions
  cancellations := hct.cancellations.trans hcancellations

end Session

/-! ## Whatever is done -/

open Session

/-- No rule at all. -/
def anything : Discipline ε where
  acts _ := True
  reacts _ := True
  ends _ := True
  acts_of_reacts _ := trivial
  acts_of_ends _ _ := trivial
  reacts_of_watch {_ r} _ := Reaction.does_of_forall (fun _ => trivial) r
  acts_of_andThen _ := ⟨trivial, trivial⟩

theorem obeys_anything (s : Session ε) : s.Obeys anything where
  watchers _ _ r _ := Reaction.does_of_forall (fun _ => trivial) r
  onSubmit _ _ _ _ := trivial
  onCancel _ _ _ _ := trivial

theorem Session.Alike.evolves {s t : Session ε} (h : s.Alike t) : s.Evolves t :=
  evolves_of_eq h.isClosed (by rw [h.state]) (by rw [h.state]; exact id) h.onSubmit h.onCancel
    (by rw [endings, h.events, endings])
    (by rw [Session.submissions, h.events, h.onSubmit, Session.submissions])
    (by rw [Session.cancellations, h.events, h.onCancel, Session.cancellations])

section

variable {n : Nat} (hact : Carries anything (Evolves (ε := ε)) (performWithin n)) (s : Session ε)

include hact

theorem acting_evolves : Acting anything (Evolves (ε := ε)) (performWithin n) where
  alike h := h.evolves
  trans := Evolves.trans
  caused s _ := evolves_note s rfl rfl
  acted := hact

theorem evolves_publish : s.Evolves (s.publish (performWithin n)) :=
  (Telling.publish ⟨acting_evolves hact, fun s _ _ => evolves_note s rfl rfl⟩ (obeys_anything s)).2

theorem evolves_change (hs : s.isClosed = false) (f : SessionState → SessionState) :
    s.Evolves (s.change (performWithin n) f) := by
  have hpublish := evolves_publish hact { s with state := f s.state }
  refine ⟨fun h => ?_, hpublish.stillOpen, hpublish.submissions, hpublish.cancellations⟩
  rw [hs] at h
  cases h

theorem evolves_react (action : Option (Action ε)) :
    s.Evolves (s.react (performWithin n) action) :=
  ((acting_evolves hact).react (fun _ _ => trivial) (obeys_anything s)).2

/-- What follows from an end, once it is noted if anybody asked for that. -/
theorem evolves_conclude (event : Event ε) (ending : Option (Ending ε)) :
    ∃ c : Session ε, c.isClosed = s.isClosed
      ∧ c.submissions = s.submissions + (event.isSubmission && ending.isSome).toNat
      ∧ c.cancellations = s.cancellations + (event.isCancellation && ending.isSome).toNat
      ∧ c.Evolves (s.conclude (performWithin n) event ending) := by
  cases ending with
  | none => exact ⟨s, rfl, by simp, by simp, Alike.evolves ⟨rfl, rfl, rfl, rfl, rfl⟩⟩
  | some e =>
    refine ⟨s.note event, rfl, ?_, ?_, evolves_react hact _ e.action⟩
    · rw [Session.submissions, Session.submissions, note, List.countP_cons]
      cases event.isSubmission
      · simp
      · simp
        omega
    · rw [Session.cancellations, Session.cancellations, note, List.countP_cons]
      cases event.isCancellation
      · simp
      · simp
        omega

theorem evolves_submit : s.Evolves (s.submit (performWithin n)).1 := by
  unfold Session.submit
  split
  · exact Alike.evolves ⟨rfl, rfl, rfl, rfl, rfl⟩
  · rename_i hopen
    rw [Bool.not_eq_true] at hopen
    have hchange := evolves_change hact s hopen SessionState.attempted
    simp only []
    split
    · -- whoever was told may have ended the session already; it is closed now in any case
      generalize s.change (performWithin n) SessionState.attempted = t at hchange ⊢
      obtain ⟨c, hclosed, hsubmissions, hcancellations, hc⟩ :=
        evolves_conclude hact { t with isClosed := true, onSubmit := none }
          (.submitted t.state.answers) t.onSubmit
      refine Evolves.ofClosing hopen hclosed ?_ ?_ hc
      · rw [hsubmissions, ← hchange.submissions]
        simp [Session.submissions, Event.isSubmission]
      · rw [hcancellations, ← hchange.cancellations]
        simp [Session.cancellations, Event.isCancellation]
    · exact hchange

theorem evolves_cancel : s.Evolves (s.cancel (performWithin n)) := by
  unfold Session.cancel
  split
  · exact Alike.evolves ⟨rfl, rfl, rfl, rfl, rfl⟩
  · rename_i hopen
    rw [Bool.not_eq_true] at hopen
    have hchange := evolves_change hact s hopen SessionState.cancelled
    simp only []
    generalize s.change (performWithin n) SessionState.cancelled = t at hchange ⊢
    obtain ⟨c, hclosed, hsubmissions, hcancellations, hc⟩ :=
      evolves_conclude hact { t with isClosed := true, onCancel := none } .cancelled t.onCancel
    refine Evolves.ofClosing hopen hclosed ?_ ?_ hc
    · rw [hsubmissions, ← hchange.submissions]
      simp [Session.submissions, Event.isSubmission]
    · rw [hcancellations, ← hchange.cancellations]
      simp [Session.cancellations, Event.isCancellation]

end

theorem kept_evolves : Kept anything (Evolves (ε := ε)) where
  alike h := h.evolves
  trans := Evolves.trans
  told s _ _ := evolves_note s rfl rfl
  caused s _ := evolves_note s rfl rfl
  answered _ name answer :=
    evolves_of_eq rfl (SessionState.status_setAnswer name answer)
      (fun h => SessionState.isValid_setAnswer h name answer) rfl rfl rfl rfl rfl
  registered s field :=
    evolves_of_eq rfl rfl (fun h => SessionState.isValid_register h field s.defaults) rfl rfl rfl
      rfl rfl
  published hact _ := evolves_publish hact _
  submitted _ hact _ := evolves_submit hact _
  cancelled _ hact _ := evolves_cancel hact _

namespace Session

/-- Whatever is done to a session and whatever it causes. -/
theorem evolves_performWithin (n : Nat) (action : Action ε) (s : Session ε) :
    s.Evolves (performWithin n action s).1 :=
  (kept_evolves.performWithin n trivial (obeys_anything s)).2

theorem evolves_runAll : ∀ (actions : List (Action ε)) (s : Session ε),
    s.Evolves (s.runAll actions)
  | [], _ => Alike.evolves ⟨rfl, rfl, rfl, rfl, rfl⟩
  | a :: actions, s => (evolves_performWithin _ a s).trans (evolves_runAll actions _)

theorem evolves_reaction (s : Session ε) (action : Option (Action ε)) :
    s.Evolves (s.react (fun action s => s.run action) action) := by
  cases action with
  | none => exact Alike.evolves ⟨rfl, rfl, rfl, rfl, rfl⟩
  | some a =>
    have hrun := evolves_performWithin (a.weight + s.budget + 1) a s
    exact hrun.trans (evolves_note (s.run a).1 (e := .caused (s.run a).2) rfl rfl)

/-! ## Ended sessions -/

/-- The session has ended: whatever is done to it from now on, it stays closed with its status and
its ends, and neither submitting nor cancelling changes anything about it. -/
def IsOver (s : Session ε) : Prop := ∀ later : List (Action ε),
  let t := s.runAll later
  t.isClosed = true ∧ t.state.status = s.state.status ∧ t.endings = s.endings
    ∧ t.run .submit = (t, .submitted false) ∧ t.run .cancel = (t, .done)

theorem run_submit_of_isClosed {s : Session ε} (h : s.isClosed = true) :
    s.run .submit = (s, .submitted false) := by
  rw [run_eq_perform, perform, submit, if_pos h]

theorem run_cancel_of_isClosed {s : Session ε} (h : s.isClosed = true) :
    s.run .cancel = (s, .done) := by
  rw [run_eq_perform, perform, cancel, if_pos h]

theorem isClosed_run_cancel (s : Session ε) : (s.run .cancel).1.isClosed = true := by
  rw [run_eq_perform, perform, cancel]
  split
  · assumption
  · simp only []
    generalize s.change (fun action s => s.run action) SessionState.cancelled = t
    unfold conclude
    split
    · rfl
    · exact ((evolves_reaction _ _).closed rfl).1

theorem isOver_of_isClosed {s : Session ε} (h : s.isClosed = true) : s.IsOver := by
  intro later
  obtain ⟨hclosed, hstatus, hendings, -⟩ := (evolves_runAll later s).closed h
  exact ⟨hclosed, hstatus, hendings, run_submit_of_isClosed hclosed, run_cancel_of_isClosed hclosed⟩

end Session

end NoteForms
