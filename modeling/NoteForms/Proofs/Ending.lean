import NoteForms.Proofs.Closing

/-!
# How often a session ends

Whatever watchers do, neither end of a session comes twice.  But both may come: a session is closed
only when all were told of its end, so a watcher that is told of a submission can still cancel
(`Session.ends_twice`).  Unless a watcher does such a thing, at most one end comes, and a session
that was ever shown as ended stays as it was shown (`Session.ends_once`).
-/

namespace NoteForms

variable {ε : Type}

/-! ## Shown statuses -/

/-- The status that is seen, if one is. -/
def Sight.status? : Sight → Option SessionStatus
  | .status s => some s
  | .everything s _ _ => some s
  | _ => none

/-- The status that a watcher was told, if it was told one. -/
def Event.shown? : Event ε → Option SessionStatus
  | .told _ sight => sight.status?
  | _ => none

theorem View.status?_look {state : SessionState} {view : View} {shown : SessionStatus}
    (h : (view.look state).status? = some shown) : shown = state.status := by
  cases view with
  | status =>
    cases h
    rfl
  | everything =>
    cases h
    rfl
  | visibility field =>
    simp only [look] at h
    split at h <;> cases h
  | _ => cases h

namespace Session

/-- Whoever was told that the session has ended was told that it has ended in this way. -/
def ShownOnly (status : SessionStatus) (s : Session ε) : Prop :=
  ∀ e ∈ s.events, ∀ shown, e.shown? = some shown → shown = .draft ∨ shown = status

theorem ShownOnly.of_draft {s : Session ε} (h : s.ShownOnly .draft) (status : SessionStatus) :
    s.ShownOnly status := fun e he shown hshown => .inl ((or_self _).mp (h e he shown hshown))

theorem ShownOnly.note {status : SessionStatus} {s : Session ε} (h : s.ShownOnly status)
    {e : Event ε} (he : ∀ shown, e.shown? = some shown → shown = status) :
    (s.note e).ShownOnly status := by
  intro e' he' shown hshown
  rcases List.mem_cons.1 he' with rfl | he'
  · exact .inr (he shown hshown)
  · exact h e' he' shown hshown

end Session

/-! ## Watchers that end nothing -/

mutual

/-- Whether an action ends no session, nor makes watchers do so. -/
def Action.IsHarmless : Action ε → Prop
  | .submit | .cancel => False
  | .watch _ (some r) => r.IsHarmless
  | .andThen first next => first.IsHarmless ∧ next.IsHarmless
  | _ => True

/-- Whether what is done when a watcher is told something ends no session. -/
def Reaction.IsHarmless : Reaction ε → Prop
  | .mk _ _ action => action.IsHarmless
  | .or first other => first.IsHarmless ∧ other.IsHarmless

end

/-- Whether the watchers that an action brings in end no session. -/
def Action.IsCalm : Action ε → Prop
  | .watch _ (some r) => r.IsHarmless
  | .andThen first next => first.IsCalm ∧ next.IsCalm
  | _ => True

theorem Reaction.IsHarmless.does {r : Reaction ε} (h : r.IsHarmless) :
    r.Does Action.IsHarmless := by
  cases r with
  | mk skip times action => exact h
  | or first other => exact ⟨h.1.does, h.2.does⟩

theorem Action.IsHarmless.isCalm {a : Action ε} (h : a.IsHarmless) : a.IsCalm := by
  cases a with
  | watch focus reaction =>
    cases reaction with
    | none => trivial
    | some r => exact h
  | andThen first next => exact ⟨h.1.isCalm, h.2.isCalm⟩
  | _ => trivial

/-- Nothing ends a session. -/
def harmless : Discipline ε where
  acts := Action.IsHarmless
  reacts := Action.IsHarmless
  ends _ := True
  acts_of_reacts := id
  acts_of_ends h := by rcases h with h | h <;> exact h.elim
  reacts_of_watch h := Reaction.IsHarmless.does h
  acts_of_andThen := id

/-- Watchers end no session. -/
def calm : Discipline ε where
  acts := Action.IsCalm
  reacts := Action.IsHarmless
  ends := Action.IsCalm
  acts_of_reacts := Action.IsHarmless.isCalm
  acts_of_ends _ := id
  reacts_of_watch h := Reaction.IsHarmless.does h
  acts_of_andThen := id

namespace Session

theorem Obeys.harmless {s : Session ε} (h : s.Obeys calm) : s.Obeys harmless :=
  ⟨h.watchers, fun _ _ _ _ => trivial, fun _ _ _ _ => trivial⟩

/-- The session goes on, and is shown as it is. -/
structure Keeps (s t : Session ε) : Prop where
  status : t.state.status = s.state.status
  isClosed : t.isClosed = s.isClosed
  onSubmit : t.onSubmit = s.onSubmit
  onCancel : t.onCancel = s.onCancel
  endings : t.endings = s.endings
  shown : s.ShownOnly s.state.status → t.ShownOnly s.state.status

theorem Keeps.trans {s t u : Session ε} (hst : s.Keeps t) (htu : t.Keeps u) : s.Keeps u where
  status := htu.status.trans hst.status
  isClosed := htu.isClosed.trans hst.isClosed
  onSubmit := htu.onSubmit.trans hst.onSubmit
  onCancel := htu.onCancel.trans hst.onCancel
  endings := htu.endings.trans hst.endings
  shown h := by
    have hshown := htu.shown
    rw [hst.status] at hshown
    exact hshown (hst.shown h)

theorem Alike.keeps {s t : Session ε} (h : s.Alike t) : s.Keeps t where
  status := by rw [h.state]
  isClosed := h.isClosed
  onSubmit := h.onSubmit
  onCancel := h.onCancel
  endings := by rw [Session.endings, h.events, Session.endings]
  shown hs := by
    unfold ShownOnly
    rw [h.events]
    exact hs

theorem keeps_told (s : Session ε) (id : Nat) {state : SessionState} (view : View)
    (h : state.status = s.state.status) : s.Keeps (s.note (.told id (view.look state))) :=
  ⟨rfl, rfl, rfl, rfl, rfl, fun hs => hs.note fun _ hshown => (View.status?_look hshown).trans h⟩

theorem keeps_caused (s : Session ε) (reply : Reply ε) : s.Keeps (s.note (.caused reply)) :=
  ⟨rfl, rfl, rfl, rfl, rfl, fun hs => hs.note nofun⟩

/-- Those who are told of a state see its status, as long as nothing changes that. -/
theorem keeps_publish {n : Nat} (hact : Carries harmless Keeps (performWithin (ε := ε) n))
    {s : Session ε} (hs : s.Obeys harmless) : s.Keeps (s.publish (performWithin n)) := by
  have htelling : Telling harmless
      (fun (t u : Session ε) => s.state.status = t.state.status → t.Keeps u)
      (performWithin n) s.state :=
    { alike := fun h _ => h.keeps
      trans := fun htu huv ht => (htu ht).trans (huv (ht.trans (htu ht).status.symm))
      caused := fun t reply _ => keeps_caused t reply
      told := fun t id view ht => keeps_told t id view ht
      acted := fun ha ht => ⟨(hact ha ht).1, fun _ => (hact ha ht).2⟩ }
  exact (htelling.publish hs).2 rfl

theorem kept_keeps : Kept harmless (Keeps (ε := ε)) where
  alike := Alike.keeps
  trans := Keeps.trans
  told s id view := keeps_told s id view rfl
  caused := keeps_caused
  answered _ name answer :=
    ⟨SessionState.status_setAnswer name answer, rfl, rfl, rfl, rfl, id⟩
  registered _ _ := ⟨rfl, rfl, rfl, rfl, rfl, id⟩
  published hact hs := keeps_publish hact hs
  submitted h := h.elim
  cancelled h := h.elim

/-! ## One end at most -/

/-- The session has not ended, or once, and was never shown as ended in another way. -/
structure Settled (s : Session ε) : Prop where
  ongoing : s.isClosed = false → s.state.status = .draft ∧ s.endings = []
  once : s.endings.length ≤ 1
  shown : s.ShownOnly s.state.status

theorem Keeps.settled {s t : Session ε} (h : s.Keeps t) (hs : s.Settled) : t.Settled where
  ongoing ht := by
    rw [h.status, h.endings]
    exact hs.ongoing (h.isClosed.symm.trans ht)
  once := by
    rw [h.endings]
    exact hs.once
  shown := by
    rw [h.status]
    exact h.shown hs.shown

/-- A change of an open session, shown to all. -/
theorem Settled.change {s : Session ε} (h : s.Settled) (hopen : s.isClosed = false)
    (hs : s.Obeys calm) (n : Nat) (f : SessionState → SessionState) :
    Keeps { s with state := f s.state } (s.change (performWithin n) f)
      ∧ (s.change (performWithin n) f).endings = []
      ∧ (s.change (performWithin n) f).ShownOnly (s.change (performWithin n) f).state.status := by
  obtain ⟨hdraft, hnone⟩ := h.ongoing hopen
  have hkeeps : Keeps { s with state := f s.state } (s.change (performWithin n) f) :=
    keeps_publish (kept_keeps.performWithin n) (s := { s with state := f s.state })
      ⟨hs.harmless.watchers, fun _ _ _ _ => trivial, fun _ _ _ _ => trivial⟩
  have hshown : s.ShownOnly .draft := by
    rw [← hdraft]
    exact h.shown
  refine ⟨hkeeps, hkeeps.endings.trans hnone, ?_⟩
  rw [hkeeps.status]
  exact hkeeps.shown (hshown.of_draft _)

section

variable {n : Nat}
  (hact : Carries calm (fun s t : Session ε => s.Settled → t.Settled) (performWithin n))

include hact

theorem acting_settled :
    Acting calm (fun s t : Session ε => s.Settled → t.Settled) (performWithin n) where
  alike h := h.keeps.settled
  trans hst htu hs := htu (hst hs)
  caused s reply := (keeps_caused s reply).settled
  acted := hact

/-- The first end of a session, when all were told of it. -/
theorem settled_conclude {t : Session ε} (hobeys : t.Obeys calm) (hclosed : t.isClosed = true)
    (hnone : t.endings = []) (hshown : t.ShownOnly t.state.status) {e : Event ε}
    (hunshown : e.shown? = none) {ending : Option (Ending ε)}
    (he : ∀ e ∈ ending, ∀ a ∈ e.action, a.IsCalm) :
    (t.conclude (performWithin n) e ending).Settled := by
  have hsettled : t.Settled := by
    refine ⟨fun hopen => absurd (hopen.symm.trans hclosed) Bool.false_ne_true, ?_, hshown⟩
    rw [hnone]
    exact Nat.zero_le _
  have hnoted : (t.note e).Settled := by
    refine ⟨fun hopen => absurd (hopen.symm.trans hclosed) Bool.false_ne_true, ?_,
      hshown.note fun _ h => ?_⟩
    · have hlength : (t.note e).endings.length ≤ t.endings.length + 1 := by
        unfold endings Session.note
        rw [List.filter_cons]
        split <;> simp
      rw [hnone] at hlength
      exact hlength
    · rw [hunshown] at h
      cases h
  exact ((acting_settled hact).conclude hobeys (fun _ => hnoted) he).2 hsettled

theorem settled_submit {s : Session ε} (hs : s.Obeys calm) (h : s.Settled) :
    (s.submit (performWithin n)).1.Settled := by
  unfold submit
  split
  · exact h
  · rename_i hopen
    rw [Bool.not_eq_true] at hopen
    obtain ⟨hkeeps, hnone, hshown⟩ := h.change hopen hs n SessionState.attempted
    have hobeys := hs.change (fun ha hs => (hact ha hs).1) SessionState.attempted
    simp only []
    generalize s.change (performWithin n) SessionState.attempted = t at hkeeps hnone hshown hobeys ⊢
    split
    · exact settled_conclude hact (t := { t with isClosed := true, onSubmit := none })
        ⟨hobeys.watchers, by simp, hobeys.onCancel⟩ rfl hnone hshown
        (e := .submitted t.state.answers) rfl hobeys.onSubmit
    · rename_i hinvalid
      refine ⟨fun _ => ⟨?_, hnone⟩, by simp [hnone], hshown⟩
      rw [hkeeps.status]
      exact if_neg hinvalid

theorem settled_cancel {s : Session ε} (hs : s.Obeys calm) (h : s.Settled) :
    (s.cancel (performWithin n)).Settled := by
  unfold cancel
  split
  · exact h
  · rename_i hopen
    rw [Bool.not_eq_true] at hopen
    obtain ⟨hkeeps, hnone, hshown⟩ := h.change hopen hs n SessionState.cancelled
    have hobeys := hs.change (fun ha hs => (hact ha hs).1) SessionState.cancelled
    simp only []
    generalize s.change (performWithin n) SessionState.cancelled = t at hkeeps hnone hshown hobeys ⊢
    exact settled_conclude hact (t := { t with isClosed := true, onCancel := none })
      ⟨hobeys.watchers, hobeys.onSubmit, by simp⟩ rfl hnone hshown (e := .cancelled) rfl
      hobeys.onCancel

end

theorem kept_settled : Kept calm (fun s t : Session ε => s.Settled → t.Settled) where
  alike h := h.keeps.settled
  trans hst htu hs := htu (hst hs)
  told s id view := (kept_keeps.told s id view).settled
  caused s reply := (kept_keeps.caused s reply).settled
  answered s name answer := (kept_keeps.answered s name answer).settled
  registered s field := (kept_keeps.registered s field).settled
  published _ hs := (keeps_publish (kept_keeps.performWithin _) hs.harmless).settled
  submitted _ hact hs := settled_submit hact hs
  cancelled _ hact hs := settled_cancel hact hs

theorem Settled.runAll : ∀ {actions : List (Action ε)} {s : Session ε}, s.Settled → s.Obeys calm →
    (∀ a ∈ actions, a.IsCalm) → (s.runAll actions).Settled
  | [], _, h, _, _ => h
  | a :: actions, s, h, hs, hcalm => by
    have ha := hcalm a List.mem_cons_self
    have hrun : (s.run a).1.Settled := (kept_settled.performWithin _ ha hs).2 h
    exact hrun.runAll (hs.run ha) fun b hb => hcalm b (List.mem_cons_of_mem _ hb)

/-- Neither end of a session comes twice.  If watchers end no session, at most one of both comes,
and whatever end anybody was told of, or that is there between two actions, is there for good. -/
theorem ends_once (defaults : Answers) (onSubmit onCancel : Option (Ending ε))
    (actions : List (Action ε)) :
    let s := (start defaults onSubmit onCancel).runAll actions
    s.events.countP Event.isSubmission ≤ 1 ∧ s.events.countP Event.isCancellation ≤ 1
      ∧ ((∀ e ∈ onSubmit, ∀ a ∈ e.action, a.IsCalm) → (∀ e ∈ onCancel, ∀ a ∈ e.action, a.IsCalm) →
        (∀ a ∈ actions, a.IsCalm) →
        s.endings.length ≤ 1
          ∧ (∀ e ∈ s.events, ∀ shown, e.shown? = some shown → shown ≠ .draft →
            s.state.status = shown)
          ∧ (s.state.status ≠ .draft →
            ∀ later, (s.runAll later).state.status = s.state.status)) := by
  intro s
  have hevolves : (start defaults onSubmit onCancel).Evolves s := evolves_runAll actions _
  refine ⟨?_, ?_, fun hsubmit hcancel hactions => ?_⟩
  · have hcount := hevolves.submissions
    have hgiven := Bool.toNat_le onSubmit.isSome
    simp only [submissions, start, List.countP_nil] at hcount
    omega
  · have hcount := hevolves.cancellations
    have hgiven := Bool.toNat_le onCancel.isSome
    simp only [cancellations, start, List.countP_nil] at hcount
    omega
  · have hobeys : (start defaults onSubmit onCancel).Obeys calm :=
      ⟨fun w hw => absurd hw List.not_mem_nil, hsubmit, hcancel⟩
    have hstart : (start defaults onSubmit onCancel).Settled :=
      ⟨fun _ => ⟨rfl, rfl⟩, Nat.zero_le _, fun e he => absurd he List.not_mem_nil⟩
    have hsettled : s.Settled := hstart.runAll hobeys hactions
    refine ⟨hsettled.once, fun e he shown hshown hended => ?_, fun hended later => ?_⟩
    · rcases hsettled.shown e he shown hshown with hdraft | hstatus
      · exact absurd hdraft hended
      · exact hstatus.symm
    · cases hclosed : s.isClosed with
      | false => exact absurd (hsettled.ongoing hclosed).1 hended
      | true => exact ((evolves_runAll later s).closed hclosed).2.1

/-- A watcher that writes when it is told of the submission, and attempts to end the session again
when that is done. -/
theorem ends_once_with_writer :
    let name : Field := ⟨"name", none, "", .basic .text none, none, none⟩
    let s : Session Unit := (start ∅ (some ⟨some .cancel⟩) (some ⟨none⟩)).runAll
      [.register name, .watch (.session .status) (some (.mk 1 1 (.set 0 (.text "Ada")))), .submit,
        .cancel]
    s.endings.length ≤ 1 ∧ s.state.status = .submitted
      ∧ ∀ later, (s.runAll later).state.status = .submitted := by
  intro name s
  have hstatus : s.state.status = .submitted := by decide +kernel
  obtain ⟨-, -, h⟩ := ends_once ∅ (some ⟨some .cancel⟩) (some ⟨none⟩)
    [.register name, .watch (.session .status) (some (.mk 1 1 (.set 0 (.text "Ada")))), .submit,
      (.cancel : Action Unit)]
  obtain ⟨honce, -, hstays⟩ := h (by simp [Action.IsCalm]) (by simp)
    (by simp [Action.IsCalm, Reaction.IsHarmless, Action.IsHarmless])
  exact ⟨honce, hstatus, fun later => (hstays (by decide +kernel) later).trans hstatus⟩

/-- A watcher that cancels when it is told of the submission: both ends come, and the status that
was told is replaced. -/
theorem ends_twice :
    let name : Field := ⟨"n", none, "", .basic .text none, none, none⟩
    let s : Session Unit := (start ∅ (some ⟨none⟩) (some ⟨none⟩)).runAll
      [.register name, .watch (.session .status) (some (.mk 1 1 .cancel)), .submit]
    s.events.countP Event.isSubmission = 1 ∧ s.events.countP Event.isCancellation = 1
      ∧ (s.events.filterMap Event.shown?).reverse = [.draft, .submitted, .cancelled]
      ∧ s.state.status = .cancelled := by
  decide +kernel

end Session

end NoteForms
