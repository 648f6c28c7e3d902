import NoteForms.Proofs.Bystanders
import NoteForms.Proofs.Convergence
import NoteForms.Proofs.Ending
import NoteForms.Proofs.Unwatched

/-!
# The order of filling in

What is done to one field leaves the others as they are, and takes only that field into account.  So
what a session comes to while it is filled in depends only on what was done to each field in turn,
and not on how that was interleaved (`Deed.applyAll_eq`, `Session.filled_in_any_order`).
-/

namespace NoteForms

variable {ε : Type}

namespace Deed

variable (defaults : Answers) {name : String} {s t : SessionState}

/-- Only the field itself is taken into account. -/
theorem get?_apply_congr (deed : Deed) (h : s.fields.get? name = t.fields.get? name) :
    (deed.apply defaults s).fields.get? name = (deed.apply defaults t).fields.get? name := by
  cases deed with
  | registered field => simp only [apply, SessionState.get?_register, h]
  | answered other edit =>
    simp only [apply, SessionState.get?_setAnswer, h]
    by_cases hname : other = name
    · subst hname
      simp only [SessionState.answer?, h]
    · simp [hname]
  | attempted => simp only [apply, SessionState.get?_attempted, h]
  | cancelled => exact h

variable {deed : Deed}

/-- Another field stays as it is. -/
theorem get?_apply_ne (hdeed : deed.name?.isSome = true) (hname : deed.name? ≠ some name)
    (s : SessionState) : (deed.apply defaults s).fields.get? name = s.fields.get? name := by
  cases deed with
  | registered field =>
    rw [apply, SessionState.get?_register, if_neg fun h => hname (congrArg some h)]
  | answered other edit =>
    exact SessionState.get?_setAnswer_ne s (fun h => hname (congrArg some h)) _
  | attempted | cancelled => cases hdeed

theorem status_apply (hdeed : deed.name?.isSome = true) (s : SessionState) :
    (deed.apply defaults s).status = s.status := by
  cases deed with
  | registered field => rfl
  | answered other edit => exact SessionState.status_setAnswer other _
  | attempted | cancelled => cases hdeed

/-! ## One thing after the other -/

/-- The state when all of some is done, one after the other. -/
def applyAll (deeds : List Deed) (s : SessionState) : SessionState :=
  deeds.foldl (fun s deed => deed.apply defaults s) s

theorem applyAll_append (deeds more : List Deed) (s : SessionState) :
    applyAll defaults (deeds ++ more) s = applyAll defaults more (applyAll defaults deeds s) :=
  List.foldl_append

theorem get?_applyAll_congr : ∀ (deeds : List Deed) {s t : SessionState},
    s.fields.get? name = t.fields.get? name →
    (applyAll defaults deeds s).fields.get? name = (applyAll defaults deeds t).fields.get? name
  | [], _, _, h => h
  | deed :: deeds, _, _, h => get?_applyAll_congr deeds (get?_apply_congr defaults deed h)

/-- A field comes out as if nothing had been done to others. -/
theorem get?_applyAll (name : String) : ∀ {deeds : List Deed},
    (∀ deed ∈ deeds, deed.name?.isSome = true) → ∀ s : SessionState,
    (applyAll defaults deeds s).fields.get? name
      = (applyAll defaults (deeds.filter (·.name? = some name)) s).fields.get? name
  | [], _, _ => rfl
  | deed :: deeds, h, s => by
    obtain ⟨hdeed, hrest⟩ := List.forall_mem_cons.1 h
    have ih := get?_applyAll name hrest (deed.apply defaults s)
    by_cases hname : deed.name? = some name
    · rw [List.filter_cons_of_pos (by simpa using hname)]
      exact ih
    · rw [List.filter_cons_of_neg (by simpa using hname)]
      exact ih.trans (get?_applyAll_congr defaults _ (get?_apply_ne defaults hdeed hname s))

/-- The same is done to each field in the same order. -/
def SameByName (deeds deeds' : List Deed) : Prop :=
  ∀ name : String, deeds.filter (·.name? = some name) = deeds'.filter (·.name? = some name)

theorem status_applyAll : ∀ {deeds : List Deed}, (∀ deed ∈ deeds, deed.name?.isSome = true) →
    ∀ s : SessionState, (applyAll defaults deeds s).status = s.status
  | [], _, _ => rfl
  | deed :: deeds, h, s => by
    obtain ⟨hdeed, hrest⟩ := List.forall_mem_cons.1 h
    exact (status_applyAll hrest _).trans (status_apply defaults hdeed s)

/-- What is done to fields comes to the same in any order that keeps the order for each field. -/
theorem applyAll_eq {deeds deeds' : List Deed} (h : ∀ deed ∈ deeds, deed.name?.isSome = true)
    (h' : ∀ deed ∈ deeds', deed.name?.isSome = true) (hsame : SameByName deeds deeds')
    (s : SessionState) : applyAll defaults deeds s = applyAll defaults deeds' s := by
  have hstatus : (applyAll defaults deeds s).status = (applyAll defaults deeds' s).status := by
    rw [status_applyAll defaults h, status_applyAll defaults h']
  have hfields : (applyAll defaults deeds s).fields = (applyAll defaults deeds' s).fields := by
    refine Table.ext_get? fun name => ?_
    rw [get?_applyAll defaults name h, get?_applyAll defaults name h', hsame name]
  calc applyAll defaults deeds s
      = ⟨(applyAll defaults deeds s).status, (applyAll defaults deeds s).fields⟩ := rfl
    _ = applyAll defaults deeds' s := by rw [hstatus, hfields]

end Deed

/-! ## What is done in a run -/

namespace Session

variable {s t : Session ε}

/-- The state has come of what was done to it. -/
structure ComesOf (s : Session ε) (ms : List (Moment ε)) (t : Session ε) : Prop where
  defaults : t.defaults = s.defaults
  state : t.state = Deed.applyAll s.defaults (deedsOf ms) s.state

theorem Aside.comesOf (h : s.Aside t) : ComesOf s [.of t] t := by
  cases h <;> exact ⟨rfl, rfl⟩

theorem comesOf_greeted (s : Session ε) (view : View) :
    ComesOf s [.of (s.greeted view)] (s.greeted view) := by
  unfold greeted
  simp only []
  split <;> exact ⟨rfl, rfl⟩

theorem composable_comesOf : Composable (ComesOf (ε := ε)) :=
  .ofAside (fun _ => ⟨rfl, rfl⟩)
    (fun hst htu => by
      refine ⟨htu.defaults.trans hst.defaults, ?_⟩
      rw [htu.state, hst.defaults, hst.state, deedsOf_append, Deed.applyAll_append])
    Aside.comesOf

theorem stepwise_comesOf (D : Discipline ε) : Stepwise D (ComesOf (ε := ε)) where
  toComposable := composable_comesOf
  deeper h := ⟨h.defaults, by rw [deedsOf_deeper, h.state]⟩
  did _ := ⟨rfl, rfl⟩
  informed _ _ := ⟨rfl, rfl⟩
  greeted := comesOf_greeted
  joined _ _ := ⟨rfl, rfl⟩

/-- From one moment of a run to a later one the state comes of what is done between them. -/
theorem comesOf_between {D : Discipline ε} (hs : s.Obeys D) {actions : List (Action ε)}
    (hactions : ∀ a ∈ actions, D.acts a) {before between after : List (Moment ε)}
    {m m' : Moment ε}
    (heq : .of s :: s.allMoments actions = before ++ m :: (between ++ m' :: after)) :
    ComesOf m.session (between ++ [m']) m'.session := by
  have heq' : .of s :: s.allMoments actions = (before ++ m :: between) ++ m' :: after := by
    rw [heq, List.append_assoc, List.cons_append]
  have hm := (stepwise_comesOf D).upTo hs hactions heq
  have hm' := (stepwise_comesOf D).upTo hs hactions heq'
  refine ⟨hm'.defaults.trans hm.defaults.symm, ?_⟩
  calc m'.session.state
      = Deed.applyAll s.defaults (deedsOf ((before ++ [m]) ++ (between ++ [m']))) s.state := by
        rw [hm'.state]
        simp
    _ = Deed.applyAll m.session.defaults (deedsOf (between ++ [m'])) m.session.state := by
        rw [deedsOf_append, Deed.applyAll_append, hm.defaults, hm.state]

/-- While nothing ends the session, whatever is done is done to some field. -/
theorem stepwise_named : Stepwise harmless fun (_ : Session ε) ms _ =>
    ∀ deed ∈ deedsOf ms, deed.name?.isSome = true where
  toComposable := .ofAside (fun _ _ h => absurd h List.not_mem_nil)
    (fun hst htu deed h => by
      rw [deedsOf_append] at h
      exact (List.mem_append.1 h).elim (hst deed) (htu deed))
    fun _ _ h => absurd h List.not_mem_nil
  deeper h := by
    rw [deedsOf_deeper]
    exact h
  did {_ deed} hadmits deed' h := by
    rcases List.mem_singleton.1 h with rfl
    cases deed' with
    | registered | answered => rfl
    | attempted | cancelled => exact hadmits.1.elim
  informed _ _ _ h := absurd h List.not_mem_nil
  greeted _ _ _ h := absurd h List.not_mem_nil
  joined _ _ _ h := absurd h List.not_mem_nil

/-! ## Submitting what was filled in -/

theorem keeps_runAll : ∀ {actions : List (Action ε)} {s : Session ε}, s.Obeys harmless →
    (∀ a ∈ actions, a.IsHarmless) → s.Keeps (s.runAll actions)
  | [], _, _, _ => Alike.keeps ⟨rfl, rfl, rfl, rfl, rfl⟩
  | _ :: _, _, hs, h => by
    obtain ⟨ha, hrest⟩ := List.forall_mem_cons.1 h
    exact (kept_keeps.performWithin _ ha hs).2.trans (keeps_runAll (hs.run ha) hrest)

theorem run_submit_eq (s : Session ε) :
    s.run .submit = s.submit (performWithin (1 + s.budget)) := by
  have hweight : (Action.submit : Action ε).weight = 1 := by simp [Action.weight]
  rw [run, hweight]
  rfl

/-- Nothing has ended the session, and no watcher will. -/
structure Ongoing (s : Session ε) : Prop where
  obeys : s.Obeys harmless
  isOpen : s.isClosed = false
  noEnd : s.endings = []

theorem Ongoing.runAll (h : s.Ongoing) {actions : List (Action ε)}
    (hactions : ∀ a ∈ actions, a.IsHarmless) : (s.runAll actions).Ongoing where
  obeys := h.obeys.runAll hactions
  isOpen := (keeps_runAll h.obeys hactions).isClosed.trans h.isOpen
  noEnd := (keeps_runAll h.obeys hactions).endings.trans h.noEnd

theorem ongoing_start (defaults : Answers) (onSubmit onCancel : Option (Ending ε)) :
    (start defaults onSubmit onCancel).Ongoing where
  obeys := ⟨fun _ hw => absurd hw List.not_mem_nil, fun _ _ _ _ => trivial, fun _ _ _ _ => trivial⟩
  isOpen := rfl
  noEnd := rfl

theorem defaults_runAll (hs : s.Obeys harmless) {actions : List (Action ε)}
    (hactions : ∀ a ∈ actions, a.IsHarmless) : (s.runAll actions).defaults = s.defaults :=
  ((stepwise_comesOf harmless).piecewise.allMoments hs hactions).defaults

/-- What was done in two runs settles what they come to. -/
theorem state_runAll_eq (hs : s.Obeys harmless) {actions actions' : List (Action ε)}
    (hactions : ∀ a ∈ actions, a.IsHarmless) (hactions' : ∀ a ∈ actions', a.IsHarmless)
    (hsame : Deed.SameByName (deedsOf (s.allMoments actions)) (deedsOf (s.allMoments actions'))) :
    (s.runAll actions).state = (s.runAll actions').state := by
  have hcomes := (stepwise_comesOf harmless).piecewise.allMoments hs hactions
  have hcomes' := (stepwise_comesOf harmless).piecewise.allMoments hs hactions'
  have hnamed := stepwise_named.piecewise.allMoments hs hactions
  have hnamed' := stepwise_named.piecewise.allMoments hs hactions'
  rw [hcomes.state, hcomes'.state, Deed.applyAll_eq _ hnamed hnamed' hsame]

/-- The moments from an attempt to submit until all were told of it. -/
def whileAttempting (s : Session ε) : List (Moment ε) :=
  s.whileChanging (performWithin (1 + s.budget)) (momentsWithin (1 + s.budget)) .attempted

theorem reply_submit (h : s.Ongoing) :
    (s.run .submit).2 = .submitted s.state.checkAll.isValid := by
  rw [run_submit_eq, submit, if_neg (by simp [h.isOpen])]
  cases s.state.checkAll.isValid <;> rfl

theorem endings_conclude (hclosed : t.isClosed = true) (hnone : t.endings = []) (n : Nat)
    (answers : Answers) (ending : Option (Ending ε)) :
    (t.conclude (performWithin n) (.submitted answers) ending).endings
      = (ending.map fun _ => .submitted answers).toList := by
  rcases ending with _ | e
  · exact hnone
  · have hreact :=
      evolves_react (kept_evolves.performWithin n) (t.note (.submitted answers)) e.action
    obtain ⟨-, -, hkept, -⟩ := hreact.closed hclosed
    refine hkept.trans ?_
    show Event.submitted answers :: t.endings = [.submitted answers]
    rw [hnone]

theorem endings_submit (h : s.Ongoing) :
    (s.run .submit).1.endings = if s.state.checkAll.isValid then
      (s.onSubmit.map fun _ => .submitted
        (s.change (performWithin (1 + s.budget)) SessionState.attempted).state.answers).toList
      else [] := by
  have hkeeps := keeps_publish (kept_keeps.performWithin (1 + s.budget))
    (s := { s with state := s.state.attempted })
    ⟨h.obeys.watchers, h.obeys.onSubmit, h.obeys.onCancel⟩
  rw [run_submit_eq, submit, if_neg (by simp [h.isOpen])]
  simp only []
  split
  · rw [← hkeeps.onSubmit]
    refine endings_conclude ?_ ?_ _ _ _
    · rfl
    · exact hkeeps.endings.trans h.noEnd
  · exact hkeeps.endings.trans h.noEnd

/-- Whatever watchers do while they are told of an attempt to submit, the answers come of it. -/
theorem exists_attempted (hs : s.Obeys harmless) :
    ∃ deeds : List Deed, (∀ deed ∈ deeds, deed.name?.isSome = true)
      ∧ deedsOf s.whileAttempting = .attempted :: deeds
      ∧ (s.change (performWithin (1 + s.budget)) SessionState.attempted).state
        = Deed.applyAll s.defaults deeds s.state.attempted := by
  let t : Session ε := { s with state := s.state.attempted }
  have hobeys : t.Obeys harmless := ⟨hs.watchers, hs.onSubmit, hs.onCancel⟩
  have hcomes := (stepwise_comesOf harmless).telling
    ((stepwise_comesOf harmless).piecewise.performWithin (1 + s.budget)) t.state t.audience hobeys
  have hnamed := stepwise_named.telling
    (stepwise_named.piecewise.performWithin (1 + s.budget)) t.state t.audience hobeys
  exact ⟨_, hnamed, congrArg (Deed.attempted :: ·) (deedsOf_deeper _), hcomes.state⟩

/-- The same is handed over if the same is done to each field while all are told. -/
theorem endings_submit_eq {s' : Session ε} (h : s.Ongoing) (h' : s'.Ongoing)
    (hstate : s.state = s'.state) (hdefaults : s.defaults = s'.defaults)
    (honSubmit : s.onSubmit = s'.onSubmit)
    (hsame : Deed.SameByName (deedsOf s.whileAttempting) (deedsOf s'.whileAttempting)) :
    (s.run .submit).1.endings = (s'.run .submit).1.endings := by
  obtain ⟨deeds, hnamed, hdeeds, hattempted⟩ := exists_attempted h.obeys
  obtain ⟨deeds', hnamed', hdeeds', hattempted'⟩ := exists_attempted h'.obeys
  have hrest : Deed.SameByName deeds deeds' := fun name => by
    have hname := hsame name
    rw [hdeeds, hdeeds'] at hname
    simpa [Deed.name?] using hname
  rw [endings_submit h, endings_submit h', hattempted, hattempted', hstate, hdefaults, honSubmit,
    Deed.applyAll_eq _ hnamed hnamed' hrest]

/-- Two runs in which the same was done to each field come to the same. -/
theorem Ongoing.same_of_sameByName (h : s.Ongoing) {actions actions' : List (Action ε)}
    (hactions : ∀ a ∈ actions, a.IsHarmless) (hactions' : ∀ a ∈ actions', a.IsHarmless)
    (hsame : Deed.SameByName (deedsOf (s.allMoments actions)) (deedsOf (s.allMoments actions'))) :
    (s.runAll actions).state = (s.runAll actions').state
      ∧ ((s.runAll actions).run .submit).2 = ((s.runAll actions').run .submit).2
      ∧ (Deed.SameByName (deedsOf (s.runAll actions).whileAttempting)
          (deedsOf (s.runAll actions').whileAttempting) →
        ((s.runAll actions).run .submit).1.endings
          = ((s.runAll actions').run .submit).1.endings) := by
  have ht := h.runAll hactions
  have ht' := h.runAll hactions'
  have hstate := state_runAll_eq h.obeys hactions hactions' hsame
  have hdefaults :=
    (defaults_runAll h.obeys hactions).trans (defaults_runAll h.obeys hactions').symm
  have honSubmit := (keeps_runAll h.obeys hactions).onSubmit.trans
    (keeps_runAll h.obeys hactions').onSubmit.symm
  refine ⟨hstate, ?_, endings_submit_eq ht ht' hstate hdefaults honSubmit⟩
  rw [reply_submit ht, reply_submit ht', hstate]

/-! ## Filling in while watchers only read -/

end Session

/-- What an action does to fields where these are there, and which are there then. -/
def Action.plan (fields : List Field) : Action ε → List Deed × List Field
  | .register field => ([.registered field], fields ++ [field])
  | .andThen first next =>
    ((first.plan fields).1 ++ (next.plan (first.plan fields).2).1,
      (next.plan (first.plan fields).2).2)
  | a =>
    (match a.edit? with
      | some (handle, edit) => (fields[handle]?.map fun f => .answered f.name (edit f)).toList
      | none => [], fields)

/-- What actions do to fields, one after the other. -/
def planAll (fields : List Field) : List (Action ε) → List Deed
  | [] => []
  | a :: actions => (a.plan fields).1 ++ planAll (a.plan fields).2 actions

theorem Action.plan_of_edit? {a : Action ε} {handle : Nat}
    {edit : Field → Option Answer → Option Answer} (h : a.edit? = some (handle, edit))
    (fields : List Field) :
    a.plan fields
      = ((fields[handle]?.map fun f => Deed.answered f.name (edit f)).toList, fields) := by
  cases a with
  | set | clear | update | updateItems =>
    cases h
    rfl
  | _ => cases h

theorem Action.IsReading.isHarmless {a : Action ε} (h : a.IsReading) : a.IsHarmless := by
  cases a with
  | andThen first next => exact ⟨h.1.isHarmless, h.2.isHarmless⟩
  | watch | submit | cancel => exact h.elim
  | _ => trivial

/-- Nothing ends the session, and watchers only read. -/
def filling : Discipline ε where
  acts a := a.IsHarmless ∧ a.IsQuiet
  reacts := Action.IsReading
  ends _ := True
  acts_of_reacts h := ⟨h.isHarmless, h.isQuiet⟩
  acts_of_ends h := by rcases h with h | h <;> exact h.1.elim
  reacts_of_watch h := h.2
  acts_of_andThen h := ⟨⟨h.1.1, h.2.1⟩, h.1.2, h.2.2⟩

namespace Session

variable {s : Session ε}

theorem reads_of_filling (h : s.Obeys filling) : s.Obeys reading :=
  ⟨h.watchers, h.onSubmit, h.onCancel⟩

theorem deedsOf_whileChanging (n : Nat) (hs : s.Obeys reading) (hnumbered : s.Numbered)
    (deed : Deed) :
    deedsOf (s.whileChanging (performWithin n) (momentsWithin n) deed) = [deed] := by
  let t : Session ε := { s with state := deed.apply s.defaults s.state }
  have hidle := isIdle_whileTelling n t.state t.audience
    (⟨hs.watchers, hs.onSubmit, hs.onCancel⟩ : t.Obeys reading)
    ((Grows.changedState s _).numbered hnumbered)
  refine (congrArg (deed :: ·) (deedsOf_deeper _)).trans (congrArg _ ?_)
  exact deedsOf_eq_nil fun m hm => (hidle m hm).deed

theorem deedsOf_whileAttempting (hs : s.Obeys filling) (hnumbered : s.Numbered) :
    deedsOf s.whileAttempting = [.attempted] :=
  deedsOf_whileChanging _ (reads_of_filling hs) hnumbered .attempted

theorem fields_change (n : Nat) (hs : s.Obeys reading) (hnumbered : s.Numbered)
    (f : SessionState → SessionState) : (s.change (performWithin n) f).fields = s.fields :=
  (shown_publish n (s := { s with state := f s.state }) ⟨hs.watchers, hs.onSubmit, hs.onCancel⟩
    ((Grows.changedState s _).numbered hnumbered)).akin.fields

theorem deedsOf_watch (n : Nat) (s : Session ε) {focus : Focus} {reaction : Option (Reaction ε)}
    (ha : (Action.watch focus reaction).IsQuiet) :
    deedsOf (momentsWithin (n + 1) (.watch focus reaction) s) = [] := by
  refine deedsOf_eq_nil fun m hm => ?_
  simp only [momentsWithin, whilePerforming, Action.edit?] at hm
  split at hm
  · rename_i view _
    rcases List.mem_append.1 hm with hm | hm
    · rcases List.mem_cons.1 hm with rfl | hm
      · rfl
      · exact (isIdle_whileReacting n _ (ha.reads view) m hm).deed
    · rcases List.mem_singleton.1 hm with rfl
      rfl
  · rcases List.mem_singleton.1 hm with rfl
    rfl

/-- What is done is what the actions say.  The bound on how deep actions cause others is reached by
nothing that is done one after the other. -/
theorem deedsOf_momentsWithin : ∀ (n : Nat) {a : Action ε}, filling.acts a → a.weight ≤ n →
    ∀ {s : Session ε}, s.Obeys filling → s.Numbered →
      deedsOf (momentsWithin n a s) = (a.plan s.fields).1
        ∧ (performWithin n a s).1.fields = (a.plan s.fields).2
  | 0, a, _, hn, _, _, _ => absurd a.weight_pos (by omega)
  | n + 1, a, ha, hn, s, hs, hnumbered => by
    have hread : a.IsReading → (performWithin (n + 1) a s).1 = s := fun h =>
      performWithin_of_isReading (n + 1) h s
    cases hedit : a.edit? with
    | some p =>
      obtain ⟨handle, edit⟩ := p
      rw [Action.plan_of_edit? hedit]
      simp only [performWithin, momentsWithin, whilePerforming, hedit, s.perform_of_edit? _ hedit,
        withField]
      cases s.fields[handle]? with
      | some field =>
        exact ⟨deedsOf_whileChanging n (reads_of_filling hs) hnumbered _,
          fields_change n (reads_of_filling hs) hnumbered _⟩
      | none => exact ⟨rfl, rfl⟩
    | none =>
      cases a with
      | set _ _ | clear _ | update _ _ | updateItems _ _ => cases hedit
      | watch focus reaction =>
        exact ⟨deedsOf_watch n s ha.2, (Akin.ofAbout s n ha.2 rfl).fields⟩
      | stop | release => exact ⟨rfl, (Akin.ofAbout s n ha.2 rfl).fields⟩
      | read | answers | refused | refusedAt =>
        exact ⟨rfl, congrArg Session.fields (hread trivial)⟩
      | submit | cancel => exact ha.1.elim
      | register field =>
        refine ⟨?_, congrArg (· ++ [field]) (fields_change n (reads_of_filling hs) hnumbered _)⟩
        refine (deedsOf_append _ _).trans ?_
        rw [deedsOf_whileChanging n (reads_of_filling hs) hnumbered]
        rfl
      | andThen first next =>
        simp only [Action.weight] at hn
        have hfirst := filling.acts_of_andThen ha
        obtain ⟨hdeeds, hfields⟩ := deedsOf_momentsWithin n hfirst.1 (by omega) hs hnumbered
        obtain ⟨hdeeds', hfields'⟩ := deedsOf_momentsWithin n hfirst.2 (by omega)
          ((kept_obeys filling).performWithin n hfirst.1 hs).1
          ((grows_performWithin n first s).numbered hnumbered)
        rw [hfields] at hdeeds' hfields'
        refine ⟨(deedsOf_append _ _).trans ?_, hfields'⟩
        rw [hdeeds, hdeeds']
        rfl

theorem deedsOf_allMoments : ∀ {actions : List (Action ε)}, (∀ a ∈ actions, filling.acts a) →
    ∀ {s : Session ε}, s.Obeys filling → s.Numbered →
      deedsOf (s.allMoments actions) = planAll s.fields actions
  | [], _, _, _, _ => rfl
  | a :: actions, h, s, hs, hnumbered => by
    obtain ⟨ha, hrest⟩ := List.forall_mem_cons.1 h
    obtain ⟨hdeeds, hfields⟩ := deedsOf_momentsWithin (a.weight + s.budget + 1) ha (by omega) hs
      hnumbered
    rw [allMoments, deedsOf_append, hdeeds, deedsOf_allMoments hrest (hs.run ha)
      ((grows_performWithin _ a s).numbered hnumbered)]
    exact congrArg (_ ++ planAll · actions) hfields

/-- Let fields be filled in, and nothing be submitted or cancelled meanwhile, with the same done to
each field in the same order, watchers included.  However that is interleaved, it comes to the same
state, and a submission is accepted alike; and the same answers are handed over if the same is done
to each field while all are told of that.  If watchers only read, it is enough that the actions say
the same of each field.  An answer may be made of the one before in any way. -/
theorem filled_in_any_order (defaults : Answers) (onSubmit onCancel : Option (Ending ε)) :
    (∀ deeds deeds' : List Deed, (∀ deed ∈ deeds, deed.name?.isSome = true) →
      (∀ deed ∈ deeds', deed.name?.isSome = true) → Deed.SameByName deeds deeds' →
      ∀ s, Deed.applyAll defaults deeds s = Deed.applyAll defaults deeds' s)
    ∧ ∀ actions actions' : List (Action ε), (∀ a ∈ actions, a.IsHarmless) →
      (∀ a ∈ actions', a.IsHarmless) →
      let s₀ := start defaults onSubmit onCancel
      let s := s₀.runAll actions
      let s' := s₀.runAll actions'
      (Deed.SameByName (deedsOf (s₀.allMoments actions)) (deedsOf (s₀.allMoments actions')) →
        s.state = s'.state ∧ (s.run .submit).2 = (s'.run .submit).2
        ∧ (Deed.SameByName (deedsOf s.whileAttempting) (deedsOf s'.whileAttempting) →
          (s.run .submit).1.endings = (s'.run .submit).1.endings))
      ∧ ((∀ a ∈ actions, a.IsQuiet) → (∀ a ∈ actions', a.IsQuiet) →
        Deed.SameByName (planAll [] actions) (planAll [] actions') →
        s.state = s'.state ∧ (s.run .submit).2 = (s'.run .submit).2
        ∧ (s.run .submit).1.endings = (s'.run .submit).1.endings) := by
  refine ⟨fun deeds deeds' h h' hsame s => Deed.applyAll_eq defaults h h' hsame s, ?_⟩
  intro actions actions' hactions hactions' s₀ s s'
  have hdone := (ongoing_start defaults onSubmit onCancel).same_of_sameByName hactions hactions'
  refine ⟨hdone, fun hquiet hquiet' hplan => ?_⟩
  have hnumbered : s₀.Numbered := numbered_start defaults onSubmit onCancel
  have hfilling : s₀.Obeys filling :=
    ⟨fun _ hw => absurd hw List.not_mem_nil, fun _ _ _ _ => trivial, fun _ _ _ _ => trivial⟩
  have hacts : ∀ a ∈ actions, filling.acts a := fun a ha => ⟨hactions a ha, hquiet a ha⟩
  have hacts' : ∀ a ∈ actions', filling.acts a := fun a ha => ⟨hactions' a ha, hquiet' a ha⟩
  obtain ⟨hstate, hreply, hendings⟩ := hdone <| by
    rw [deedsOf_allMoments hacts hfilling hnumbered, deedsOf_allMoments hacts' hfilling hnumbered]
    exact hplan
  refine ⟨hstate, hreply, hendings ?_⟩
  -- nothing but the attempt itself is done while watchers are told of it
  rw [deedsOf_whileAttempting (hfilling.runAll hacts) (hnumbered.runAll actions),
    deedsOf_whileAttempting (hfilling.runAll hacts') (hnumbered.runAll actions')]
  exact fun _ => rfl

/-- A title and tags, filled in one after the other and in turns while the tags are watched. -/
theorem filled_in_any_order_in_turns :
    let title : Field := ⟨"title", none, "", .basic .text none, some true, none⟩
    let tags : Field := ⟨"tags", none, "", .tag none, none, none⟩
    let s₀ : Session Unit := start ∅ (some ⟨none⟩) none
    let s := s₀.runAll
      [.register title, .set 0 (.text "Tea"), .register tags, .push 1 "green", .push 1 "hot"]
    let s' := s₀.runAll
      [.register tags, .watch (.field 0 .answer) (some (.mk 0 9 .answers)), .push 0 "green",
        .register title, .push 0 "hot", .set 1 (.text "Tea")]
    (s.state = s'.state ∧ (s.run .submit).2 = (s'.run .submit).2
      ∧ (s.run .submit).1.endings = (s'.run .submit).1.endings)
    ∧ s'.state.answers = .ofList [("tags", .list ["green", "hot"]), ("title", .text "Tea")]
    ∧ (s'.run .submit).1.isClosed = true := by
  intro title tags s₀ s s'
  refine ⟨?_, by decide +kernel, by decide +kernel⟩
  refine ((filled_in_any_order ∅ (some ⟨none⟩) none).2
    [.register title, .set 0 (.text "Tea"), .register tags, .push 1 "green", .push 1 "hot"]
    [.register tags, .watch (.field 0 .answer) (some (.mk 0 9 .answers)), .push 0 "green",
      .register title, .push 0 "hot", .set 1 (.text "Tea")]
    (by simp [Action.IsHarmless]) (by simp [Action.IsHarmless, Reaction.IsHarmless])).2
    (by simp [Action.IsQuiet])
    (by simp [Action.IsQuiet, Reaction.Does, Action.IsReading]) fun name => ?_
  by_cases htitle : name = "title"
  · simp [planAll, Action.plan, Action.edit?, Deed.name?, htitle, title, tags]
  · by_cases htags : name = "tags"
    · simp [planAll, Action.plan, Action.edit?, Deed.name?, htags, title, tags]
    · simp [planAll, Action.plan, Action.edit?, Deed.name?, Ne.symm htitle, Ne.symm htags, title,
        tags]

end Session

end NoteForms
