import NoteForms.Proofs.Quiet

/-!
# Who else watches

Where watchers only read, what one of them is told does not depend on who else begins or stops
watching: two sessions that are alike to a watcher stay so when the same is done in both, and when
anything about watching is done in one of them (`Session.Twins.runAll`).
-/

namespace NoteForms

variable {ε : Type}

/-- Whether an action only begins or stops watching. -/
def Action.isAboutWatching : Action ε → Bool
  | .watch _ _ | .stop _ | .release _ => true
  | _ => false

theorem Action.IsQuiet.reads {focus : Focus} {reaction : Option (Reaction ε)}
    (h : (Action.watch focus reaction).IsQuiet) (view : View) :
    ∀ a ∈ if view.isSelective then reaction.bind (·.action? 0) else none, a.IsReading := by
  refine reading.acts_of_welcome ?_ view
  rintro r rfl
  exact h

namespace Session

variable {s t s' t' : Session ε} {id : Nat}

/-! ## Two sessions side by side -/

/-- Nothing is told to a watcher from one session to another, but it may be stopped. -/
structure Unheard (id : Nat) (s t : Session ε) : Prop where
  becomes : ∀ w ∈ t.watchers, w.id = id → ∃ v ∈ s.watchers, v.Becomes w ∧ w.last = v.last
  told : t.toldTo id = s.toldTo id

theorem Aside.unheard (h : s.Aside t) (id : Nat) : Unheard id s t :=
  ⟨fun w hw _ => h.becomes w hw, h.toldTo id⟩

/-- Two sessions that are alike to a watcher, if it is told of changes in both. -/
structure Twins (id : Nat) (s t : Session ε) : Prop where
  akin : s.Akin t
  hears : ∀ v ∈ s.watchers, v.id = id → v.isActive = true →
    ∀ w ∈ t.watchers, w.id = id → w.isActive = true →
      w.view = v.view ∧ w.last = v.last ∧ t.toldTo id = s.toldTo id

/-- What a watcher needs of a session. -/
structure Tuned (id : Nat) (s : Session ε) : Prop where
  obeys : s.Obeys quiet
  numbered : s.Numbered
  old : id < s.nextWatcher

theorem Twins.unheard (h : Twins id s t) (hs : Unheard id s s') (ht : Unheard id t t')
    (hakin : s'.Akin t') : Twins id s' t' where
  akin := hakin
  hears v' hv' hvid hvactive w' hw' hwid hwactive := by
    obtain ⟨v, hv, hbecomes, hlast⟩ := hs.becomes v' hv' hvid
    obtain ⟨w, hw, hbecomes', hlast'⟩ := ht.becomes w' hw' hwid
    obtain ⟨hview, hsame, htold⟩ := h.hears v hv (hbecomes.id.symm.trans hvid)
      (hbecomes.isActive hvactive) w hw (hbecomes'.id.symm.trans hwid) (hbecomes'.isActive hwactive)
    exact ⟨by rw [hbecomes'.view, hview, hbecomes.view], by rw [hlast', hsame, hlast],
      by rw [ht.told, htold, hs.told]⟩

theorem Twins.publish (h : Twins id s t) (n : Nat) (hs : Tuned id s) (ht : Tuned id t) :
    Twins id (s.publish (performWithin n)) (t.publish (performWithin n)) where
  akin := (shown_publish n hs.obeys.reading hs.numbered).akin.symm.trans
    (h.akin.trans (shown_publish n ht.obeys.reading ht.numbered).akin)
  hears v' hv' hvid hvactive w' hw' hwid hwactive := by
    obtain ⟨v, hv, rfl, htold⟩ := exists_of_mem_publish n hs.obeys.reading hs.numbered hv'
    obtain ⟨w, hw, rfl, htold'⟩ := exists_of_mem_publish n ht.obeys.reading ht.numbered hw'
    rw [(v.becomes_ite_seeing _ _).id] at hvid
    rw [(w.becomes_ite_seeing _ _).id] at hwid
    rw [v.isActive_ite_seeing] at hvactive
    rw [w.isActive_ite_seeing] at hwactive
    obtain ⟨hview, hlast, hsame⟩ := h.hears v hv hvid hvactive w hw hwid hwactive
    rw [hvid, if_pos hvactive] at htold
    rw [hwid, if_pos hwactive] at htold'
    have haware : w.isAware t.state = v.isAware s.state := by
      rw [Watcher.isAware, Watcher.isAware, hview, hlast, h.akin.state]
    refine ⟨?_, ?_, ?_⟩
    · rw [(w.becomes_ite_seeing _ _).view, (v.becomes_ite_seeing _ _).view, hview]
    · rw [if_pos hvactive, if_pos hwactive, Watcher.seeing, Watcher.seeing, haware, hview,
        h.akin.state]
      split
      · exact hlast
      · rfl
    · rw [htold, htold', hsame, Watcher.news, Watcher.news, haware, hview, h.akin.state]

/-! ## Actions about watching -/

theorem Tuned.performWithin (h : Tuned id s) (n : Nat) {a : Action ε} (ha : a.IsQuiet) :
    Tuned id (performWithin n a s).1 where
  obeys := ((kept_obeys quiet).performWithin n ha h.obeys).1
  numbered := (grows_performWithin n a s).numbered h.numbered
  old := Nat.lt_of_lt_of_le h.old (grows_performWithin n a s).nextWatcher

/-- Nothing but the watchers is changed by what is about watching. -/
theorem Akin.ofAbout (s : Session ε) (n : Nat) {a : Action ε} (ha : a.IsQuiet)
    (habout : a.isAboutWatching = true) :
    s.Akin (s.perform (Session.performWithin n) a).1 := by
  cases a with
  | stop _ | release _ =>
    simp only [perform]
    split <;> exact ⟨rfl, rfl, rfl, rfl, rfl, rfl⟩
  | watch focus reaction =>
    simp only [perform]
    split
    · rename_i view _
      have hgreeted : s.Akin (s.greeted view) := by
        unfold greeted
        simp only []
        split <;> exact ⟨rfl, rfl, rfl, rfl, rfl, rfl⟩
      have hakin := (akin_react n (s.greeted view) (ha.reads view)).1
      rw [watch_eq]
      exact hgreeted.trans (hakin.trans ⟨rfl, rfl, rfl, rfl, rfl, rfl⟩)
    · exact ⟨rfl, rfl, rfl, rfl, rfl, rfl⟩
  | _ => cases habout

theorem Unheard.ofAbout (h : Tuned id s) (n : Nat) {a : Action ε} (ha : a.IsQuiet)
    (habout : a.isAboutWatching = true) :
    Unheard id s (s.perform (Session.performWithin n) a).1 := by
  cases a with
  | stop other => exact (aside_stop _ s other).1.unheard id
  | release other => exact (aside_release _ s other).1.unheard id
  | watch focus reaction =>
    simp only [perform]
    split
    · rename_i view _
      have hwatchers := (akin_react n (s.greeted view) (ha.reads view)).2.2
      rw [watch_eq]
      refine ⟨fun w hw hid => ?_, ?_⟩
      · rcases List.mem_append.1 hw with hw | hw
        · rw [welcomed, hwatchers, watchers_greeted] at hw
          exact ⟨w, hw, .refl w, rfl⟩
        · rcases List.mem_singleton.1 hw with rfl
          exact absurd hid (Nat.ne_of_gt h.old)
      · exact ((aside_react n _ (ha.reads view)).toldTo id).trans
          (toldTo_greeted s view (Nat.ne_of_lt h.old))
    · exact (Aside.numbered s).unheard id
  | _ => cases habout

theorem Tuned.change (h : Tuned id s) (n : Nat) (f : SessionState → SessionState) :
    Tuned id (s.change (Session.performWithin n) f) where
  obeys := h.obeys.change ((kept_obeys quiet).performWithin n · · |>.1) f
  numbered := (grows_change (grows_performWithin n) s f).numbered h.numbered
  old := Nat.lt_of_lt_of_le h.old (grows_change (grows_performWithin n) s f).nextWatcher

/-! ## The same done in both -/

theorem Twins.refl (h : s.Numbered) (id : Nat) : Twins id s s := by
  refine ⟨⟨rfl, rfl, rfl, rfl, rfl, rfl⟩, fun v hv hid _ w hw hid' _ => ?_⟩
  rw [h.eq_of_id hw hv (hid'.trans hid.symm)]
  exact ⟨rfl, rfl, rfl⟩

section

variable {n : Nat}

theorem Twins.change (h : Twins id s t) (hs : Tuned id s) (ht : Tuned id t)
    (f : SessionState → SessionState) :
    Twins id (s.change (Session.performWithin n) f) (t.change (Session.performWithin n) f) := by
  have htuned : ∀ {s : Session ε}, Tuned id s → Tuned id { s with state := f s.state } := fun h =>
    ⟨⟨h.obeys.watchers, h.obeys.onSubmit, h.obeys.onCancel⟩,
      (Grows.changedState _ _).numbered h.numbered, h.old⟩
  have hchanged : Twins id { s with state := f s.state } { t with state := f t.state } :=
    ⟨⟨congrArg f h.akin.state, h.akin.fields, h.akin.defaults, h.akin.isClosed, h.akin.onSubmit,
      h.akin.onCancel⟩, h.hears⟩
  exact hchanged.publish n (htuned hs) (htuned ht)

variable (hact : ∀ {a : Action ε}, a.IsQuiet → ∀ {s t : Session ε}, Tuned id s → Tuned id t →
  Twins id s t → Twins id (Session.performWithin n a s).1 (Session.performWithin n a t).1)

include hact

theorem Twins.react (h : Twins id s t) (hs : Tuned id s) (ht : Tuned id t)
    {action : Option (Action ε)} (ha : ∀ a ∈ action, a.IsQuiet) :
    Twins id (s.react (Session.performWithin n) action)
      (t.react (Session.performWithin n) action) := by
  rcases action with _ | a
  · exact h
  · have hdone := hact (ha a rfl) hs ht h
    exact hdone.unheard ((Aside.noted _ fun _ => rfl).unheard id)
      ((Aside.noted _ fun _ => rfl).unheard id)
      ⟨hdone.akin.state, hdone.akin.fields, hdone.akin.defaults, hdone.akin.isClosed,
        hdone.akin.onSubmit, hdone.akin.onCancel⟩

theorem Twins.conclude (h : Twins id s t) (hs : Tuned id s) (ht : Tuned id t) {e e' : Event ε}
    (he : ∀ id, e.toldTo? id = none) (he' : ∀ id, e'.toldTo? id = none)
    {ending : Option (Ending ε)} (ha : ∀ e ∈ ending, ∀ a ∈ e.action, a.IsQuiet) :
    Twins id (s.conclude (Session.performWithin n) e ending)
      (t.conclude (Session.performWithin n) e' ending) := by
  rcases ending with _ | ending
  · exact h
  · have hnoted : Twins id (s.note e) (t.note e') :=
      h.unheard ((Aside.noted s he).unheard id) ((Aside.noted t he').unheard id)
        ⟨h.akin.state, h.akin.fields, h.akin.defaults, h.akin.isClosed, h.akin.onSubmit,
          h.akin.onCancel⟩
    exact hnoted.react hact ⟨⟨hs.obeys.watchers, hs.obeys.onSubmit, hs.obeys.onCancel⟩,
      (Aside.noted s he).grows.numbered hs.numbered, hs.old⟩
      ⟨⟨ht.obeys.watchers, ht.obeys.onSubmit, ht.obeys.onCancel⟩,
        (Aside.noted t he').grows.numbered ht.numbered, ht.old⟩ (ha ending rfl)

theorem Twins.submit (h : Twins id s t) (hs : Tuned id s) (ht : Tuned id t) :
    Twins id (s.submit (Session.performWithin n)).1 (t.submit (Session.performWithin n)).1 := by
  have hchange := h.change (n := n) hs ht SessionState.attempted
  have hs' := hs.change n SessionState.attempted
  have ht' := ht.change n SessionState.attempted
  unfold Session.submit
  rw [h.akin.isClosed, h.akin.state]
  split
  · exact h
  · simp only []
    split
    · rw [hchange.akin.onSubmit]
      refine Twins.conclude hact ?_ ?_ ?_ (fun _ => rfl) (fun _ => rfl) hs'.obeys.onSubmit
      · exact hchange.unheard ((Aside.submitted _).unheard id) ((Aside.submitted _).unheard id)
          ⟨hchange.akin.state, hchange.akin.fields, hchange.akin.defaults, rfl, rfl,
            hchange.akin.onCancel⟩
      · exact ⟨⟨hs'.obeys.watchers, by simp, hs'.obeys.onCancel⟩,
          (Aside.submitted _).grows.numbered hs'.numbered, hs'.old⟩
      · exact ⟨⟨ht'.obeys.watchers, by simp, ht'.obeys.onCancel⟩,
          (Aside.submitted _).grows.numbered ht'.numbered, ht'.old⟩
    · exact hchange

theorem Twins.cancel (h : Twins id s t) (hs : Tuned id s) (ht : Tuned id t) :
    Twins id (s.cancel (Session.performWithin n)) (t.cancel (Session.performWithin n)) := by
  have hchange := h.change (n := n) hs ht SessionState.cancelled
  have hs' := hs.change n SessionState.cancelled
  have ht' := ht.change n SessionState.cancelled
  unfold Session.cancel
  rw [h.akin.isClosed]
  split
  · exact h
  · simp only []
    rw [hchange.akin.onCancel]
    refine Twins.conclude hact ?_ ?_ ?_ (fun _ => rfl) (fun _ => rfl) hs'.obeys.onCancel
    · exact hchange.unheard ((Aside.cancelled _).unheard id) ((Aside.cancelled _).unheard id)
        ⟨hchange.akin.state, hchange.akin.fields, hchange.akin.defaults, rfl,
          hchange.akin.onSubmit, rfl⟩
    · exact ⟨⟨hs'.obeys.watchers, hs'.obeys.onSubmit, by simp⟩,
        (Aside.cancelled _).grows.numbered hs'.numbered, hs'.old⟩
    · exact ⟨⟨ht'.obeys.watchers, ht'.obeys.onSubmit, by simp⟩,
        (Aside.cancelled _).grows.numbered ht'.numbered, ht'.old⟩

theorem Twins.perform (h : Twins id s t) (hs : Tuned id s) (ht : Tuned id t) {a : Action ε}
    (ha : a.IsQuiet) :
    Twins id (s.perform (Session.performWithin n) a).1
      (t.perform (Session.performWithin n) a).1 := by
  by_cases habout : a.isAboutWatching = true
  · exact h.unheard (.ofAbout hs n ha habout) (.ofAbout ht n ha habout)
      ((Akin.ofAbout s n ha habout).symm.trans (h.akin.trans (.ofAbout t n ha habout)))
  -- what is neither about watching nor mere reading does the same to what both sessions share
  by_cases hreading : a.IsReading
  · rw [perform_of_isReading n hreading, perform_of_isReading n hreading]
    exact h
  · cases hedit : a.edit? with
    | some p =>
      obtain ⟨handle, edit⟩ := p
      rw [s.perform_of_edit? _ hedit, t.perform_of_edit? _ hedit]
      unfold withField
      rw [h.akin.fields, h.akin.defaults]
      split
      · exact h.change hs ht _
      · exact h
    | none =>
      cases a with
      | set _ _ | clear _ | update _ _ | updateItems _ _ => cases hedit
      | watch _ _ | stop _ | release _ => exact absurd rfl habout
      | read | answers | refused | refusedAt => exact absurd trivial hreading
      | register field =>
        have hchange := h.change (n := n) hs ht fun state => state.register field s.defaults
        simp only [Session.perform, Session.register, h.akin.defaults]
        exact hchange.unheard ((Aside.handled _ field).unheard id)
          ((Aside.handled _ field).unheard id)
          ⟨hchange.akin.state, by simp only [hchange.akin.fields], hchange.akin.defaults,
            hchange.akin.isClosed, hchange.akin.onSubmit, hchange.akin.onCancel⟩
      | submit => exact h.submit hact hs ht
      | cancel => exact h.cancel hact hs ht
      | andThen first next =>
        exact hact ha.2 (hs.performWithin n ha.1) (ht.performWithin n ha.1)
          (hact ha.1 hs ht h)

end

/-! ## Runs -/

theorem Twins.performWithin : ∀ (n : Nat) {a : Action ε}, a.IsQuiet → ∀ {s t : Session ε},
    Tuned id s → Tuned id t → Twins id s t →
      Twins id (Session.performWithin n a s).1 (Session.performWithin n a t).1
  | 0, _, _, _, _, _, _, h => h
  | n + 1, _, ha, _, _, hs, ht, h => h.perform (performWithin n) hs ht ha

theorem Twins.run (h : Twins id s t) (hs : Tuned id s) (ht : Tuned id t) {a : Action ε}
    (ha : a.IsQuiet) : Twins id (s.run a).1 (t.run a).1 := by
  -- both runs go as deep as either may need
  have hboth := performWithin (a.weight + s.budget + t.budget) ha hs ht h
  rwa [(agrees_run _).eq (by omega), (agrees_run _).eq (by omega)] at hboth

theorem Twins.symm (h : Twins id s t) : Twins id t s where
  akin := h.akin.symm
  hears w hw hid hactive v hv hid' hactive' := by
    obtain ⟨hview, hlast, htold⟩ := h.hears v hv hid' hactive' w hw hid hactive
    exact ⟨hview.symm, hlast.symm, htold.symm⟩

theorem Twins.left (h : Twins id s t) (hs : Tuned id s) {a : Action ε} (ha : a.IsQuiet)
    (habout : a.isAboutWatching = true) : Twins id (s.run a).1 t :=
  h.unheard (.ofAbout hs _ ha habout) ((Aside.still t).unheard id)
    ((Akin.ofAbout s _ ha habout).symm.trans h.akin)

theorem Tuned.run (h : Tuned id s) {a : Action ε} (ha : a.IsQuiet) : Tuned id (s.run a).1 :=
  h.performWithin _ ha

theorem Twins.skip : ∀ (later : List (Action ε)),
    (∀ a ∈ later, a.IsQuiet ∧ a.isAboutWatching = true) → ∀ {t : Session ε}, Tuned id t →
      Twins id s t → Tuned id (t.runAll later) ∧ Twins id s (t.runAll later)
  | [], _, _, ht, h => ⟨ht, h⟩
  | a :: later, hlater, _, ht, h => by
    obtain ⟨⟨ha, habout⟩, hrest⟩ := List.forall_mem_cons.1 hlater
    exact skip later hrest (ht.run ha) (h.symm.left ht ha habout).symm

/-- It is enough that all else is done in the same order in both. -/
theorem Twins.runAll : ∀ (later later' : List (Action ε)), (∀ a ∈ later, a.IsQuiet) →
    (∀ a ∈ later', a.IsQuiet) →
    later.filter (!·.isAboutWatching) = later'.filter (!·.isAboutWatching) →
    ∀ {s t : Session ε}, Tuned id s → Tuned id t → Twins id s t →
      Twins id (s.runAll later) (t.runAll later')
  | [], later', _, hlater', hsame, _, _, _, ht, h => by
    refine (skip later' (fun b hb => ⟨hlater' b hb, ?_⟩) ht h).2
    simpa using List.filter_eq_nil_iff.1 hsame.symm b hb
  | a :: later, later', hlater, hlater', hsame, s, t, hs, ht, h => by
    obtain ⟨ha, hrest⟩ := List.forall_mem_cons.1 hlater
    by_cases habout : a.isAboutWatching = true
    · rw [List.filter_cons_of_neg (by simp [habout])] at hsame
      exact runAll later later' hrest hlater' hsame (hs.run ha) ht (h.left hs ha habout)
    · -- the other run comes to the same action after some that are about watching
      rw [List.filter_cons_of_pos (by simpa using habout)] at hsame
      obtain ⟨before, after, rfl, hbefore, -, hafter⟩ := List.filter_eq_cons_iff.1 hsame.symm
      have hquiet := List.forall_mem_append.1 hlater'
      obtain ⟨ht', h'⟩ :=
        skip before (fun b hb => ⟨hquiet.1 b hb, by simpa using hbefore b hb⟩) ht h
      rw [Session.runAll, Session.runAll, List.foldl_append]
      exact runAll later after hrest (List.forall_mem_cons.1 hquiet.2).2 hafter.symm (hs.run ha)
        (ht'.run ha) (h'.run hs ht' ha)

end Session

end NoteForms
