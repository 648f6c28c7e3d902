import NoteForms.Proofs.Moments
import NoteForms.Proofs.Submission

/-!
# Rounds of telling in which nothing is done

Where watchers only read, all that a round of telling leaves behind is what each of them remembers
and was told (`Session.shown_publish`), and so nothing happens to the state in the moments of it
(`Session.isIdle_whileTelling`).
-/

namespace NoteForms

variable {ε : Type}

namespace Watcher

variable (w : Watcher ε) (snapshot : SessionState)

/-- Whether a state shows nothing new to a watcher that is only told of changes. -/
def isAware : Bool := w.view.isSelective && w.last = some (w.view.look snapshot)

/-- A watcher that has seen a state. -/
def seeing : Watcher ε := if w.isAware snapshot then w else w.informed (w.view.look snapshot)

/-- What a watcher that sees a state is told. -/
def news : List Sight := if w.isAware snapshot then [] else [w.view.look snapshot]

theorem becomes_seeing : w.Becomes (w.seeing snapshot) := by
  unfold seeing
  split
  · exact .refl w
  · exact becomes_informed _ w

theorem becomes_ite_seeing (p : Prop) [Decidable p] :
    w.Becomes (if p then w.seeing snapshot else w) := by
  split
  · exact w.becomes_seeing snapshot
  · exact .refl w

theorem isActive_ite_seeing (p : Prop) [Decidable p] :
    (if p then w.seeing snapshot else w).isActive = w.isActive := by
  unfold seeing
  repeat' split
  all_goals rfl

theorem last_seeing (h : w.view.isSelective = true) :
    (w.seeing snapshot).last = some (w.view.look snapshot) := by
  unfold seeing isAware
  split
  · simp_all
  · rfl

end Watcher

namespace Session

variable {s t u : Session ε}

/-- Whether a watcher is told of changes. -/
def isWatching (s : Session ε) (id : Nat) : Bool := s.watchers.any fun w => w.id = id && w.isActive

theorem isWatching_iff {id : Nat} :
    s.isWatching id = true ↔ ∃ w ∈ s.watchers, w.id = id ∧ w.isActive = true := by
  simp [isWatching]

theorem isWatching_of_map {f : Watcher ε → Watcher ε} (ht : t.watchers = s.watchers.map f)
    (hf : ∀ w : Watcher ε, (f w).id = w.id ∧ (f w).isActive = w.isActive) (id : Nat) :
    t.isWatching id = s.isWatching id := by
  simp only [isWatching, ht, List.any_map, Function.comp_def, hf]

theorem isWatching_informed (s : Session ε) (id other : Nat) (sight : Sight) :
    (s.informed id sight).isWatching other = s.isWatching other :=
  isWatching_of_map rfl (fun w => by dsimp only; split <;> exact ⟨rfl, rfl⟩) other

/-! ## Reading -/

theorem performWithin_of_isReading : ∀ (n : Nat) {a : Action ε}, a.IsReading → ∀ s : Session ε,
    (performWithin n a s).1 = s
  | 0, _, _, _ => rfl
  | n + 1, a, ha, s => by
    cases a with
    | read | refusedAt =>
      rw [performWithin, perform]
      split <;> rfl
    | answers | refused => rfl
    | andThen first next =>
      rw [performWithin, perform, performWithin_of_isReading n ha.1,
        performWithin_of_isReading n ha.2]
    | _ => exact ha.elim

theorem perform_of_isReading (n : Nat) {a : Action ε} (ha : a.IsReading) (s : Session ε) :
    (s.perform (performWithin n) a).1 = s := performWithin_of_isReading (n + 1) ha s

theorem momentsWithin_of_isReading : ∀ (n : Nat) {a : Action ε}, a.IsReading → ∀ s : Session ε,
    ∀ m ∈ momentsWithin n a s, m.deed = none ∧ m.session = s
  | 0, _, _, _, _, hm => absurd hm List.not_mem_nil
  | n + 1, a, ha, s, m, hm => by
    have hsame := performWithin_of_isReading (n + 1) ha s
    cases a with
    | read | refusedAt | answers | refused =>
      rcases List.mem_singleton.1 hm with rfl
      exact ⟨rfl, hsame⟩
    | andThen first next =>
      rcases List.mem_append.1 hm with hm | hm
      · exact momentsWithin_of_isReading n ha.1 s m hm
      · rw [performWithin_of_isReading n ha.1] at hm
        exact momentsWithin_of_isReading n ha.2 s m hm
    | _ => exact ha.elim

/-- All but the watchers and what has happened is the same. -/
structure Akin (s t : Session ε) : Prop where
  state : t.state = s.state
  fields : t.fields = s.fields
  defaults : t.defaults = s.defaults
  isClosed : t.isClosed = s.isClosed
  onSubmit : t.onSubmit = s.onSubmit
  onCancel : t.onCancel = s.onCancel

theorem Akin.trans (hst : s.Akin t) (htu : t.Akin u) : s.Akin u :=
  ⟨htu.state.trans hst.state, htu.fields.trans hst.fields, htu.defaults.trans hst.defaults,
    htu.isClosed.trans hst.isClosed, htu.onSubmit.trans hst.onSubmit,
    htu.onCancel.trans hst.onCancel⟩

theorem Akin.symm (h : s.Akin t) : t.Akin s :=
  ⟨h.state.symm, h.fields.symm, h.defaults.symm, h.isClosed.symm, h.onSubmit.symm, h.onCancel.symm⟩

/-- Reading is noted if it was caused, and no more. -/
theorem react_of_isReading (n : Nat) (s : Session ε) {action : Option (Action ε)}
    (ha : ∀ a ∈ action, a.IsReading) :
    s.react (performWithin n) action = s
      ∨ ∃ reply, s.react (performWithin n) action = s.note (.caused reply) := by
  rcases action with _ | a
  · exact .inl rfl
  · refine .inr ⟨(performWithin n a s).2, ?_⟩
    simp only [react, performWithin_of_isReading n (ha a rfl)]

theorem aside_react (n : Nat) (s : Session ε) {action : Option (Action ε)}
    (ha : ∀ a ∈ action, a.IsReading) : s.Aside (s.react (performWithin n) action) := by
  rcases react_of_isReading n s ha with h | ⟨reply, h⟩ <;> rw [h]
  · exact .still s
  · exact .noted s fun _ => rfl

theorem akin_react (n : Nat) (s : Session ε) {action : Option (Action ε)}
    (ha : ∀ a ∈ action, a.IsReading) :
    s.Akin (s.react (performWithin n) action)
      ∧ (s.react (performWithin n) action).nextWatcher = s.nextWatcher
      ∧ (s.react (performWithin n) action).watchers = s.watchers := by
  rcases react_of_isReading n s ha with h | ⟨reply, h⟩ <;> rw [h] <;>
    exact ⟨⟨rfl, rfl, rfl, rfl, rfl, rfl⟩, rfl, rfl⟩

/-! ## Showing a state -/

/-- Some have been shown a state, and nothing else was done. -/
structure Shown (snapshot : SessionState) (ids : List Nat) (s t : Session ε) : Prop where
  akin : s.Akin t
  nextWatcher : t.nextWatcher = s.nextWatcher
  watchers : t.watchers = s.watchers.map fun w => if w.id ∈ ids then w.seeing snapshot else w
  told : ∀ w ∈ s.watchers,
    t.toldTo w.id = s.toldTo w.id ++ if w.id ∈ ids then w.news snapshot else []
  silent : ∀ id, id ∉ s.watchers.map (·.id) → t.toldTo id = s.toldTo id

variable {snapshot : SessionState}

theorem Shown.numbered {ids : List Nat} (h : Shown snapshot ids s t) (hs : s.Numbered) :
    t.Numbered := by
  have hmap := hs.map fun w : Watcher ε => w.becomes_ite_seeing snapshot (w.id ∈ ids)
  exact ⟨h.watchers ▸ hmap.nodup, fun w hw => h.nextWatcher ▸ hmap.lt w (h.watchers ▸ hw),
    h.watchers ▸ hmap.begun⟩

theorem Shown.obeys {D : Discipline ε} {ids : List Nat} (h : Shown snapshot ids s t)
    (hs : s.Obeys D) : t.Obeys D := by
  refine ⟨fun w hw => ?_, h.akin.onSubmit ▸ hs.onSubmit, h.akin.onCancel ▸ hs.onCancel⟩
  rw [h.watchers] at hw
  obtain ⟨v, hv, rfl⟩ := List.mem_map.1 hw
  rw [(v.becomes_ite_seeing snapshot (v.id ∈ ids)).reaction]
  exact hs.watchers v hv

theorem Shown.isWatching {ids : List Nat} (h : Shown snapshot ids s t) (id : Nat) :
    t.isWatching id = s.isWatching id :=
  isWatching_of_map h.watchers (fun w => ⟨(w.becomes_ite_seeing snapshot (w.id ∈ ids)).id,
    w.isActive_ite_seeing snapshot (w.id ∈ ids)⟩) id

/-- Those who come later are shown the same after those who came first. -/
theorem Shown.append {ids more : List Nat} (hst : Shown snapshot ids s t)
    (htu : Shown snapshot more t u) (hnew : ∀ id ∈ ids, id ∉ more) :
    Shown snapshot (ids ++ more) s u where
  akin := hst.akin.trans htu.akin
  nextWatcher := htu.nextWatcher.trans hst.nextWatcher
  watchers := by
    rw [htu.watchers, hst.watchers, List.map_map]
    refine List.map_congr_left fun w _ => ?_
    have hid := (w.becomes_seeing snapshot).id
    by_cases hfirst : w.id ∈ ids
    · simp [hfirst, hid, hnew _ hfirst]
    · simp [hfirst]
  told w hw := by
    -- the watcher as it is in between: as it was, unless it is one of the first
    obtain ⟨v, hv, hid, hsame⟩ : ∃ v ∈ t.watchers, v.id = w.id ∧ (w.id ∉ ids → v = w) :=
      ⟨_, hst.watchers ▸ List.mem_map_of_mem hw,
        (w.becomes_ite_seeing snapshot (w.id ∈ ids)).id, fun h => if_neg h⟩
    rw [← hid, htu.told v hv, hid, hst.told w hw]
    by_cases hfirst : w.id ∈ ids
    · simp [hfirst, hnew _ hfirst]
    · simp [hfirst, hsame hfirst]
  silent id hid := by
    rw [htu.silent id, hst.silent id hid]
    rw [hst.watchers, map_id_map fun w => w.becomes_ite_seeing snapshot (w.id ∈ ids)]
    exact hid

theorem shown_of_isAware {ids : List Nat}
    (h : ∀ w ∈ s.watchers, w.id ∈ ids → w.isAware snapshot = true) : Shown snapshot ids s s where
  akin := ⟨rfl, rfl, rfl, rfl, rfl, rfl⟩
  nextWatcher := rfl
  watchers := by
    conv_lhs => rw [← List.map_id s.watchers]
    refine List.map_congr_left fun w hw => ?_
    by_cases hid : w.id ∈ ids
    · simp [hid, Watcher.seeing, h w hw hid]
    · simp [hid]
  told w hw := by
    by_cases hid : w.id ∈ ids
    · simp [hid, Watcher.news, h w hw hid]
    · simp [hid]
  silent _ _ := rfl

theorem shown_informed (hs : s.Numbered) {w : Watcher ε} (hw : w ∈ s.watchers)
    (hnew : w.isAware snapshot = false) :
    Shown snapshot [w.id] s (s.informed w.id (w.view.look snapshot)) where
  akin := ⟨rfl, rfl, rfl, rfl, rfl, rfl⟩
  nextWatcher := rfl
  watchers := by
    refine List.map_congr_left fun v hv => ?_
    by_cases hid : v.id = w.id
    · simp [hs.eq_of_id hv hw hid, Watcher.seeing, hnew]
    · simp [hid]
  told v hv := by
    rw [toldTo_informed]
    by_cases hid : v.id = w.id
    · simp [hs.eq_of_id hv hw hid, Watcher.news, hnew]
    · simp [hid, Ne.symm hid]
  silent id hid := by
    rw [toldTo_informed, if_neg, List.append_nil]
    rintro rfl
    exact hid (List.mem_map_of_mem hw)

theorem Shown.react {ids : List Nat} (h : Shown snapshot ids s t) (n : Nat)
    {action : Option (Action ε)} (ha : ∀ a ∈ action, a.IsReading) :
    Shown snapshot ids s (t.react (performWithin n) action) := by
  have htold := (aside_react n t ha).toldTo
  obtain ⟨hakin, hnext, hwatchers⟩ := akin_react n t ha
  exact ⟨h.akin.trans hakin, hnext.trans h.nextWatcher, hwatchers.trans h.watchers,
    fun w hw => (htold w.id).trans (h.told w hw), fun id hid => (htold id).trans (h.silent id hid)⟩

theorem shown_inform (n : Nat) (snapshot : SessionState) (hs : s.Obeys reading)
    (hnumbered : s.Numbered) (id : Nat) :
    Shown snapshot [id] s (s.inform (performWithin n) snapshot id) := by
  unfold inform
  cases hw : s.watcher? id with
  | none =>
    refine shown_of_isAware fun w hmem hid => ?_
    rw [← List.mem_singleton.1 hid, hnumbered.watcher?_eq hmem] at hw
    cases hw
  | some w =>
    obtain rfl := watcher?_id hw
    have hmem := List.mem_of_find?_eq_some hw
    simp only []
    split
    · rename_i haware
      refine shown_of_isAware fun v hv hid => ?_
      rw [hnumbered.eq_of_id hv hmem (List.mem_singleton.1 hid)]
      exact haware
    · rename_i hnew
      exact (shown_informed hnumbered hmem (Bool.not_eq_true _ ▸ hnew)).react n
        (reading.acts_of_reaction (hs.watchers w hmem) w.count)

theorem shown_informAll (n : Nat) (snapshot : SessionState) : ∀ {ids : List Nat}, ids.Nodup →
    ∀ {s : Session ε}, s.Obeys reading → s.Numbered →
      Shown snapshot ids s (ids.foldl (fun t id => t.inform (performWithin n) snapshot id) s)
  | [], _, s, _, _ => shown_of_isAware (by simp)
  | id :: ids, hids, s, hs, hnumbered => by
    obtain ⟨hid, hids⟩ := List.nodup_cons.1 hids
    have hfirst := shown_inform n snapshot hs hnumbered id
    have hrest := shown_informAll n snapshot hids (hfirst.obeys hs) (hfirst.numbered hnumbered)
    exact hfirst.append hrest (by simpa using hid)

theorem mem_audience_iff (hs : s.Numbered) {w : Watcher ε} (hw : w ∈ s.watchers) :
    w.id ∈ s.audience ↔ w.isActive = true := by
  constructor
  · intro hmem
    obtain ⟨v, hv, hid⟩ := List.mem_map.1 hmem
    obtain ⟨hv, hactive⟩ := List.mem_filter.1 hv
    exact hs.eq_of_id hv hw hid ▸ hactive
  · exact fun hactive => List.mem_map_of_mem (List.mem_filter.2 ⟨hw, hactive⟩)

/-- A round of telling shows the state to all that are told of changes. -/
theorem shown_publish (n : Nat) (hs : s.Obeys reading) (hnumbered : s.Numbered) :
    Shown s.state s.audience s (s.publish (performWithin n)) :=
  shown_informAll n s.state hnumbered.nodup_audience hs hnumbered

theorem exists_of_mem_publish (n : Nat) (hs : s.Obeys reading) (hnumbered : s.Numbered)
    {w : Watcher ε} (hw : w ∈ (s.publish (performWithin n)).watchers) :
    ∃ v ∈ s.watchers, w = (if v.isActive then v.seeing s.state else v)
      ∧ (s.publish (performWithin n)).toldTo v.id
        = s.toldTo v.id ++ if v.isActive then v.news s.state else [] := by
  have hshown := shown_publish n hs hnumbered
  rw [hshown.watchers] at hw
  obtain ⟨v, hv, rfl⟩ := List.mem_map.1 hw
  refine ⟨v, hv, ?_, ?_⟩
  · simp only [mem_audience_iff hnumbered hv]
  · simp only [hshown.told v hv, mem_audience_iff hnumbered hv]

end Session

/-! ## Moments in which nothing is done -/

/-- At a moment the state of a session is as it was, and the same are told of changes. -/
structure Moment.IsIdle (s : Session ε) (m : Moment ε) : Prop where
  deed : m.deed = none
  state : m.session.state = s.state
  watching : ∀ id, m.session.isWatching id = s.isWatching id

theorem Moment.IsIdle.since {s t : Session ε} {m : Moment ε} (h : m.IsIdle t)
    (hstate : t.state = s.state) (hwatching : ∀ id, t.isWatching id = s.isWatching id) :
    m.IsIdle s :=
  ⟨h.deed, h.state.trans hstate, fun id => (h.watching id).trans (hwatching id)⟩

namespace Session

variable {s : Session ε}

theorem isIdle_whileReacting (n : Nat) (s : Session ε) {action : Option (Action ε)}
    (ha : ∀ a ∈ action, a.IsReading) :
    ∀ m ∈ s.whileReacting (performWithin n) (momentsWithin n) action, m.IsIdle s := by
  intro m hm
  rcases action with _ | a
  · exact absurd hm List.not_mem_nil
  · rcases List.mem_append.1 hm with hm | hm
    · obtain ⟨hdeed, hsame⟩ := momentsWithin_of_isReading n (ha a rfl) s m hm
      exact ⟨hdeed, by rw [hsame], fun _ => by rw [hsame]⟩
    · rcases List.mem_singleton.1 hm with rfl
      rcases react_of_isReading n s ha with hsame | ⟨reply, hnoted⟩
      · exact ⟨rfl, by rw [Moment.of, hsame], fun _ => by rw [Moment.of, hsame]⟩
      · exact ⟨rfl, by rw [Moment.of, hnoted]; rfl, fun _ => by rw [Moment.of, hnoted]; rfl⟩

theorem isIdle_whileInforming (n : Nat) (hs : s.Obeys reading) (snapshot : SessionState)
    (id : Nat) :
    ∀ m ∈ s.whileInforming (performWithin n) (momentsWithin n) snapshot id, m.IsIdle s := by
  intro m hm
  unfold whileInforming at hm
  split at hm
  · exact absurd hm List.not_mem_nil
  · rename_i w hw
    simp only [] at hm
    split at hm
    · exact absurd hm List.not_mem_nil
    · have hwatching := fun other => isWatching_informed s id other (w.view.look snapshot)
      have hreads := reading.acts_of_reaction (hs.watchers w (List.mem_of_find?_eq_some hw)) w.count
      rcases List.mem_cons.1 hm with rfl | hm
      · exact ⟨rfl, rfl, hwatching⟩
      · exact (isIdle_whileReacting n _ hreads m hm).since rfl hwatching

theorem isIdle_whileTelling (n : Nat) (snapshot : SessionState) : ∀ (ids : List Nat)
    {s : Session ε}, s.Obeys reading → s.Numbered →
    ∀ m ∈ whileTelling (performWithin n) (momentsWithin n) snapshot ids s, m.IsIdle s
  | [], _, _, _, _, hm => absurd hm List.not_mem_nil
  | id :: ids, s, hs, hnumbered, m, hm => by
    have hfirst := shown_inform n snapshot hs hnumbered id
    rcases List.mem_append.1 hm with hm | hm
    · exact isIdle_whileInforming n hs snapshot id m hm
    · have hrest := isIdle_whileTelling n snapshot ids (hfirst.obeys hs) (hfirst.numbered hnumbered)
      exact (hrest m hm).since hfirst.akin.state hfirst.isWatching

end Session

end NoteForms
