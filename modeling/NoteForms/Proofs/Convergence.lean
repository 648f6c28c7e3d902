import NoteForms.Proofs.Watchers

/-!
# What watchers come to know

A watcher that changes the state while others are being told of a change has them told of its own
change first, and of the older one after that.  So whoever stands behind it may be left with a
state that is gone, and so may a watcher that changes the state before it has come in
(`Session.left_behind`).  Nothing else leaves a watcher behind: if those in front of it do nothing
to the state when they are told of a change, and it did nothing to it when it came in, then it was
told last what there is now, whatever those behind it do (`Session.told_last`).
-/

namespace NoteForms

variable {ε : Type}

/-! ## Doing nothing to the state -/

/-- Whether an action that is skipped so often, and then done so many times, is done the first time
that a watcher is told something. -/
def isDueFirst (skip times : Nat) : Bool := skip = 0 && 0 < times

/-- Whether it is done when a watcher that has been told something so many times is told more. -/
def isDueFrom (least skip times : Nat) : Bool := least < skip + times

mutual

/-- Whether an action does nothing to the state. -/
def Action.isStill : Action ε → Bool
  | .read _ | .answers | .watch _ none | .stop _ | .release _ | .refused _ | .refusedAt _ _ => true
  | .watch _ (some r) => r.isStillWhen isDueFirst
  | .andThen first next => first.isStill && next.isStill
  | _ => false

/-- Whether what is due of a reaction does nothing to the state. -/
def Reaction.isStillWhen (due : Nat → Nat → Bool) : Reaction ε → Bool
  | .mk skip times action => !due skip times || action.isStill
  | .or first other => first.isStillWhen due && other.isStillWhen due

end

theorem isDueFirst_of_le {skip times : Nat} (hskip : skip ≤ 0) (htimes : 0 < skip + times) :
    isDueFirst skip times = true := by
  rw [isDueFirst, Bool.and_eq_true, decide_eq_true_eq, decide_eq_true_eq]
  omega

theorem isDueFrom_of_le {least count skip times : Nat} (hle : least ≤ count)
    (h : isDueFrom count skip times = true) : isDueFrom least skip times = true := by
  rw [isDueFrom, decide_eq_true_eq] at h ⊢
  omega

namespace Reaction

variable {due : Nat → Nat → Bool} {count : Nat}

theorem isStillWhen_mono {due' : Nat → Nat → Bool}
    (hdue : ∀ {skip times}, due' skip times = true → due skip times = true) :
    ∀ {r : Reaction ε}, r.isStillWhen due = true → r.isStillWhen due' = true
  | .mk skip times action, h => by
    rw [isStillWhen, Bool.or_eq_true] at h ⊢
    refine h.imp_left fun hnot => ?_
    cases hdue' : due' skip times with
    | false => rfl
    | true =>
      rw [hdue hdue'] at hnot
      cases hnot
  | .or first other, h => by
    obtain ⟨hfirst, hother⟩ := Bool.and_eq_true_iff.1 h
    exact Bool.and_eq_true_iff.2 ⟨isStillWhen_mono hdue hfirst, isStillWhen_mono hdue hother⟩

variable (hdue : ∀ {skip times}, skip ≤ count → count < skip + times → due skip times = true)

include hdue

theorem isStill_of_action? {a : Action ε} :
    ∀ {r : Reaction ε}, r.isStillWhen due = true → r.action? count = some a → a.isStill = true
  | .mk skip times action, h, ha => by
    rw [action?] at ha
    split at ha
    · rename_i hcount
      cases ha
      rw [isStillWhen, hdue hcount.1 hcount.2] at h
      exact h
    · cases ha
  | .or first other, h, ha => by
    obtain ⟨hfirst, hother⟩ := Bool.and_eq_true_iff.1 h
    rcases Option.or_eq_some_iff.1 ha with ha | ⟨-, ha⟩
    · exact isStill_of_action? hfirst ha
    · exact isStill_of_action? hother ha

theorem all_isStill {reaction : Option (Reaction ε)}
    (h : reaction.all (·.isStillWhen due) = true) :
    (reaction.bind (·.action? count)).all (·.isStill) = true := by
  cases reaction with
  | none => rfl
  | some r =>
    rw [Option.bind_some]
    cases haction : r.action? count with
    | none => rfl
    | some a => exact isStill_of_action? hdue h haction

end Reaction

namespace Watcher

variable {v w : Watcher ε}

/-- Whether a watcher does nothing to the state when it is told something for the first time. -/
def beginsStill (w : Watcher ε) : Bool := (w.reaction.bind (·.action? 0)).all (·.isStill)

/-- Whether a watcher that has been told something so many times does nothing to the state when it
is told more. -/
def isStillFrom (w : Watcher ε) (least : Nat) : Bool :=
  w.reaction.all (·.isStillWhen (isDueFrom least))

/-- Whether a watcher does nothing to the state when it is told of a change. -/
def isStill (w : Watcher ε) : Bool := w.isStillFrom (if w.view.isSelective then 1 else 0)

/-- Whether a watcher does nothing to the state any more. -/
def staysStill (w : Watcher ε) : Bool := w.isStillFrom w.count

theorem isStillFrom_mono {least count : Nat} (hle : least ≤ count)
    (h : w.isStillFrom least = true) : w.isStillFrom count = true := by
  unfold isStillFrom at h ⊢
  cases hreaction : w.reaction with
  | none => rfl
  | some r =>
    rw [hreaction] at h
    exact Reaction.isStillWhen_mono (isDueFrom_of_le hle) h

theorem Becomes.beginsStill_eq (h : v.Becomes w) : w.beginsStill = v.beginsStill := by
  rw [beginsStill, beginsStill, h.reaction]

theorem Becomes.isStillFrom_eq (h : v.Becomes w) (least : Nat) :
    w.isStillFrom least = v.isStillFrom least := by
  rw [isStillFrom, isStillFrom, h.reaction]

theorem Becomes.isStill_eq (h : v.Becomes w) : w.isStill = v.isStill := by
  rw [isStill, isStill, h.isStillFrom_eq, h.view]

theorem Becomes.staysStill (h : v.Becomes w) (hv : v.staysStill = true) : w.staysStill = true :=
  isStillFrom_mono h.count ((h.isStillFrom_eq v.count).trans hv)

theorem all_isStill_of_staysStill (h : w.staysStill = true) :
    (w.reaction.bind (·.action? w.count)).all (·.isStill) = true :=
  Reaction.all_isStill (fun _ hlt => decide_eq_true hlt) h

end Watcher

namespace Session

variable {s t : Session ε}

section

variable {act : Action ε → Session ε → Session ε × Reply ε}
  (hact : ∀ {a s}, a.isStill = true → (act a s).1.state = s.state)

include hact

theorem state_react (s : Session ε) {action : Option (Action ε)}
    (h : action.all (·.isStill) = true) : (s.react act action).state = s.state := by
  cases action with
  | none => rfl
  | some a => exact hact h

theorem state_watch (s : Session ε) (view : View) {reaction : Option (Reaction ε)}
    (h : (reaction.bind (·.action? 0)).all (·.isStill) = true) :
    (watch act { s with nextWatcher := s.nextWatcher + 1 } s.nextWatcher view reaction).1.state
      = s.state := by
  rw [watch_eq, join]
  refine (state_react hact _ ?_).trans (state_greeted s view)
  split
  · exact h
  · rfl

theorem state_perform (s : Session ε) {action : Action ε} (h : action.isStill = true) :
    (s.perform act action).1.state = s.state := by
  cases action with
  | read handle =>
    simp only [perform]
    split <;> rfl
  | answers => rfl
  | watch focus reaction =>
    have hreaction : reaction.all (·.isStillWhen isDueFirst) = true := by
      cases reaction with
      | none => rfl
      | some r => exact h
    simp only [perform]
    split
    · exact state_watch hact s _ (Reaction.all_isStill isDueFirst_of_le hreaction)
    · rfl
  | stop id =>
    simp only [perform]
    split <;> rfl
  | release id =>
    simp only [perform]
    split <;> rfl
  | refused reason => rfl
  | refusedAt handle reason =>
    simp only [perform]
    split <;> rfl
  | andThen first next =>
    obtain ⟨hfirst, hnext⟩ := Bool.and_eq_true_iff.1 h
    exact (hact hnext).trans (hact hfirst)
  | _ => cases h

end

theorem state_performWithin : ∀ (n : Nat) {a : Action ε} {s : Session ε}, a.isStill = true →
    (performWithin n a s).1.state = s.state
  | 0, _, _, _ => rfl
  | n + 1, _, s, h => state_perform (state_performWithin n) s h

theorem state_inform {n : Nat} {snapshot : SessionState} {id : Nat}
    (h : ∀ w, s.watcher? id = some w → w.staysStill = true) :
    (s.inform (performWithin n) snapshot id).state = s.state := by
  rcases inform_cases (performWithin n) s snapshot id with ⟨hsame, -⟩ | ⟨w, hw, hinform⟩
  · rw [hsame]
  · rw [hinform]
    exact state_react (state_performWithin n) _ (w.all_isStill_of_staysStill (h w hw))

/-! ## Places -/

theorem Numbered.notMem_after (hs : s.Numbered) {before after : List (Watcher ε)} {w : Watcher ε}
    (hw : s.watchers = before ++ w :: after) : w.id ∉ after.map (·.id) := by
  have hnodup := hs.nodup
  rw [hw, List.map_append, List.map_cons] at hnodup
  exact (List.nodup_cons.1 (List.nodup_append.1 hnodup).2.1).1

theorem Numbered.staysStill (hs : s.Numbered) {w : Watcher ε} (hw : w ∈ s.watchers)
    (h : w.isStill = true) : w.staysStill = true := by
  refine Watcher.isStillFrom_mono ?_ h
  split
  · exact hs.begun w hw ‹_›
  · exact Nat.zero_le _

theorem exists_of_map_eq {ws before after : List (Watcher ε)} {w : Watcher ε}
    {f : Watcher ε → Watcher ε} (h : ws.map f = before ++ w :: after) :
    ∃ before' v after', ws = before' ++ v :: after' ∧ before'.map f = before ∧ f v = w := by
  obtain ⟨before', others, hws, hbefore, hothers⟩ := List.map_eq_append_iff.1 h
  obtain ⟨v, after', rfl, hv, -⟩ := List.map_eq_cons_iff.1 hothers
  exact ⟨before', v, after', hws, hbefore, hv⟩

theorem join_cases {before after : List (Watcher ε)} {v w : Watcher ε}
    (h : (s.join v).watchers = before ++ w :: after) :
    (∃ after', s.watchers = before ++ w :: after') ∨ s.watchers = before ∧ v = w := by
  rcases List.eq_nil_or_concat after with rfl | ⟨after', last, rfl⟩
  · obtain ⟨hbefore, hlast⟩ := List.append_inj' h rfl
    cases hlast
    exact .inr ⟨hbefore, rfl⟩
  · rw [List.concat_eq_append, ← List.cons_append, ← List.append_assoc] at h
    exact .inl ⟨after', (List.append_inj' h rfl).1⟩

theorem forall_isStill_of_map {ws : List (Watcher ε)} {f : Watcher ε → Watcher ε}
    (hf : ∀ w : Watcher ε, w.Becomes (f w)) (h : ∀ w ∈ ws.map f, w.isStill = true) :
    ∀ v ∈ ws, v.isStill = true :=
  fun v hv => (hf v).isStill_eq.symm.trans (h _ (List.mem_map_of_mem hv))

namespace Grows

/-- A watcher is still there afterwards. -/
theorem becomes (h : s.Grows t) {v : Watcher ε} (hv : v ∈ s.watchers) :
    ∃ w ∈ t.watchers, v.Becomes w := by
  obtain ⟨f, more, hf, hwatchers, -⟩ := h.watchers
  refine ⟨f v, ?_, hf v⟩
  rw [hwatchers]
  exact List.mem_append_left _ (List.mem_map_of_mem hv)

theorem place (h : s.Grows t) {before after : List (Watcher ε)} {w : Watcher ε}
    (hs : s.watchers = before ++ w :: after) :
    ∃ (f : Watcher ε → Watcher ε) (after' : List (Watcher ε)), (∀ v : Watcher ε, v.Becomes (f v))
      ∧ t.watchers = before.map f ++ f w :: after' := by
  obtain ⟨f, more, hf, hwatchers, -⟩ := h.watchers
  refine ⟨f, after.map f ++ more, hf, ?_⟩
  rw [hwatchers, hs, List.map_append, List.map_cons, List.append_assoc, List.cons_append]

/-- Whoever has an old number was there before, behind the same watchers. -/
theorem place_of_lt (h : s.Grows t) {before after : List (Watcher ε)} {w : Watcher ε}
    (ht : t.watchers = before ++ w :: after) (hlt : w.id < s.nextWatcher) :
    ∃ (f : Watcher ε → Watcher ε) (before' : List (Watcher ε)) (v : Watcher ε)
      (after' : List (Watcher ε)), (∀ v : Watcher ε, v.Becomes (f v))
      ∧ s.watchers = before' ++ v :: after' ∧ before'.map f = before ∧ f v = w := by
  obtain ⟨f, more, hf, hwatchers, hmore⟩ := h.watchers
  -- the watcher is none of the new ones, so the list is cut in front of them
  have hold : w ∉ more := fun hw => absurd (hmore w hw) (Nat.not_le_of_lt hlt)
  rw [hwatchers] at ht
  rcases List.append_eq_append_iff.1 ht with ⟨mid, -, hmid⟩ | ⟨mid, hmap, hmid⟩
  · exact absurd (hmid ▸ List.mem_append_right _ List.mem_cons_self) hold
  · cases mid with
    | nil => exact absurd (by rw [← List.nil_append more, ← hmid]; exact List.mem_cons_self) hold
    | cons w' rest =>
      cases hmid
      obtain ⟨before', v, after', hs, hbefore, hv⟩ := exists_of_map_eq hmap
      exact ⟨f, before', v, after', hf, hs, hbefore, hv⟩

end Grows

/-! ## A watcher that is told all -/

/-- Whoever has the number knows what it sees. -/
def UpToDate (id : Nat) (s : Session ε) : Prop :=
  ∀ w ∈ s.watchers, w.id = id → w.isActive = true → w.view.isSelective = true →
    w.last = some (w.view.look s.state)

theorem UpToDate.map {id : Nat} (h : s.UpToDate id) {f : Watcher ε → Watcher ε}
    (hf : ∀ w : Watcher ε, w.Becomes (f w)) (ht : t.watchers = s.watchers.map f)
    (hstate : t.state = s.state) (hlast : ∀ w : Watcher ε, w.id = id → (f w).last = w.last) :
    t.UpToDate id := by
  intro w hw hid hactive hselective
  rw [ht] at hw
  obtain ⟨v, hv, rfl⟩ := List.mem_map.1 hw
  rw [(hf v).id] at hid
  rw [(hf v).view] at hselective
  rw [hlast v hid, (hf v).view, hstate]
  exact h v hv hid ((hf v).isActive hactive) hselective

/-- Those in front of a watcher that are still told something do nothing to the state any more. -/
structure Shielded (id : Nat) (s : Session ε) : Prop where
  numbered : s.Numbered
  place : ∃ before w after, s.watchers = before ++ w :: after ∧ w.id = id
    ∧ ∀ v ∈ before, v.isActive = true → v.staysStill = true

namespace Shielded

variable {id : Nat}

theorem ofGrows (h : s.Shielded id) (hst : s.Grows t) : t.Shielded id where
  numbered := hst.numbered h.numbered
  place := by
    obtain ⟨before, w, after, hs, hid, hstill⟩ := h.place
    obtain ⟨f, after', hf, hwatchers⟩ := hst.place hs
    refine ⟨before.map f, f w, after', hwatchers, (hf w).id.trans hid, fun u hu hactive => ?_⟩
    obtain ⟨v, hv, rfl⟩ := List.mem_map.1 hu
    exact (hf v).staysStill (hstill v hv ((hf v).isActive hactive))

theorem lt (h : s.Shielded id) : id < s.nextWatcher := by
  obtain ⟨before, w, after, hs, rfl, -⟩ := h.place
  exact h.numbered.lt w (hs ▸ List.mem_append_right _ List.mem_cons_self)

end Shielded

/-- It knows what it sees as well. -/
structure Abreast (id : Nat) (s : Session ε) : Prop extends Shielded id s where
  upToDate : s.UpToDate id

namespace Abreast

variable {id : Nat}

theorem ofGrows (h : s.Abreast id) (hst : s.Grows t) (ht : t.UpToDate id) : t.Abreast id :=
  ⟨h.toShielded.ofGrows hst, ht⟩

theorem ofUnmoved (hst : s.Unmoved t) (h : s.Abreast id) : t.Abreast id :=
  h.ofGrows (.ofUnmoved hst) (h.upToDate.map Watcher.Becomes.refl
    (by rw [hst.watchers, List.map_id']) hst.state fun _ _ => rfl)

theorem informed (h : s.Abreast id) {other : Nat} (hne : other ≠ id) {w : Watcher ε}
    (hw : s.watcher? other = some w) (sight : Sight) : (s.informed other sight).Abreast id := by
  refine h.ofGrows (.informed s hw sight) (h.upToDate.map (updateWatcher_becomes other
    (Watcher.becomes_informed sight)) rfl rfl fun v hv => ?_)
  rw [if_neg fun heq => hne (heq.symm.trans hv)]

end Abreast

theorem chains_abreast (id : Nat) : Chains fun s t : Session ε => s.Abreast id → t.Abreast id :=
  .ofKept Abreast.ofUnmoved

/-- While those that do nothing to the state any more are told, it stays. -/
theorem informAll_still (n : Nat) (snapshot : SessionState) (hs : s.Numbered) :
    ∀ {ids : List Nat}, (∀ id ∈ ids, ∃ v ∈ s.watchers, v.id = id ∧ v.staysStill = true) →
      ∀ t, s.Grows t → s.Grows (ids.foldl (fun t id => t.inform (performWithin n) snapshot id) t)
        ∧ (ids.foldl (fun t id => t.inform (performWithin n) snapshot id) t).state = t.state
  | [], _, t, hst => ⟨hst, rfl⟩
  | id :: ids, hids, t, hst => by
    obtain ⟨⟨v, hv, hid, hstill⟩, hrest⟩ := List.forall_mem_cons.1 hids
    have hfirst : (t.inform (performWithin n) snapshot id).state = t.state := by
      refine state_inform fun w hw => ?_
      obtain ⟨w', hw', hbecomes⟩ := hst.becomes hv
      have heq := (hst.numbered hs).eq_of_id (List.mem_of_find?_eq_some hw) hw'
        ((watcher?_id hw).trans (hid.symm.trans hbecomes.id.symm))
      exact heq ▸ hbecomes.staysStill hstill
    have hgrows : t.Grows (t.inform (performWithin n) snapshot id) :=
      chains_grows.inform (grows_performWithin n) fun _ hw => .informed t hw _
    obtain ⟨hall, hstate⟩ := informAll_still n snapshot hs hrest _ (hst.trans hgrows)
    exact ⟨hall, hstate.trans hfirst⟩

/-- Those in front of a watcher are told first, then it is, if it still watches, and then the
others. -/
theorem publish_eq (act : Action ε → Session ε → Session ε × Reply ε)
    {before after : List (Watcher ε)} {w : Watcher ε} (hs : s.watchers = before ++ w :: after) :
    s.publish act
      = ((after.filter (·.isActive)).map (·.id)).foldl (fun t id => t.inform act s.state id)
        (let t := ((before.filter (·.isActive)).map (·.id)).foldl
          (fun t id => t.inform act s.state id) s
        if w.isActive then t.inform act s.state w.id else t) := by
  unfold publish
  rw [hs, List.filter_append, List.map_append]
  cases h : w.isActive <;> simp [h, List.foldl_append]

section

variable {n : Nat} {id : Nat}
  (hact : ∀ a (s : Session ε), s.Abreast id → (performWithin n a s).1.Abreast id)

include hact

/-- Whoever is told the state that there is knows what it sees. -/
theorem abreast_inform (hs : s.Shielded id) :
    (s.inform (performWithin n) s.state id).Abreast id := by
  rcases inform_cases (performWithin n) s s.state id with ⟨hsame, hknown⟩ | ⟨w, hw, hinform⟩
  · rw [hsame]
    refine ⟨hs, fun w hw hid _ _ => ?_⟩
    exact (hknown w (hid ▸ hs.numbered.watcher?_eq hw)).2
  · rw [hinform]
    refine (chains_abreast id).react hact _ _ ⟨hs.ofGrows (.informed s hw _), ?_⟩
    intro v hv hid _ _
    obtain ⟨u, hu, rfl⟩ := List.mem_map.1 hv
    rw [(updateWatcher_becomes id (Watcher.becomes_informed _) u).id] at hid
    have huw : u = w :=
      hs.numbered.eq_of_id hu (List.mem_of_find?_eq_some hw) (hid.trans (watcher?_id hw).symm)
    subst huw
    rw [if_pos hid]
    rfl

/-- Those in front of a watcher leave it the state, then it is told that, and whatever it and those
behind it do then, it is told. -/
theorem abreast_publish (hs : s.Shielded id) : (s.publish (performWithin n)).Abreast id := by
  obtain ⟨before, w, after, hwatchers, rfl, hstill⟩ := hs.place
  have hbefore : ∀ id ∈ (before.filter (·.isActive)).map (·.id),
      ∃ v ∈ s.watchers, v.id = id ∧ v.staysStill = true := by
    intro id hid
    obtain ⟨v, hv, rfl⟩ := List.mem_map.1 hid
    obtain ⟨hmem, hactive⟩ := List.mem_filter.1 hv
    exact ⟨v, hwatchers ▸ List.mem_append_left _ hmem, rfl, hstill v hmem hactive⟩
  rw [publish_eq _ hwatchers]
  refine (chains_abreast w.id).informAll (fun other hother t =>
    (chains_abreast w.id).inform hact fun _ hv ht => ht.informed ?_ hv _) _ ?_
  · rintro rfl
    obtain ⟨v, hv, hid⟩ := List.mem_map.1 hother
    exact hs.numbered.notMem_after hwatchers (hid ▸ List.mem_map_of_mem (List.mem_of_mem_filter hv))
  · -- when its turn comes the state is still the one that is told
    obtain ⟨hgrows, hstate⟩ := informAll_still n s.state hs.numbered hbefore s
      (chains_grows.refl s)
    simp only []
    split
    · have htold := abreast_inform hact (hs.ofGrows hgrows)
      rwa [hstate] at htold
    · -- it was stopped before, and nobody has it watch again
      rename_i hinactive
      refine ⟨hs.ofGrows hgrows, fun v hv hid hactive _ => absurd ?_ hinactive⟩
      obtain ⟨w', hw', hbecomes⟩ :=
        hgrows.becomes (hwatchers ▸ List.mem_append_right before List.mem_cons_self)
      have hvw := (hgrows.numbered hs.numbered).eq_of_id hv hw' (hid.trans hbecomes.id.symm)
      exact hbecomes.isActive (hvw ▸ hactive)

theorem abreast_change (hs : s.Abreast id) (f : SessionState → SessionState) :
    (s.change (performWithin n) f).Abreast id :=
  abreast_publish hact (hs.toShielded.ofGrows (.changedState s _))

theorem abreast_watch (hs : s.Abreast id) (view : View) (reaction : Option (Reaction ε)) :
    (watch (performWithin n) { s with nextWatcher := s.nextWatcher + 1 } s.nextWatcher view
      reaction).1.Abreast id := by
  have hgreeted : (s.greeted view).Abreast id :=
    hs.ofGrows (.greeted s view) (hs.upToDate.map Watcher.Becomes.refl
      (by rw [watchers_greeted, List.map_id']) (state_greeted s view) fun _ _ => rfl)
  have hwelcomed : (s.welcomed (performWithin n) view reaction).Abreast id :=
    (chains_abreast id).react hact _ _ hgreeted
  refine hs.ofGrows (grows_watch (grows_performWithin n) s view reaction) ?_
  rw [watch_eq]
  intro v hv hid
  rcases List.mem_append.1 hv with hv | hv
  · exact hwelcomed.upToDate v hv hid
  · rw [List.mem_singleton.1 hv] at hid
    exact absurd hid (Nat.ne_of_gt hs.lt)

end

theorem tracks_abreast (id : Nat) : Tracks fun s t : Session ε => s.Abreast id → t.Abreast id where
  toChains := chains_abreast id
  numbered s hs := hs.ofGrows (.numbering s) hs.upToDate
  unheld s other f hf hs := by
    refine hs.ofGrows (.updateWatcher s other fun w => (hf w).1) (hs.upToDate.map
      (updateWatcher_becomes other fun w => (hf w).1) rfl rfl fun w _ => ?_)
    rw [apply_ite Watcher.last, (hf w).2, ite_self]
  changed hact s f hs := abreast_change hact hs f
  watched hact s view reaction hs := abreast_watch hact hs view reaction

/-! ## Watchers that come in -/

/-- Whoever has one of the numbers from some on knows what it sees, if those in front of it do
nothing to the state and it did nothing to it when it came in. -/
structure Converging (least : Nat) (s : Session ε) : Prop where
  numbered : s.Numbered
  upToDate : ∀ {before w after}, s.watchers = before ++ w :: after → least ≤ w.id →
    (∀ v ∈ before, v.isStill = true) → w.beginsStill = true → s.UpToDate w.id

namespace Converging

variable {least : Nat}

theorem map (h : s.Converging least) (hst : s.Grows t) {f : Watcher ε → Watcher ε}
    (hf : ∀ w : Watcher ε, w.Becomes (f w)) (ht : t.watchers = s.watchers.map f)
    (hstate : t.state = s.state) (hlast : ∀ w : Watcher ε, least ≤ w.id → (f w).last = w.last) :
    t.Converging least := by
  refine ⟨hst.numbered h.numbered, fun {before w after} hw hleast hstill hbegins => ?_⟩
  obtain ⟨before', v, after', hs, rfl, rfl⟩ := exists_of_map_eq (ht.symm.trans hw)
  rw [(hf v).id] at hleast ⊢
  have hold : s.UpToDate v.id := h.upToDate hs hleast (forall_isStill_of_map hf hstill)
    ((hf v).beginsStill_eq.symm.trans hbegins)
  exact hold.map hf ht hstate fun u hu => hlast u (hu ▸ hleast)

theorem ofUnmoved (hst : s.Unmoved t) (h : s.Converging least) : t.Converging least :=
  h.map (.ofUnmoved hst) Watcher.Becomes.refl (by rw [hst.watchers, List.map_id']) hst.state
    fun _ _ => rfl

theorem informed (h : s.Converging least) {id : Nat} (hlt : id < least) {w : Watcher ε}
    (hw : s.watcher? id = some w) (sight : Sight) : (s.informed id sight).Converging least := by
  refine h.map (.informed s hw sight) (updateWatcher_becomes id (Watcher.becomes_informed sight))
    rfl rfl fun v hv => ?_
  rw [if_neg]
  rintro rfl
  exact absurd hv (Nat.not_le_of_lt hlt)

/-- Nobody has a number yet that was not given. -/
theorem next (hs : s.Numbered) : s.Converging s.nextWatcher :=
  ⟨hs, fun hw hleast _ _ => absurd (hs.lt _ (hw ▸ List.mem_append_right _ List.mem_cons_self))
    (Nat.not_lt_of_le hleast)⟩

end Converging

theorem chains_converging :
    Chains fun s t : Session ε => ∀ least, s.Converging least → t.Converging least where
  unmoved hst _ hs := hs.ofUnmoved hst
  trans hst htu least hs := htu least (hst least hs)

section

variable {n : Nat} {least : Nat} (hact : ∀ a (s : Session ε) least, s.Converging least →
  (performWithin n a s).1.Converging least)

include hact

/-- Those that come in while all are told of a change know what they see. -/
theorem converging_next_publish (hs : s.Numbered) :
    (s.publish (performWithin n)).Converging s.nextWatcher := by
  refine (Chains.ofKept Converging.ofUnmoved).informAll (fun id hid t =>
    (Chains.ofKept Converging.ofUnmoved).inform (fun a u => hact a u _) fun _ hv ht =>
      ht.informed ?_ hv _) _ (.next hs)
  obtain ⟨w, hw, rfl⟩ := List.mem_map.1 hid
  exact hs.lt w (List.mem_of_mem_filter hw)

theorem converging_change (hs : s.Converging least) (f : SessionState → SessionState) :
    (s.change (performWithin n) f).Converging least := by
  have hgrows := grows_change (grows_performWithin n) s f
  have hnew := converging_next_publish hact
    ((Grows.changedState s (f s.state)).numbered hs.numbered)
  refine ⟨hgrows.numbered hs.numbered, fun {before w after} hw hleast hstill hbegins => ?_⟩
  -- those that were there stay abreast, and the others have come in while all were told
  by_cases hlt : w.id < s.nextWatcher
  · obtain ⟨f', before', v, after', hf, hv, rfl, rfl⟩ := hgrows.place_of_lt hw hlt
    have hbefore := forall_isStill_of_map hf hstill
    rw [(hf v).id] at hleast ⊢
    refine ((tracks_abreast v.id).changed ((tracks_abreast v.id).performWithin n) s f ?_).upToDate
    have hstays : ∀ u ∈ before', u.staysStill = true := fun u hu =>
      hs.numbered.staysStill (hv ▸ List.mem_append_left _ hu) (hbefore u hu)
    exact ⟨⟨hs.numbered, before', v, after', hv, rfl, fun u hu _ => hstays u hu⟩,
      hs.upToDate hv hleast hbefore ((hf v).beginsStill_eq.symm.trans hbegins)⟩
  · exact hnew.upToDate hw (Nat.le_of_not_lt hlt) hstill hbegins

theorem converging_watch (hs : s.Converging least) (view : View) (reaction : Option (Reaction ε)) :
    (watch (performWithin n) { s with nextWatcher := s.nextWatcher + 1 } s.nextWatcher view
      reaction).1.Converging least := by
  have hgreeted : (s.greeted view).Converging least :=
    hs.map (.greeted s view) Watcher.Becomes.refl (by rw [watchers_greeted, List.map_id'])
      (state_greeted s view) fun _ _ => rfl
  have hwelcomed : (s.welcomed (performWithin n) view reaction).Converging least :=
    chains_converging.react hact _ _ least hgreeted
  have habsent := newcomer_absent (grows_performWithin n) hs.numbered view reaction
  refine ⟨(grows_watch (grows_performWithin n) s view reaction).numbered hs.numbered,
    fun {before w after} hw hleast hstill hbegins v hv hid hactive hselective => ?_⟩
  have hstate (hstill : (s.newcomer view reaction).beginsStill = true) :
      (watch (performWithin n) { s with nextWatcher := s.nextWatcher + 1 } s.nextWatcher view
        reaction).1.state = s.state := state_watch (state_performWithin n) s view hstill
  rw [watch_eq] at hw hv hstate ⊢
  -- the new watcher is the last one and shares its number with nobody
  rcases join_cases hw with ⟨after', hold⟩ | ⟨-, rfl⟩
  · have hmem : w ∈ _ := hold ▸ List.mem_append_right before List.mem_cons_self
    rcases List.mem_append.1 hv with hv | hv
    · exact hwelcomed.upToDate hold hleast hstill hbegins v hv hid hactive hselective
    · rw [List.mem_singleton.1 hv] at hid
      exact absurd (List.mem_map.2 ⟨w, hmem, hid.symm⟩) habsent
  · rcases List.mem_append.1 hv with hv | hv
    · exact absurd (List.mem_map.2 ⟨v, hv, hid⟩) habsent
    · rw [List.mem_singleton.1 hv, hstate hbegins]
      rfl

end

theorem tracks_converging :
    Tracks fun s t : Session ε => ∀ least, s.Converging least → t.Converging least where
  toChains := chains_converging
  numbered s least hs := hs.map (.numbering s) Watcher.Becomes.refl (List.map_id' _).symm rfl
    fun _ _ => rfl
  unheld s id f hf least hs := by
    refine hs.map (.updateWatcher s id fun w => (hf w).1)
      (updateWatcher_becomes id fun w => (hf w).1) rfl rfl fun w _ => ?_
    rw [apply_ite Watcher.last, (hf w).2, ite_self]
  changed hact s f least hs := converging_change hact hs f
  watched hact s view reaction least hs := converging_watch hact hs view reaction

/-! ## Whole runs -/

theorem upToDate_iff (hs : s.Recalling) {w : Watcher ε} (hw : w ∈ s.watchers)
    (hactive : w.isActive = true) (hselective : w.view.isSelective = true) :
    s.UpToDate w.id ↔ s.lastTold w.id = some (w.view.look s.state) := by
  rw [hs.last w hw hselective]
  refine ⟨fun h => h w hw rfl hactive hselective, fun hlast v hv hid _ _ => ?_⟩
  rw [hs.numbered.eq_of_id hv hw hid]
  exact hlast

theorem numbered_start (defaults : Answers) (onSubmit onCancel : Option (Ending ε)) :
    (start defaults onSubmit onCancel).Numbered :=
  ⟨List.nodup_nil, fun _ hw => absurd hw List.not_mem_nil, fun _ hw => absurd hw List.not_mem_nil⟩

/-- Let `w` be told of changes, in a session that anything was done to.  If nobody in front of it
does anything to the state when told of a change, and it did nothing to it when it came in, then it
was told last what there is to see.  And once it was, it stays so, whatever is done, if those in
front of it that are still told something do nothing to the state any more. -/
theorem told_last (defaults : Answers) (onSubmit onCancel : Option (Ending ε))
    (actions : List (Action ε)) :
    let s := (start defaults onSubmit onCancel).runAll actions
    ∀ {before w after}, s.watchers = before ++ w :: after → w.isActive = true →
      w.view.isSelective = true →
      ((∀ v ∈ before, v.isStill = true) → w.beginsStill = true →
        s.lastTold w.id = some (w.view.look s.state))
      ∧ ((∀ v ∈ before, v.isActive = true → v.staysStill = true) →
        s.lastTold w.id = some (w.view.look s.state) → ∀ later, ∃ w',
          (s.runAll later).watcher? w.id = some w' ∧ w.Becomes w' ∧ (w'.isActive = true →
            (s.runAll later).lastTold w.id = some (w.view.look (s.runAll later).state))) := by
  intro s before w after hw hactive hselective
  have hmem : w ∈ s.watchers := hw ▸ List.mem_append_right before List.mem_cons_self
  have hnumbered := numbered_start defaults onSubmit onCancel
  have hrecalling : s.Recalling :=
    tracks_recalling.runAll actions _ ⟨hnumbered, fun _ hv => absurd hv List.not_mem_nil⟩
  constructor
  · intro hstill hbegins
    have hconverging : s.Converging 0 := tracks_converging.runAll actions _ 0 (.next hnumbered)
    exact (upToDate_iff hrecalling hmem hactive hselective).1
      (hconverging.upToDate hw (Nat.zero_le _) hstill hbegins)
  · intro hstill hlast later
    have habreast : s.Abreast w.id := ⟨⟨hrecalling.numbered, before, w, after, hw, rfl, hstill⟩,
      (upToDate_iff hrecalling hmem hactive hselective).2 hlast⟩
    have hlater := (tracks_abreast w.id).runAll later s habreast
    obtain ⟨w', hw', hbecomes⟩ := (tracks_grows.runAll later s).becomes hmem
    refine ⟨w', hbecomes.id ▸ hlater.numbered.watcher?_eq hw', hbecomes, fun hactive' => ?_⟩
    rw [← hbecomes.view] at hselective ⊢
    rw [← hbecomes.id]
    exact (upToDate_iff (tracks_recalling.runAll later s hrecalling) hw' hactive' hselective).1
      (hbecomes.id ▸ hlater.upToDate)

/-- A watcher between one that wrote when it came in and one that writes when it is told of a change
is told last what was written, and so it will be. -/
theorem told_last_between_writers :
    let name : Field := ⟨"name", none, "", .basic .text none, none, none⟩
    let s : Session Unit := (start ∅ none none).runAll
      [.register name, .watch (.session .status) (some (.mk 0 1 (.set 0 (.text "c")))),
        .watch (.field 0 .answer) none,
        .watch (.field 0 .answer) (some (.mk 1 1 (.set 0 (.text "b")))), .set 0 (.text "a")]
    s.lastTold 1 = some (.answer (some (.text "b")))
      ∧ ∀ later, ∃ w, (s.runAll later).watcher? 1 = some w ∧ (w.isActive = true →
        (s.runAll later).lastTold 1 = some (w.view.look (s.runAll later).state)) := by
  intro name s
  have hlength : s.watchers.length = 3 := by decide +kernel
  obtain ⟨first, w, last, hw⟩ := List.length_eq_three.1 hlength
  have hfirst : (s.watchers[0]?).all (fun v => v.isStill && v.staysStill) = true := by
    decide +kernel
  have hknown : (s.watchers[1]?).map (fun w =>
      (w.id, w.isActive, w.view.isSelective, w.beginsStill, w.view.look s.state))
    = some (1, true, true, true, .answer (some (.text "b"))) := by decide +kernel
  simp only [hw, List.getElem?_cons_zero, List.getElem?_cons_succ, Option.map_some, Option.all_some,
    Option.some_inj, Prod.mk.injEq, Bool.and_eq_true] at hfirst hknown
  obtain ⟨hid, hactive, hselective, hbegins, hlook⟩ := hknown
  have hplace : s.watchers = [first] ++ w :: [last] := hw
  obtain ⟨hnow, hlater⟩ := told_last ∅ none none _ hplace hactive hselective
  have hlast := hnow (by simpa using hfirst.1) hbegins
  refine ⟨by rw [← hid, hlast, hlook], fun later => ?_⟩
  obtain ⟨w', hw', hbecomes, htold⟩ := hlater (by simpa using fun _ => hfirst.2) hlast later
  rw [hid] at hw' htold
  exact ⟨w', hw', fun hactive' => hbecomes.view ▸ htold hactive'⟩

/-- Behind a watcher that writes when it is told of a change, one is told last of the older answer;
and one that writes when it comes in is never told of what it wrote. -/
theorem left_behind :
    let name : Field := ⟨"name", none, "", .basic .text none, none, none⟩
    let writes : Action Unit := .set 0 (.text "b")
    let s : Session Unit := (start ∅ none none).runAll
      [.register name, .watch (.field 0 .answer) (some (.mk 1 1 writes)),
        .watch (.field 0 .answer) none, .set 0 (.text "a")]
    let t : Session Unit := (start ∅ none none).runAll
      [.register name, .watch (.field 0 .answer) (some (.mk 0 1 writes))]
    ((s.watcher? 1).map fun w => (w.isActive, w.view.isSelective, w.view.look s.state))
        = some (true, true, .answer (some (.text "b")))
      ∧ s.lastTold 1 = some (.answer (some (.text "a")))
      ∧ ((t.watcher? 0).map fun w => (w.isActive, w.view.isSelective, w.view.look t.state))
        = some (true, true, .answer (some (.text "b")))
      ∧ t.lastTold 0 = some (.answer none) := by
  decide +kernel

end Session

end NoteForms
