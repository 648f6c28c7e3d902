import NoteForms.Proofs.Closing
import NoteForms.Proofs.Convergence
import NoteForms.Proofs.Moments

/-!
# Watchers that were stopped

Who is told in a round of telling is settled when the round begins.  A watcher that is stopped by
another one meanwhile is therefore still told in that round (`Session.told_after_stop`), and so it
is in each round that is under way when it is stopped, but at most once in each, and never in a
round that begins later (`Session.told_at_most_rounds`).
-/

namespace NoteForms

variable {ε : Type}

namespace Session

variable {s t u : Session ε}

/-! ## How much is told -/

/-- A watcher is told at most so much more from one session to another. -/
def HearsAtMost (most id : Nat) (s t : Session ε) : Prop :=
  ∃ more, t.toldTo id = s.toldTo id ++ more ∧ more.length ≤ most

namespace HearsAtMost

variable {id most more : Nat}

theorem ofEq (h : t.toldTo id = s.toldTo id) (most : Nat) : HearsAtMost most id s t :=
  ⟨[], by rw [h, List.append_nil], Nat.zero_le _⟩

theorem trans (hst : HearsAtMost most id s t) (htu : HearsAtMost more id t u) :
    HearsAtMost (most + more) id s u := by
  obtain ⟨news, ht, hlength⟩ := hst
  obtain ⟨later, hu, hlength'⟩ := htu
  refine ⟨news ++ later, by rw [hu, ht, List.append_assoc], ?_⟩
  rw [List.length_append]
  omega

theorem mono (h : HearsAtMost most id s t) (hle : most ≤ more) : HearsAtMost more id s t := by
  obtain ⟨news, ht, hlength⟩ := h
  exact ⟨news, ht, Nat.le_trans hlength hle⟩

theorem toldTo_eq (h : HearsAtMost 0 id s t) : t.toldTo id = s.toldTo id := by
  obtain ⟨news, ht, hlength⟩ := h
  rw [ht, List.length_eq_zero_iff.1 (Nat.le_zero.1 hlength), List.append_nil]

end HearsAtMost

/-! ## Stopped watchers -/

/-- Whether a watcher was stopped. -/
def isStopped (s : Session ε) (id : Nat) : Bool :=
  s.watchers.any fun w => w.id = id && !w.isActive

theorem isStopped_iff {id : Nat} :
    s.isStopped id = true ↔ ∃ w ∈ s.watchers, w.id = id ∧ w.isActive = false := by
  simp [isStopped]

/-- Who was stopped is still stopped. -/
def Remains (s t : Session ε) : Prop := ∀ id, s.isStopped id = true → t.isStopped id = true

theorem Grows.remains (h : s.Grows t) : s.Remains t := by
  intro id hstopped
  obtain ⟨v, hv, hid, hinactive⟩ := isStopped_iff.1 hstopped
  obtain ⟨w, hw, hbecomes⟩ := h.becomes hv
  refine isStopped_iff.2 ⟨w, hw, hbecomes.id.trans hid, ?_⟩
  cases hactive : w.isActive with
  | false => rfl
  | true => rw [hbecomes.isActive hactive] at hinactive; cases hinactive

theorem remains_join (s : Session ε) (w : Watcher ε) : s.Remains (s.join w) := by
  intro id hstopped
  obtain ⟨v, hv, hinactive⟩ := isStopped_iff.1 hstopped
  exact isStopped_iff.2 ⟨v, List.mem_append_left _ hv, hinactive⟩

theorem lasts_remains (D : Discipline ε) : Lasts D (Remains (ε := ε)) where
  trans hst htu id h := htu id (hst id h)
  aside h := h.grows.remains
  did _ := (Grows.changedState _ _).remains
  informed hw sight := (Grows.informed _ hw sight).remains
  greeted s view := (Grows.greeted s view).remains
  joined := remains_join

theorem Numbered.notMem_audience (hs : s.Numbered) {id : Nat} (h : s.isStopped id = true) :
    id ∉ s.audience := by
  intro hmem
  obtain ⟨w, hw, hid, hinactive⟩ := isStopped_iff.1 h
  obtain ⟨v, hv, hid'⟩ := List.mem_map.1 hmem
  obtain ⟨hv, hactive⟩ := List.mem_filter.1 hv
  rw [hs.eq_of_id hv hw (hid'.trans hid.symm), hinactive] at hactive
  cases hactive

/-- In all that comes up between two sessions, who was stopped before is told at most so much, and
who is stopped meanwhile is told no more than there are rounds under way then, and some extra. -/
structure Hushes (most : Nat → Nat) (extra : Nat) (s : Session ε) (ms : List (Moment ε))
    (t : Session ε) : Prop where
  numbered : t.Numbered
  allNumbered : ∀ m ∈ ms, m.session.Numbered
  remains : Along Remains s ms t
  whole : ∀ id, s.isStopped id = true → HearsAtMost (most id) id s t
  before : ∀ m ∈ ms, ∀ id, s.isStopped id = true → HearsAtMost (most id) id s m.session
  after : ∀ m ∈ ms, ∀ id, m.session.isStopped id = true →
    HearsAtMost (m.rounds + extra) id m.session t
  pairwise : ms.Pairwise fun m m' => ∀ id, m.session.isStopped id = true →
    HearsAtMost (m.rounds + extra) id m.session m'.session

namespace Hushes

variable {most more : Nat → Nat} {extra extra' : Nat} {ms ns : List (Moment ε)}

theorem mono (h : Hushes most extra s ms t)
    (hle : ∀ id, s.isStopped id = true → most id ≤ more id) (hextra : extra ≤ extra') :
    Hushes more extra' s ms t where
  numbered := h.numbered
  allNumbered := h.allNumbered
  remains := h.remains
  whole id hid := (h.whole id hid).mono (hle id hid)
  before m hm id hid := (h.before m hm id hid).mono (hle id hid)
  after m hm id hid := (h.after m hm id hid).mono (Nat.add_le_add_left hextra _)
  pairwise := h.pairwise.imp fun hmm id hid => (hmm id hid).mono (Nat.add_le_add_left hextra _)

/-- Who is stopped in the first part is told what may be told in the second besides. -/
theorem append (hst : Hushes most extra s ms t) (htu : Hushes more extra' t ns u)
    (hextra : extra ≤ extra') (hmore : ∀ id, t.isStopped id = true → extra + more id ≤ extra') :
    Hushes (fun id => most id + more id) extra' s (ms ++ ns) u where
  numbered := htu.numbered
  allNumbered m hm := (List.mem_append.1 hm).elim (hst.allNumbered m) (htu.allNumbered m)
  remains := (lasts_remains anything).along_append hst.remains htu.remains
  whole id hid := (hst.whole id hid).trans (htu.whole id (hst.remains.whole id hid))
  before m hm id hid := by
    rcases List.mem_append.1 hm with hm | hm
    · exact (hst.before m hm id hid).mono (Nat.le_add_right _ _)
    · exact (hst.whole id hid).trans (htu.before m hm id (hst.remains.whole id hid))
  after m hm id hid := by
    rcases List.mem_append.1 hm with hm | hm
    · have hstopped := hst.remains.after m hm id hid
      have hle := hmore id hstopped
      exact ((hst.after m hm id hid).trans (htu.whole id hstopped)).mono (by omega)
    · exact htu.after m hm id hid
  pairwise := by
    refine List.pairwise_append.2 ⟨hst.pairwise.imp fun h id hid => (h id hid).mono (by omega),
      htu.pairwise, fun m hm m' hm' id hid => ?_⟩
    have hstopped := hst.remains.after m hm id hid
    have hle := hmore id hstopped
    exact ((hst.after m hm id hid).trans (htu.before m' hm' id hstopped)).mono (by omega)

theorem nil (hs : s.Numbered) : Hushes most extra s [] s where
  numbered := hs
  allNumbered _ hm := absurd hm List.not_mem_nil
  remains := (lasts_remains anything).stepwise.nil s
  whole _ _ := .ofEq rfl _
  before _ hm := absurd hm List.not_mem_nil
  after _ hm := absurd hm List.not_mem_nil
  pairwise := .nil

/-- A single step tells a stopped watcher at most so much. -/
theorem single {m : Moment ε} (hnumbered : m.session.Numbered) (hremains : s.Remains m.session)
    (hheard : ∀ id, s.isStopped id = true → HearsAtMost (most id) id s m.session) :
    Hushes most extra s [m] m.session where
  numbered := hnumbered
  allNumbered m' hm' := by
    rw [List.mem_singleton.1 hm']
    exact hnumbered
  remains := (lasts_remains anything).along_single hremains
  whole := hheard
  before m' hm' := by
    rw [List.mem_singleton.1 hm']
    exact hheard
  after m' hm' id _ := by
    rw [List.mem_singleton.1 hm']
    exact .ofEq rfl _
  pairwise := List.pairwise_singleton _ _

/-- One more round of telling makes up for one that is extra. -/
theorem deeper (h : Hushes most (extra + 1) s ms t) :
    Hushes most extra s (ms.map .deeper) t where
  numbered := h.numbered
  allNumbered m hm := by
    obtain ⟨m', hm', rfl⟩ := List.mem_map.1 hm
    exact h.allNumbered m' hm'
  remains := (lasts_remains anything).stepwise.deeper h.remains
  whole := h.whole
  before m hm := by
    obtain ⟨m', hm', rfl⟩ := List.mem_map.1 hm
    exact h.before m' hm'
  after m hm id hid := by
    obtain ⟨m', hm', rfl⟩ := List.mem_map.1 hm
    exact (h.after m' hm' id hid).mono (Nat.le_of_eq (by simp only [Moment.deeper]; omega))
  pairwise := List.pairwise_map.2 (h.pairwise.imp fun hmm id hid =>
    (hmm id hid).mono (Nat.le_of_eq (by simp only [Moment.deeper]; omega)))

end Hushes

/-! ## Rounds of telling -/

/-- Whoever is stopped already is told nothing, and whoever is stopped meanwhile is told no more
than there are rounds of telling under way. -/
def Hushed (s : Session ε) (ms : List (Moment ε)) (t : Session ε) : Prop :=
  s.Numbered → Hushes (fun _ => 0) 0 s ms t

theorem composable_hushed : Composable (Hushed (ε := ε)) :=
  .ofAside (fun _ hs => .nil hs)
    (fun hst htu hs =>
      (hst hs).append (htu (hst hs).numbered) (Nat.le_refl _) fun _ _ => Nat.le_refl _)
    fun {_ t} h hs => .single (m := .of t) (h.grows.numbered hs) h.grows.remains
      fun id _ => .ofEq (h.toldTo id) _

section

variable {n : Nat} (hact : Recounts anything (Hushed (ε := ε)) n)

include hact

theorem hushes_informing (snapshot : SessionState) (id : Nat) (hs : s.Numbered) :
    Hushes (fun other => if id = other then 1 else 0) 0 s
      (s.whileInforming (performWithin n) (momentsWithin n) snapshot id)
      (s.inform (performWithin n) snapshot id) := by
  unfold whileInforming inform
  cases hw : s.watcher? id with
  | none => exact .nil hs
  | some w =>
    simp only []
    by_cases hknown : (w.view.isSelective && w.last = some (w.view.look snapshot)) = true
    · rw [if_pos hknown, if_pos hknown]
      exact .nil hs
    · rw [if_neg hknown, if_neg hknown]
      have hgrows := Grows.informed s hw (w.view.look snapshot)
      have hinformed : Hushes (fun other => if id = other then 1 else 0) 0 s
          [.of (s.informed id (w.view.look snapshot))] (s.informed id (w.view.look snapshot)) := by
        refine .single (m := .of _) (hgrows.numbered hs) hgrows.remains fun other _ => ?_
        refine ⟨_, toldTo_informed s id other _, ?_⟩
        split <;> simp
      have hreacting := composable_hushed.reacting hact (obeys_anything _)
        (w.reaction.bind (·.action? w.count)) (fun _ _ => trivial) hinformed.numbered
      exact hinformed.append hreacting (Nat.le_refl _) fun _ _ => Nat.le_refl _

/-- What is left of a round of telling tells each of those that are still to be told at most one
thing, once they are stopped. -/
theorem hushes_telling (snapshot : SessionState) : ∀ {ids : List Nat}, ids.Nodup →
    ∀ {s : Session ε}, s.Numbered →
      Hushes (fun id => if id ∈ ids then 1 else 0) 1 s
        (whileTelling (performWithin n) (momentsWithin n) snapshot ids s)
        (ids.foldl (fun t id => t.inform (performWithin n) snapshot id) s)
  | [], _, s, hs => .nil hs
  | id :: ids, hids, s, hs => by
    obtain ⟨hid, hids⟩ := List.nodup_cons.1 hids
    have hfirst := hushes_informing hact snapshot id hs
    have hrest := hushes_telling snapshot hids hfirst.numbered
    -- who is stopped while the first is told may still be told in the rest of the round, once
    have hboth := hfirst.append hrest (Nat.zero_le _) fun other _ => by split <;> omega
    refine hboth.mono (fun other _ => ?_) (Nat.le_refl _)
    by_cases heq : id = other
    · subst heq
      simp [hid]
    · simp [heq, Ne.symm heq]

theorem hushed_changed (s : Session ε) (deed : Deed) :
    Hushed s (s.whileChanging (performWithin n) (momentsWithin n) deed)
      (s.change (performWithin n) (deed.apply s.defaults)) := by
  intro hs
  have hgrows := Grows.changedState s (deed.apply s.defaults s.state)
  have hnumbered := hgrows.numbered hs
  have hdone : Hushes (fun _ => 0) 0 s [⟨some deed, _, 0⟩] _ :=
    .single (m := ⟨some deed, _, 0⟩) hnumbered hgrows.remains fun _ _ => .ofEq rfl _
  have htelling := hushes_telling hact (deed.apply s.defaults s.state) hnumbered.nodup_audience
    hnumbered
  -- those that were stopped before are not told in this round
  have hsilent : Hushes (fun _ => 0) 0 _ _ _ := htelling.deeper.mono
    (fun _ hid => Nat.le_of_eq (if_neg (hnumbered.notMem_audience hid))) (Nat.le_refl _)
  exact hdone.append hsilent (Nat.le_refl _) fun _ _ => Nat.le_refl _

theorem hushed_watched (s : Session ε) (view : View) (reaction : Option (Reaction ε)) :
    Hushed s (s.whileWatching (performWithin n) (momentsWithin n) view reaction)
      (watch (performWithin n) { s with nextWatcher := s.nextWatcher + 1 } s.nextWatcher view
        reaction).1 := by
  intro hs
  have hgrows := Grows.greeted s view
  have hgreeted : Hushes (fun _ => 0) 0 s [.of (s.greeted view)] (s.greeted view) := by
    refine .single (m := .of _) (hgrows.numbered hs) hgrows.remains fun id hid => ?_
    obtain ⟨w, hw, rfl, -⟩ := isStopped_iff.1 hid
    exact .ofEq (toldTo_greeted s view (Nat.ne_of_lt (hs.lt w hw))) _
  have hwelcomed := composable_hushed.reacting hact (obeys_anything (s.greeted view))
    (if view.isSelective then reaction.bind (·.action? 0) else none)
    (fun _ _ => trivial) hgreeted.numbered
  have hnumbered := (grows_watch (grows_performWithin n) s view reaction).numbered hs
  rw [watch_eq] at hnumbered ⊢
  have hjoined : Hushes (fun _ => 0) 0 (s.welcomed (performWithin n) view reaction)
      [.of ((s.welcomed (performWithin n) view reaction).join (s.newcomer view reaction))] _ :=
    .single (m := .of _) hnumbered (remains_join _ _) fun _ _ => .ofEq rfl _
  exact (hgreeted.append hwelcomed (Nat.le_refl _) fun _ _ => Nat.le_refl _).append hjoined
    (Nat.le_refl _) fun _ _ => Nat.le_refl _

end

theorem piecewise_hushed : Piecewise anything (Hushed (ε := ε)) where
  toComposable := composable_hushed
  changed {_} hact {s} _ deed _ := hushed_changed hact s deed
  watched {_} hact {s} _ view {reaction} _ := hushed_watched hact s view reaction

theorem hushes_allMoments (hs : s.Numbered) (actions : List (Action ε)) :
    Hushes (fun _ => 0) 0 s (s.allMoments actions) (s.runAll actions) :=
  piecewise_hushed.allMoments (obeys_anything s) (fun _ _ => trivial) hs

/-- Let a watcher be stopped at some moment of a run.  At any later moment it was told no more than
one thing for each round of telling that was under way when it was stopped; so nothing, if none
was.  And whatever is begun at such a moment tells it nothing. -/
theorem told_at_most_rounds (defaults : Answers) (onSubmit onCancel : Option (Ending ε))
    (actions : List (Action ε)) (id : Nat) :
    let history := (start defaults onSubmit onCancel).allMoments actions
    (history.Pairwise fun m m' => m.session.isStopped id = true →
        ∃ more, m'.session.toldTo id = m.session.toldTo id ++ more ∧ more.length ≤ m.rounds)
      ∧ ∀ m ∈ history, m.session.isStopped id = true →
        ∀ later, (m.session.runAll later).toldTo id = m.session.toldTo id := by
  intro history
  have hhushes := hushes_allMoments (numbered_start defaults onSubmit onCancel) actions
  refine ⟨hhushes.pairwise.imp fun h => h id, fun m hm hid later => ?_⟩
  exact ((hushes_allMoments (hhushes.allNumbered m hm) later).whole id hid).toldTo_eq

/-- One watcher stops the next when it is told of a change, and that one is told of it as well. -/
theorem told_after_stop :
    let name : Field := ⟨"n", none, "", .basic .text none, none, none⟩
    let actions : List (Action Unit) := [.register name,
      .watch (.field 0 .answer) (some (.mk 1 1 (.stop 1))), .watch (.field 0 .answer) none,
      .set 0 (.text "a")]
    let s := start ∅ none none
    ¬ ((s.allMoments actions).Pairwise fun m m' => m.session.isStopped 1 = true →
        m'.session.toldTo 1 = m.session.toldTo 1)
      ∧ (s.runAll actions).toldTo 1 = [.answer none, .answer (some (.text "a"))] := by
  decide +kernel

end Session

end NoteForms
