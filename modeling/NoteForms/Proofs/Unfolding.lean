import NoteForms.Session.Run

/-!
# Actions are carried out to the end

Actions are carried out with a bound on how deep they cause others.  The bound is never reached:
whatever an action causes takes its share of what can still be caused in the session, so two ways to
carry out actions agree on one as soon as they agree on all that is smaller (`Agrees.perform`).  So
running an action means that whatever it causes is run in the same way (`Session.run_eq_perform`).
-/

namespace NoteForms

variable {ε : Type}

/-- How many actions an action can cause, if there is one. -/
def weightOf (action : Option (Action ε)) : Nat := (action.map Action.weight).getD 0

theorem Action.weight_pos (a : Action ε) : 0 < a.weight := by
  cases a with
  | watch focus reaction =>
    cases reaction <;> simp only [weight] <;> omega
  | andThen first next =>
    simp only [weight]
    omega
  | _ => simp [weight]

namespace Reaction

theorem remaining_zero : ∀ r : Reaction ε, r.remaining 0 = r.weight
  | .mk _ _ _ => by simp [remaining, weight]
  | .or first other => by
    rw [remaining, weight, remaining_zero first, remaining_zero other]

/-- Each time the reaction causes an action, that is taken off what it can still cause. -/
theorem remaining_succ (count : Nat) : ∀ r : Reaction ε,
    weightOf (r.action? count) + r.remaining (count + 1) ≤ r.remaining count
  | .mk skip times action => by
    simp only [action?, remaining]
    split
    · have hstep : times - (count - skip) = (times - (count + 1 - skip)) + 1 := by omega
      rw [hstep, Nat.succ_mul, weightOf, Option.map_some, Option.getD_some]
      omega
    · have hless : times - (count + 1 - skip) ≤ times - (count - skip) := by omega
      simpa [weightOf] using Nat.mul_le_mul_right action.weight hless
  | .or first other => by
    have hfirst := remaining_succ count first
    have hother := remaining_succ count other
    simp only [action?, remaining]
    cases h : first.action? count with
    | none =>
      rw [Option.none_or]
      omega
    | some a =>
      rw [h] at hfirst
      rw [Option.some_or]
      omega

end Reaction

/-- How many actions a reaction can still cause, if there is one. -/
def remainingOf (reaction : Option (Reaction ε)) (count : Nat) : Nat :=
  (reaction.map (·.remaining count)).getD 0

theorem remainingOf_succ (reaction : Option (Reaction ε)) (count : Nat) :
    weightOf (reaction.bind (·.action? count)) + remainingOf reaction (count + 1)
      ≤ remainingOf reaction count := by
  cases reaction with
  | none => exact Nat.le_refl _
  | some r => exact r.remaining_succ count

theorem Action.weight_watch (focus : Focus) (reaction : Option (Reaction ε)) :
    (Action.watch focus reaction).weight = 1 + remainingOf reaction 0 := by
  cases reaction with
  | none => simp [weight, remainingOf]
  | some r => simp [weight, remainingOf, r.remaining_zero]

/-- How many actions a watcher can still cause. -/
def Watcher.share (w : Watcher ε) : Nat := remainingOf w.reaction w.count

/-- How many actions some watchers can still cause. -/
def totalShare : List (Watcher ε) → Nat
  | [] => 0
  | w :: ws => w.share + totalShare ws

theorem totalShare_concat (w : Watcher ε) : ∀ ws : List (Watcher ε),
    totalShare (ws ++ [w]) = totalShare ws + w.share
  | [] => by simp [totalShare]
  | v :: ws => by
    rw [List.cons_append, totalShare, totalShare, totalShare_concat w ws, Nat.add_assoc]

/-! ## What can still be caused -/

namespace Session

variable {s : Session ε}

theorem foldl_share : ∀ (ws : List (Watcher ε)) (n : Nat),
    ws.foldl (fun n w => n + (w.reaction.map (·.remaining w.count)).getD 0) n
      = n + totalShare ws
  | [], _ => rfl
  | w :: ws, n => by
    rw [List.foldl_cons, foldl_share ws, totalShare, Watcher.share, remainingOf]
    omega

theorem budget_eq (s : Session ε) :
    s.budget = totalShare s.watchers + endingWeight s.onSubmit + endingWeight s.onCancel := by
  rw [budget, foldl_share, Nat.zero_add]

theorem budget_submitted (s : Session ε) :
    endingWeight s.onSubmit + budget { s with isClosed := true, onSubmit := none } = s.budget := by
  have hnone : endingWeight (none : Option (Ending ε)) = 0 := rfl
  simp only [budget_eq, hnone]
  omega

theorem budget_cancelled (s : Session ε) :
    endingWeight s.onCancel + budget { s with isClosed := true, onCancel := none } = s.budget := by
  have hnone : endingWeight (none : Option (Ending ε)) = 0 := rfl
  simp only [budget_eq, hnone]
  omega

section

variable (id : Nat) {f : Watcher ε → Watcher ε} (hf : ∀ w, (f w).share ≤ w.share)

include hf

theorem totalShare_update_le : ∀ ws : List (Watcher ε),
    totalShare (ws.map fun w => if w.id = id then f w else w) ≤ totalShare ws
  | [] => Nat.le_refl _
  | w :: ws => by
    have hw := hf w
    have hrest := totalShare_update_le ws
    simp only [List.map_cons, totalShare]
    split <;> omega

theorem totalShare_update {w : Watcher ε} (hid : w.id = id) {k : Nat}
    (hk : k + (f w).share ≤ w.share) : ∀ {ws : List (Watcher ε)}, w ∈ ws →
    k + totalShare (ws.map fun w => if w.id = id then f w else w) ≤ totalShare ws
  | v :: ws, hw => by
    simp only [List.map_cons, totalShare]
    rcases List.mem_cons.1 hw with rfl | hw
    · have hrest := totalShare_update_le id hf ws
      rw [if_pos hid]
      omega
    · have hv := hf v
      have hrest := totalShare_update hid hk hw
      split <;> omega

theorem budget_updateWatcher_le (s : Session ε) :
    (s.updateWatcher id f).budget ≤ s.budget := by
  have htotal := totalShare_update_le id hf s.watchers
  rw [budget_eq, budget_eq]
  simp only [updateWatcher]
  omega

theorem budget_updateWatcher {w : Watcher ε} (hw : s.watcher? id = some w) {k : Nat}
    (hk : k + (f w).share ≤ w.share) : k + (s.updateWatcher id f).budget ≤ s.budget := by
  have hid : w.id = id := by simpa using List.find?_some hw
  have htotal := totalShare_update id hf hid hk (List.mem_of_find?_eq_some hw)
  rw [budget_eq, budget_eq]
  simp only [updateWatcher]
  omega

end

theorem budget_watching (s : Session ε) (w : Watcher ε) :
    budget { s with watchers := s.watchers ++ [w] } = s.budget + w.share := by
  simp only [budget_eq, totalShare_concat]
  omega

end Session

/-! ## Two ways to carry out actions -/

open Session

/-- Two ways to carry out actions agree on all from which no more than so many actions can follow,
and one action less can follow from what becomes of them. -/
structure Agrees (most : Nat) (act act' : Action ε → Session ε → Session ε × Reply ε) : Prop where
  eq : ∀ {a s}, a.weight + s.budget ≤ most → act a s = act' a s
  spends : ∀ {a s}, a.weight + s.budget ≤ most → (act a s).1.budget < a.weight + s.budget

namespace Agrees

variable {most : Nat} {act act' : Action ε → Session ε → Session ε × Reply ε}
  (h : Agrees most act act') {s : Session ε}

include h

theorem react {action : Option (Action ε)} (hm : weightOf action + s.budget ≤ most) :
    s.react act action = s.react act' action
      ∧ (s.react act action).budget ≤ weightOf action + s.budget := by
  cases action with
  | none => exact ⟨rfl, Nat.le_add_left _ _⟩
  | some a =>
    refine ⟨?_, Nat.le_of_lt (h.spends hm)⟩
    simp only [Session.react, h.eq hm]

theorem tell (id count : Nat) (reaction : Option (Reaction ε)) (sight : Sight)
    (hm : weightOf (reaction.bind (·.action? count)) + s.budget ≤ most) :
    s.tell act id count reaction sight = s.tell act' id count reaction sight
      ∧ (s.tell act id count reaction sight).budget
        ≤ weightOf (reaction.bind (·.action? count)) + s.budget :=
  h.react (s := s.note (.told id sight)) hm

theorem inform (snapshot : SessionState) (id : Nat) (hm : s.budget ≤ most) :
    s.inform act snapshot id = s.inform act' snapshot id
      ∧ (s.inform act snapshot id).budget ≤ s.budget := by
  unfold Session.inform
  split
  · exact ⟨rfl, Nat.le_refl _⟩
  · rename_i w hw
    simp only []
    split
    · exact ⟨rfl, Nat.le_refl _⟩
    · have hmarked := budget_updateWatcher id
        (f := fun v => { v with last := some (w.view.look snapshot), count := v.count + 1 })
        (fun v => Nat.le_trans (Nat.le_add_left _ _) (remainingOf_succ v.reaction v.count)) hw
        (remainingOf_succ w.reaction w.count)
      obtain ⟨heq, hspent⟩ := h.tell id w.count w.reaction (w.view.look snapshot)
        (Nat.le_trans hmarked hm)
      exact ⟨heq, Nat.le_trans hspent hmarked⟩

theorem informAll (snapshot : SessionState) : ∀ (ids : List Nat) {s : Session ε},
    s.budget ≤ most →
    ids.foldl (fun t id => t.inform act snapshot id) s
        = ids.foldl (fun t id => t.inform act' snapshot id) s
      ∧ (ids.foldl (fun t id => t.inform act snapshot id) s).budget ≤ s.budget
  | [], _, _ => ⟨rfl, Nat.le_refl _⟩
  | id :: ids, s, hm => by
    obtain ⟨heq, hspent⟩ := h.inform snapshot id hm
    obtain ⟨hrest, hspent'⟩ := informAll snapshot ids (Nat.le_trans hspent hm)
    simp only [List.foldl_cons]
    exact ⟨by rw [hrest, heq], Nat.le_trans hspent' hspent⟩

theorem change (f : SessionState → SessionState) (hm : s.budget ≤ most) :
    s.change act f = s.change act' f ∧ (s.change act f).budget ≤ s.budget :=
  h.informAll _ _ (s := { s with state := f s.state }) hm

theorem conclude (event : Event ε) (ending : Option (Ending ε))
    (hm : endingWeight ending + s.budget ≤ most) :
    s.conclude act event ending = s.conclude act' event ending
      ∧ (s.conclude act event ending).budget ≤ endingWeight ending + s.budget := by
  cases ending with
  | none => exact ⟨rfl, Nat.le_add_left _ _⟩
  | some e => exact h.react (s := s.note event) hm

theorem submit (hm : s.budget ≤ most) :
    s.submit act = s.submit act' ∧ (s.submit act).1.budget ≤ s.budget := by
  obtain ⟨heq, hspent⟩ := h.change SessionState.attempted hm
  unfold Session.submit
  rw [← heq]
  split
  · exact ⟨rfl, Nat.le_refl _⟩
  · simp only []
    generalize s.change act SessionState.attempted = t at hspent ⊢
    split
    · have hclosed := budget_submitted t
      obtain ⟨hend, hspent'⟩ := h.conclude (s := { t with isClosed := true, onSubmit := none })
        (.submitted t.state.answers) t.onSubmit (by omega)
      rw [← hend]
      exact ⟨rfl, Nat.le_trans hspent' (by omega)⟩
    · exact ⟨rfl, hspent⟩

theorem cancel (hm : s.budget ≤ most) :
    s.cancel act = s.cancel act' ∧ (s.cancel act).budget ≤ s.budget := by
  obtain ⟨heq, hspent⟩ := h.change SessionState.cancelled hm
  unfold Session.cancel
  rw [← heq]
  split
  · exact ⟨rfl, Nat.le_refl _⟩
  · simp only []
    generalize s.change act SessionState.cancelled = t at hspent ⊢
    have hclosed := budget_cancelled t
    obtain ⟨hend, hspent'⟩ := h.conclude (s := { t with isClosed := true, onCancel := none })
      .cancelled t.onCancel (by omega)
    exact ⟨hend, by omega⟩

theorem watch (id : Nat) (view : View) (reaction : Option (Reaction ε))
    (hm : remainingOf reaction 0 + s.budget ≤ most) :
    s.watch act id view reaction = s.watch act' id view reaction
      ∧ (s.watch act id view reaction).1.budget ≤ remainingOf reaction 0 + s.budget := by
  unfold Session.watch
  by_cases hselective : view.isSelective = true
  · have htaken := remainingOf_succ reaction 0
    obtain ⟨heq, hspent⟩ := h.tell id 0 reaction (view.look s.state) (s := s) (by omega)
    simp only [if_pos hselective, budget_watching, Watcher.share]
    refine ⟨by rw [heq], ?_⟩
    rw [Nat.zero_add] at htaken
    omega
  · simp only [if_neg hselective, budget_watching, Watcher.share]
    exact ⟨trivial, by omega⟩

omit h

theorem withField (handle : Nat) {f f' : Field → Session ε}
    (hf : ∀ field, f field = f' field ∧ (f field).budget ≤ s.budget) :
    s.withField handle f = s.withField handle f'
      ∧ (s.withField handle f).1.budget ≤ s.budget := by
  unfold Session.withField
  split
  · rename_i field _
    obtain ⟨heq, hspent⟩ := hf field
    exact ⟨by rw [heq], hspent⟩
  · exact ⟨rfl, Nat.le_refl _⟩

include h

/-- One action agrees as soon as all that it causes does. -/
theorem perform {action : Action ε} (hm : action.weight + s.budget ≤ most + 1) :
    s.perform act action = s.perform act' action
      ∧ (s.perform act action).1.budget < action.weight + s.budget := by
  have hpos := action.weight_pos
  have hs : s.budget ≤ most := by omega
  have hkept : s.budget < action.weight + s.budget := by omega
  have hwrite : ∀ handle (answer : Field → Option Answer),
      (s.withField handle fun field => s.write act field (answer field))
          = (s.withField handle fun field => s.write act' field (answer field))
        ∧ (s.withField handle fun field => s.write act field (answer field)).1.budget
          < action.weight + s.budget := by
    intro handle answer
    obtain ⟨heq, hspent⟩ := withField handle fun field =>
      h.change (fun state => state.setAnswer field.name (answer field)) hs
    exact ⟨heq, Nat.lt_of_le_of_lt hspent hkept⟩
  have hstop : ∀ id {f : Watcher ε → Watcher ε}, (∀ w, (f w).share = w.share) →
      (s.updateWatcher id f).budget < action.weight + s.budget := fun id _ hf =>
    Nat.lt_of_le_of_lt (budget_updateWatcher_le id (fun w => Nat.le_of_eq (hf w)) s) hkept
  cases action with
  | set handle answer => exact hwrite handle _
  | clear handle => exact hwrite handle _
  | update handle f => exact hwrite handle _
  | updateItems handle f => exact hwrite handle _
  | read handle =>
    refine ⟨rfl, ?_⟩
    simp only [Session.perform]
    split <;> exact hkept
  | register field =>
    obtain ⟨heq, hspent⟩ := h.change (fun state => state.register field s.defaults) hs
    simp only [Session.perform, Session.register, heq]
    rw [heq] at hspent
    exact ⟨trivial, Nat.lt_of_le_of_lt hspent hkept⟩
  | submit =>
    obtain ⟨heq, hspent⟩ := h.submit hs
    exact ⟨heq, Nat.lt_of_le_of_lt hspent hkept⟩
  | cancel =>
    obtain ⟨heq, hspent⟩ := h.cancel hs
    simp only [Session.perform, ← heq]
    exact ⟨trivial, by omega⟩
  | answers => exact ⟨rfl, hkept⟩
  | watch focus reaction =>
    rw [Action.weight_watch] at hm hkept ⊢
    have hnumbered : budget { s with nextWatcher := s.nextWatcher + 1 } = s.budget := rfl
    simp only [Session.perform]
    cases view? { s with nextWatcher := s.nextWatcher + 1 } focus with
    | none => exact ⟨rfl, hkept⟩
    | some view =>
      obtain ⟨heq, hspent⟩ := h.watch (s := { s with nextWatcher := s.nextWatcher + 1 })
        s.nextWatcher view reaction (by omega)
      exact ⟨heq, Nat.lt_of_le_of_lt hspent (by omega)⟩
  | stop id =>
    refine ⟨rfl, ?_⟩
    simp only [Session.perform]
    split
    · exact hstop id fun _ => rfl
    · exact hkept
  | release id =>
    refine ⟨rfl, ?_⟩
    simp only [Session.perform]
    split
    · exact hstop id fun _ => rfl
    · exact hkept
  | refused reason => exact ⟨rfl, hkept⟩
  | refusedAt handle reason =>
    refine ⟨rfl, ?_⟩
    simp only [Session.perform]
    split <;> exact hkept
  | andThen first next =>
    simp only [Action.weight] at hm ⊢
    have hnext := next.weight_pos
    have hfirst : first.weight + s.budget ≤ most := by omega
    have hspent := h.spends hfirst
    have hrest : next.weight + (act first s).1.budget ≤ most := by omega
    have hspent' := h.spends hrest
    simp only [Session.perform]
    rw [← h.eq hfirst, ← h.eq hrest]
    exact ⟨rfl, by omega⟩

end Agrees

/-! ## The bound -/

namespace Session

/-- Every bound that covers what can be caused gives the same. -/
theorem agrees_performWithin (j k : Nat) : ∀ most : Nat,
    Agrees (ε := ε) most (performWithin (most + j)) (performWithin (most + k))
  | 0 => by
    refine ⟨fun {a _} hm => ?_, fun {a _} hm => ?_⟩
    · have hpos := a.weight_pos
      omega
    · have hpos := a.weight_pos
      omega
  | most + 1 => by
    have hind := agrees_performWithin j k most
    rw [Nat.add_right_comm most 1 j, Nat.add_right_comm most 1 k]
    exact ⟨fun hm => (hind.perform hm).1, fun hm => (hind.perform hm).2⟩

theorem agrees_run (most : Nat) :
    Agrees (ε := ε) most (performWithin most) (fun action s => s.run action) where
  eq {a s} hm := by
    obtain ⟨j, rfl⟩ := Nat.exists_eq_add_of_le hm
    exact (agrees_performWithin j 1 (a.weight + s.budget)).eq (Nat.le_refl _)
  spends hm := (agrees_performWithin 0 0 most).spends hm

/-- Running an action means that whatever it causes is run in the same way. -/
theorem run_eq_perform (action : Action ε) (s : Session ε) :
    s.run action = s.perform (fun action s => s.run action) action :=
  ((agrees_run (action.weight + s.budget)).perform (Nat.le_succ _)).1

/-- What can be caused becomes less with every action. -/
theorem budget_run_lt (action : Action ε) (s : Session ε) :
    (s.run action).1.budget < action.weight + s.budget :=
  (agrees_performWithin 1 1 (action.weight + s.budget)).spends (Nat.le_refl _)

end Session

end NoteForms
