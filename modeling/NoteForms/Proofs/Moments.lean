import NoteForms.Proofs.Watchers

/-!
# The moments of a run

What is done to a session may cause more to be done while watchers are still being told, so the
states in which a session is left do not show all the states that it was in.  Here a run is taken
apart into its moments: each of them is a session as it comes up while something is carried out,
with what has just been done to its state and with how many rounds of telling are under way.

A statement about moments is proved of single changes (`Stepwise`), or of whole rounds of telling
(`Piecewise`), and then holds of every run (`Piecewise.allMoments`).  What is proved of single
changes also holds of a run up to any of its moments (`Stepwise.upTo`).
-/

namespace NoteForms

variable {ε : Type}

/-! ## What is done to a state -/

/-- What is done to the state of a session. -/
inductive Deed
  | registered (field : Field)
  /-- An answer was made of the one that was there. -/
  | answered (name : String) (edit : Option Answer → Option Answer)
  | attempted
  | cancelled

namespace Deed

/-- The name of the field to which something is done, if it is done to one. -/
def name? : Deed → Option String
  | .registered field => some field.name
  | .answered name _ => some name
  | .attempted | .cancelled => none

/-- The state when it is done. -/
def apply (defaults : Answers) : Deed → SessionState → SessionState
  | .registered field, s => s.register field defaults
  | .answered name edit, s => s.setAnswer name (edit (s.answer? name))
  | .attempted, s => s.attempted
  | .cancelled, s => s.cancelled

end Deed

/-- What an action makes of the answer to the field of a handle, if that is what it does. -/
def Action.edit? : Action ε → Option (Nat × (Field → Option Answer → Option Answer))
  | .set handle answer => some (handle, fun field _ => some (field.input.kind.coerce answer))
  | .clear handle => some (handle, fun _ _ => none)
  | .update handle f => some (handle, fun field old => (f old).map field.input.kind.coerce)
  | .updateItems handle f => some (handle, fun _ old =>
      some (.list (f ((old.bind Answer.list?).getD []))))
  | _ => none

/-- What may be made of the answer to a field through a handle of it: any answer, as the input of
the field keeps it, or none; or a list, made of the items that are there. -/
inductive Field.Edits (field : Field) : (Option Answer → Option Answer) → Prop
  | kept (f : Option Answer → Option Answer) :
      field.Edits fun old => (f old).map field.input.kind.coerce
  | listed (f : List String → List String) :
      field.Edits fun old => some (.list (f ((old.bind Answer.list?).getD [])))

theorem Action.edits_of_edit? {action : Action ε} {handle : Nat}
    {edit : Field → Option Answer → Option Answer} (h : action.edit? = some (handle, edit))
    (field : Field) : field.Edits (edit field) := by
  cases action with
  | set _ answer =>
    cases h
    exact .kept fun _ => some answer
  | clear =>
    cases h
    exact .kept fun _ => none
  | update _ f =>
    cases h
    exact .kept f
  | updateItems _ f =>
    cases h
    exact .listed f
  | _ => cases h

theorem Session.perform_of_edit? (act : Action ε → Session ε → Session ε × Reply ε)
    (s : Session ε) {action : Action ε} {handle : Nat}
    {edit : Field → Option Answer → Option Answer} (h : action.edit? = some (handle, edit)) :
    s.perform act action = s.withField handle fun field =>
      s.change act ((Deed.answered field.name (edit field)).apply s.defaults) := by
  cases action with
  | set _ _ | clear _ | update _ _ | updateItems _ _ =>
    cases h
    rfl
  | _ => cases h

/-! ## Moments -/

/-- A moment of a run: what has just been done to the state, if anything, the session then, and how
many rounds of telling are under way. -/
structure Moment (ε : Type) where
  deed : Option Deed
  session : Session ε
  rounds : Nat

namespace Moment

/-- A moment in which nothing was done to the state and nobody is being told. -/
def of (s : Session ε) : Moment ε := ⟨none, s, 0⟩

/-- The same in one more round of telling. -/
def deeper (m : Moment ε) : Moment ε := { m with rounds := m.rounds + 1 }

end Moment

/-- What was done at some moments. -/
def deedsOf (ms : List (Moment ε)) : List Deed := ms.filterMap (·.deed)

theorem deedsOf_eq_nil {ms : List (Moment ε)} (h : ∀ m ∈ ms, m.deed = none) : deedsOf ms = [] :=
  List.filterMap_eq_nil_iff.2 h

theorem deedsOf_append (ms ns : List (Moment ε)) : deedsOf (ms ++ ns) = deedsOf ms ++ deedsOf ns :=
  List.filterMap_append

theorem deedsOf_deeper (ms : List (Moment ε)) : deedsOf (ms.map .deeper) = deedsOf ms := by
  rw [deedsOf, List.filterMap_map]
  rfl

namespace Session

/-- What a watcher was told, in order. -/
def toldTo (s : Session ε) (id : Nat) : List Sight := s.events.reverse.filterMap (Event.toldTo? id)

/-- The numbers of those that are told when all are. -/
def audience (s : Session ε) : List Nat := (s.watchers.filter (·.isActive)).map (·.id)

section

variable (act : Action ε → Session ε → Session ε × Reply ε)
  (course : Action ε → Session ε → List (Moment ε))

/-- The moments while something that was caused is carried out, if there is anything. -/
def whileReacting (s : Session ε) : Option (Action ε) → List (Moment ε)
  | none => []
  | some action => course action s ++ [.of (s.react act (some action))]

/-- The moments while a watcher is told of a state, if it is new to the watcher. -/
def whileInforming (snapshot : SessionState) (s : Session ε) (id : Nat) : List (Moment ε) :=
  match s.watcher? id with
  | none => []
  | some w =>
    let sight := w.view.look snapshot
    if w.view.isSelective && w.last = some sight then []
    else
      let t := s.informed id sight
      .of t :: t.whileReacting act course (w.reaction.bind (·.action? w.count))

/-- The moments while watchers are told of a state, one after the other. -/
def whileTelling (snapshot : SessionState) : List Nat → Session ε → List (Moment ε)
  | [], _ => []
  | id :: ids, s =>
    s.whileInforming act course snapshot id
      ++ whileTelling snapshot ids (s.inform act snapshot id)

/-- The moments from a change of the state until all were told of it. -/
def whileChanging (s : Session ε) (deed : Deed) : List (Moment ε) :=
  let t := { s with state := deed.apply s.defaults s.state }
  ⟨some deed, t, 0⟩ :: (whileTelling act course t.state t.audience t).map .deeper

/-- The moments while a session is concluded: what is noted, and what the ending causes. -/
def whileConcluding (s : Session ε) (event : Event ε) : Option (Ending ε) → List (Moment ε)
  | none => []
  | some ending => .of (s.note event) :: (s.note event).whileReacting act course ending.action

/-- The moments of an attempt to submit, up to the end of the session if it is accepted. -/
def whileSubmitting (s : Session ε) : List (Moment ε) :=
  if s.isClosed then []
  else
    let t := s.change act SessionState.attempted
    let closed := { t with isClosed := true, onSubmit := none }
    s.whileChanging act course .attempted
      ++ if s.state.checkAll.isValid then
          .of closed :: closed.whileConcluding act course (.submitted t.state.answers) t.onSubmit
        else []

/-- The moments while a session is cancelled, unless it is closed. -/
def whileCancelling (s : Session ε) : List (Moment ε) :=
  if s.isClosed then []
  else
    let t := s.change act SessionState.cancelled
    let closed := { t with isClosed := true, onCancel := none }
    s.whileChanging act course .cancelled
      ++ .of closed :: closed.whileConcluding act course .cancelled t.onCancel

/-- The moments while a watcher is greeted and joins. -/
def whileWatching (s : Session ε) (view : View) (reaction : Option (Reaction ε)) :
    List (Moment ε) :=
  .of (s.greeted view)
    :: (s.greeted view).whileReacting act course
        (if view.isSelective then reaction.bind (·.action? 0) else none)
    ++ [.of ((s.welcomed act view reaction).join (s.newcomer view reaction))]

/-- The moments while an action is carried out, those of what it causes included. -/
def whilePerforming (action : Action ε) (s : Session ε) : List (Moment ε) :=
  match action.edit? with
  | some (handle, edit) =>
    match s.fields[handle]? with
    | some field => s.whileChanging act course (.answered field.name (edit field))
    | none => []
  | none =>
    match action with
    | .register field =>
      s.whileChanging act course (.registered field) ++ [.of (s.register act field).1]
    | .submit => s.whileSubmitting act course
    | .cancel => s.whileCancelling act course
    | .watch focus reaction =>
      match s.view? focus with
      | some view => s.whileWatching act course view reaction
      | none => [.of { s with nextWatcher := s.nextWatcher + 1 }]
    | .andThen first next => course first s ++ course next (act first s).1
    | action => [.of (s.perform act action).1]

end

/-- The moments of an action in which actions cause others so deep. -/
def momentsWithin : Nat → Action ε → Session ε → List (Moment ε)
  | 0, _, _ => []
  | depth + 1, action, s => s.whilePerforming (performWithin depth) (momentsWithin depth) action

/-- The moments while actions are carried out one after the other. -/
def allMoments (s : Session ε) : List (Action ε) → List (Moment ε)
  | [] => []
  | a :: actions =>
    s.momentsWithin (a.weight + s.budget + 1) a ++ allMoments (s.run a).1 actions

/-! ## Single steps -/

/-- A step of a session that neither changes its state nor tells anybody anything. -/
inductive Aside : Session ε → Session ε → Prop
  | still (s : Session ε) : Aside s s
  | noted (s : Session ε) {e : Event ε} (h : ∀ id, e.toldTo? id = none) : Aside s (s.note e)
  | handled (s : Session ε) (field : Field) : Aside s { s with fields := s.fields ++ [field] }
  | numbered (s : Session ε) : Aside s { s with nextWatcher := s.nextWatcher + 1 }
  | unheld (s : Session ε) (id : Nat) {f : Watcher ε → Watcher ε}
      (h : ∀ w, w.Becomes (f w) ∧ (f w).last = w.last) : Aside s (s.updateWatcher id f)
  | submitted (s : Session ε) : Aside s { s with isClosed := true, onSubmit := none }
  | cancelled (s : Session ε) : Aside s { s with isClosed := true, onCancel := none }

section

variable (act : Action ε → Session ε → Session ε × Reply ε) (s : Session ε)

theorem aside_stop (id : Nat) : s.Aside (s.perform act (.stop id)).1
    ∧ (s.perform act (.stop id)).1.fields = s.fields := by
  simp only [perform]
  split
  · refine ⟨.unheld s id fun w => ⟨⟨rfl, rfl, rfl, Nat.le_refl _, fun hw => ?_⟩, rfl⟩, rfl⟩
    exact absurd hw Bool.false_ne_true
  · exact ⟨.still s, rfl⟩

theorem aside_release (id : Nat) : s.Aside (s.perform act (.release id)).1
    ∧ (s.perform act (.release id)).1.fields = s.fields := by
  simp only [perform]
  split
  · exact ⟨.unheld s id fun w => ⟨⟨rfl, rfl, rfl, Nat.le_refl _, fun hw => hw⟩, rfl⟩, rfl⟩
  · exact ⟨.still s, rfl⟩

theorem aside_read (handle : Nat) : s.Aside (s.perform act (.read handle)).1
    ∧ (s.perform act (.read handle)).1.fields = s.fields := by
  simp only [perform]
  split <;> exact ⟨.still s, rfl⟩

theorem aside_refusedAt (handle : Nat) (reason : ε) :
    s.Aside (s.perform act (.refusedAt handle reason)).1
      ∧ (s.perform act (.refusedAt handle reason)).1.fields = s.fields := by
  simp only [perform]
  split <;> exact ⟨.still s, rfl⟩

end

/-! ## What is told -/

theorem toldTo_note (s : Session ε) (e : Event ε) (id : Nat) :
    (s.note e).toldTo id = s.toldTo id ++ (e.toldTo? id).toList := by
  rw [toldTo, note, List.reverse_cons, List.filterMap_append, toldTo]
  cases h : e.toldTo? id <;> simp [h]

theorem Aside.toldTo {s t : Session ε} (h : s.Aside t) (id : Nat) : t.toldTo id = s.toldTo id := by
  cases h with
  | noted hevent => rw [toldTo_note, hevent, Option.toList_none, List.append_nil]
  | _ => rfl

theorem Aside.grows {s t : Session ε} (h : s.Aside t) : s.Grows t := by
  cases h with
  | noted hevent => exact .ofUnmoved (unmoved_note s hevent)
  | numbered => exact .numbering s
  | unheld id hf => exact .updateWatcher s id fun w => (hf w).1
  | _ => exact .ofUnmoved ⟨rfl, rfl, rfl, fun _ => rfl⟩

theorem Aside.state {s t : Session ε} (h : s.Aside t) : t.state = s.state := by
  cases h <;> rfl

theorem Aside.becomes {s t : Session ε} (h : s.Aside t) :
    ∀ w ∈ t.watchers, ∃ v ∈ s.watchers, v.Becomes w ∧ w.last = v.last := by
  intro w hw
  cases h with
  | unheld id hf =>
    obtain ⟨v, hv, rfl⟩ := List.mem_map.1 hw
    refine ⟨v, hv, ?_⟩
    split
    · exact hf v
    · exact ⟨.refl v, rfl⟩
  | _ => exact ⟨w, hw, .refl w, rfl⟩

theorem toldTo_informed (s : Session ε) (id other : Nat) (sight : Sight) :
    (s.informed id sight).toldTo other
      = s.toldTo other ++ if id = other then [sight] else [] := by
  refine (toldTo_note _ _ other).trans ?_
  rw [Event.toldTo?]
  by_cases h : id = other <;> simp [h] <;> rfl

theorem toldTo_greeted (s : Session ε) (view : View) {id : Nat} (h : id ≠ s.nextWatcher) :
    (s.greeted view).toldTo id = s.toldTo id := by
  unfold greeted
  simp only []
  split
  · refine (toldTo_note _ _ id).trans ?_
    rw [Event.toldTo?, if_neg h.symm, Option.toList_none, List.append_nil]
    rfl
  · rfl

theorem Obeys.greeted {D : Discipline ε} {s : Session ε} (hs : s.Obeys D) (view : View) :
    (s.greeted view).Obeys D := by
  unfold Session.greeted
  simp only []
  split <;> exact ⟨hs.watchers, hs.onSubmit, hs.onCancel⟩

theorem Numbered.nodup_audience {s : Session ε} (hs : s.Numbered) : s.audience.Nodup :=
  hs.nodup.sublist (List.filter_sublist.map _)

/-! ## Whole runs -/

/-- What may be done to the state: an answer is changed through a handle of its field, and an end
comes only in an open session. -/
def Admits (D : Discipline ε) (s : Session ε) : Deed → Prop
  | .registered _ => True
  | .answered name edit => ∃ field ∈ s.fields, field.name = name ∧ field.Edits edit
  | .attempted => D.acts .submit ∧ s.isClosed = false
  | .cancelled => D.acts .cancel ∧ s.isClosed = false

end Session

open Session

/-- What is said of the moments of actions. -/
def Recounts (D : Discipline ε) (Q : Session ε → List (Moment ε) → Session ε → Prop) (n : Nat) :
    Prop :=
  ∀ {a s}, D.acts a → s.Obeys D → Q s (momentsWithin n a s) (performWithin n a s).1

/-- A statement about the moments between two sessions that can be put together of parts.  A handle
is given for a field that was registered. -/
structure Composable (Q : Session ε → List (Moment ε) → Session ε → Prop) : Prop where
  nil : ∀ s, Q s [] s
  append : ∀ {s t u ms ns}, Q s ms t → Q t ns u → Q s (ms ++ ns) u
  aside : ∀ {s t}, s.Aside t → t.fields = s.fields → Q s [.of t] t
  handled : ∀ {s t ms field}, .registered field ∈ deedsOf ms → Q s ms t →
    Q s (ms ++ [.of { t with fields := t.fields ++ [field] }])
      { t with fields := t.fields ++ [field] }

namespace Composable

/-- It makes no difference to most statements what a handle is given for. -/
theorem ofAside {Q : Session ε → List (Moment ε) → Session ε → Prop} (nil : ∀ s, Q s [] s)
    (append : ∀ {s t u ms ns}, Q s ms t → Q t ns u → Q s (ms ++ ns) u)
    (aside : ∀ {s t}, s.Aside t → Q s [.of t] t) : Composable Q where
  nil := nil
  append := append
  aside h _ := aside h
  handled _ h := append h (aside (.handled _ _))

variable {D : Discipline ε} {Q : Session ε → List (Moment ε) → Session ε → Prop}
  (h : Composable Q) {n : Nat} {s : Session ε}

include h

theorem cons {t u : Session ε} {ms : List (Moment ε)} (hst : s.Aside t)
    (hfields : t.fields = s.fields) (htu : Q t ms u) : Q s (.of t :: ms) u :=
  h.append (h.aside hst hfields) htu

theorem reacting (hact : Recounts D Q n) (hs : s.Obeys D) (action : Option (Action ε))
    (ha : ∀ a ∈ action, D.acts a) :
    Q s (s.whileReacting (performWithin n) (momentsWithin n) action)
      (s.react (performWithin n) action) := by
  cases action with
  | none => exact h.nil s
  | some a => exact h.append (hact (ha a rfl) hs) (h.aside (.noted _ fun _ => rfl) rfl)

end Composable

theorem Discipline.acts_of_welcome (D : Discipline ε) {reaction : Option (Reaction ε)}
    (hr : ∀ r ∈ reaction, r.Does D.reacts) (view : View) :
    ∀ a ∈ if view.isSelective then reaction.bind (·.action? 0) else none, D.acts a := by
  split
  · exact D.acts_of_reaction hr 0
  · simp

/-- Such a statement, if it holds of whole rounds of telling and of beginning to watch as well. -/
structure Piecewise (D : Discipline ε) (Q : Session ε → List (Moment ε) → Session ε → Prop) : Prop
    extends Composable Q where
  changed : ∀ {n}, Recounts D Q n → ∀ {s}, s.Obeys D → ∀ deed, s.Admits D deed →
    Q s (s.whileChanging (performWithin n) (momentsWithin n) deed)
      (s.change (performWithin n) (deed.apply s.defaults))
  watched : ∀ {n}, Recounts D Q n → ∀ {s}, s.Obeys D → ∀ view {reaction : Option (Reaction ε)},
    (∀ r ∈ reaction, r.Does D.reacts) →
    Q s (s.whileWatching (performWithin n) (momentsWithin n) view reaction)
      (watch (performWithin n) { s with nextWatcher := s.nextWatcher + 1 } s.nextWatcher view
        reaction).1

namespace Piecewise

variable {D : Discipline ε} {Q : Session ε → List (Moment ε) → Session ε → Prop}
  (h : Piecewise D Q) {n : Nat} (hact : Recounts D Q n) {s : Session ε}

include h hact

theorem concluding (hs : s.Obeys D) {event : Event ε} (hevent : ∀ id, event.toldTo? id = none)
    {ending : Option (Ending ε)} (he : ∀ e ∈ ending, ∀ a ∈ e.action, D.acts a) :
    Q s (s.whileConcluding (performWithin n) (momentsWithin n) event ending)
      (s.conclude (performWithin n) event ending) := by
  cases ending with
  | none => exact h.nil s
  | some e =>
    have hnoted : (s.note event).Obeys D := ⟨hs.watchers, hs.onSubmit, hs.onCancel⟩
    exact h.cons (.noted s hevent) rfl (h.reacting hact hnoted e.action (he e rfl))

theorem submitting (hs : s.Obeys D) (hacts : D.acts .submit) :
    Q s (s.whileSubmitting (performWithin n) (momentsWithin n))
      (s.submit (performWithin n)).1 := by
  have hchange := hs.change ((kept_obeys D).performWithin n · · |>.1) SessionState.attempted
  unfold whileSubmitting Session.submit
  split
  · exact h.nil s
  · rename_i hopen
    have hdone := h.changed hact hs .attempted ⟨hacts, Bool.not_eq_true _ ▸ hopen⟩
    simp only []
    split
    · refine h.append hdone (h.cons (.submitted _) rfl (h.concluding hact ?_ (fun _ => rfl) ?_))
      · exact ⟨hchange.watchers, by simp, hchange.onCancel⟩
      · exact fun e he a ha => D.acts_of_ends (.inl hacts) (hchange.onSubmit e he a ha)
    · rw [List.append_nil]
      exact hdone

theorem cancelling (hs : s.Obeys D) (hacts : D.acts .cancel) :
    Q s (s.whileCancelling (performWithin n) (momentsWithin n))
      (s.cancel (performWithin n)) := by
  have hchange := hs.change ((kept_obeys D).performWithin n · · |>.1) SessionState.cancelled
  unfold whileCancelling Session.cancel
  split
  · exact h.nil s
  · rename_i hopen
    have hdone := h.changed hact hs .cancelled ⟨hacts, Bool.not_eq_true _ ▸ hopen⟩
    refine h.append hdone (h.cons (.cancelled _) rfl (h.concluding hact ?_ (fun _ => rfl) ?_))
    · exact ⟨hchange.watchers, hchange.onSubmit, by simp⟩
    · exact fun e he a ha => D.acts_of_ends (.inr hacts) (hchange.onCancel e he a ha)

theorem performing {action : Action ε} (ha : D.acts action) (hs : s.Obeys D) :
    Q s (s.whilePerforming (performWithin n) (momentsWithin n) action)
      (s.perform (performWithin n) action).1 := by
  cases hedit : action.edit? with
  | some p =>
    -- whatever is made of an answer, it is one change
    obtain ⟨handle, edit⟩ := p
    rw [s.perform_of_edit? _ hedit]
    simp only [whilePerforming, hedit, withField]
    cases hfield : s.fields[handle]? with
    | some field =>
      exact h.changed hact hs (.answered field.name (edit field))
        ⟨field, List.mem_of_getElem? hfield, rfl, Action.edits_of_edit? hedit field⟩
    | none => exact h.nil s
  | none =>
    cases action with
    | set _ _ | clear _ | update _ _ | updateItems _ _ => cases hedit
    | register field =>
      exact h.handled List.mem_cons_self (h.changed hact hs (.registered field) trivial)
    | submit => exact h.submitting hact hs ha
    | cancel => exact h.cancelling hact hs ha
    | watch focus reaction =>
      have hr : ∀ r ∈ reaction, r.Does D.reacts := by
        rintro r rfl
        exact D.reacts_of_watch ha
      have hview : view? { s with nextWatcher := s.nextWatcher + 1 } focus = s.view? focus := rfl
      simp only [whilePerforming, Action.edit?, Session.perform, hview]
      cases s.view? focus with
      | some view => exact h.watched hact hs view hr
      | none => exact h.aside (.numbered s) rfl
    | stop id => exact h.aside (aside_stop _ s id).1 (aside_stop _ s id).2
    | release id => exact h.aside (aside_release _ s id).1 (aside_release _ s id).2
    | read handle => exact h.aside (aside_read _ s handle).1 (aside_read _ s handle).2
    | refusedAt handle reason =>
      exact h.aside (aside_refusedAt _ s handle reason).1 (aside_refusedAt _ s handle reason).2
    | answers => exact h.aside (.still s) rfl
    | refused reason => exact h.aside (.still s) rfl
    | andThen first next =>
      obtain ⟨hfirst, hnext⟩ := D.acts_of_andThen ha
      have hobeys := ((kept_obeys D).performWithin n hfirst hs).1
      exact h.append (hact hfirst hs) (hact hnext hobeys)

omit hact

/-- However deep actions cause others.  The induction is on that depth. -/
theorem performWithin : ∀ n : Nat, Recounts D Q n
  | 0 => fun _ _ => h.nil _
  | n + 1 => fun ha hs => h.performing (performWithin n) ha hs

theorem allMoments : ∀ {actions : List (Action ε)} {s : Session ε}, s.Obeys D →
    (∀ a ∈ actions, D.acts a) → Q s (s.allMoments actions) (s.runAll actions)
  | [], s, _, _ => h.nil s
  | a :: actions, s, hs, hactions => by
    obtain ⟨ha, hrest⟩ := List.forall_mem_cons.1 hactions
    exact h.append (h.performWithin _ ha hs) (allMoments (hs.run ha) hrest)

end Piecewise

/-! ## Statements about single changes -/

/-- Such a statement, if it holds of single changes, whether in a round of telling or not. -/
structure Stepwise (D : Discipline ε) (Q : Session ε → List (Moment ε) → Session ε → Prop) : Prop
    extends Composable Q where
  deeper : ∀ {s t ms}, Q s ms t → Q s (ms.map .deeper) t
  did : ∀ {s deed}, s.Admits D deed →
    Q s [⟨some deed, { s with state := deed.apply s.defaults s.state }, 0⟩]
      { s with state := deed.apply s.defaults s.state }
  informed : ∀ {s id w}, s.watcher? id = some w → ∀ sight,
    Q s [.of (s.informed id sight)] (s.informed id sight)
  greeted : ∀ s view, Q s [.of (s.greeted view)] (s.greeted view)
  joined : ∀ s w, Q s [.of (s.join w)] (s.join w)

namespace Stepwise

variable {D : Discipline ε} {Q : Session ε → List (Moment ε) → Session ε → Prop}
  (h : Stepwise D Q) {n : Nat} (hact : Recounts D Q n) {s : Session ε}

include h hact

theorem informing (hs : s.Obeys D) (snapshot : SessionState) (id : Nat) :
    Q s (s.whileInforming (performWithin n) (momentsWithin n) snapshot id)
      (s.inform (performWithin n) snapshot id) := by
  unfold whileInforming inform
  cases hw : s.watcher? id with
  | none => exact h.nil s
  | some w =>
    simp only []
    by_cases hknown : (w.view.isSelective && w.last = some (w.view.look snapshot)) = true
    · rw [if_pos hknown, if_pos hknown]
      exact h.nil s
    · rw [if_neg hknown, if_neg hknown]
      have hmarked := hs.updateWatcher id
        (f := fun v => v.informed (w.view.look snapshot)) fun _ => rfl
      have hobeys : (s.informed id (w.view.look snapshot)).Obeys D :=
        ⟨hmarked.watchers, hmarked.onSubmit, hmarked.onCancel⟩
      have hreaction := hs.watchers w (List.mem_of_find?_eq_some hw)
      exact h.append (h.informed hw _)
        (h.reacting hact hobeys _ (D.acts_of_reaction hreaction w.count))

theorem telling (snapshot : SessionState) : ∀ (ids : List Nat) {s : Session ε}, s.Obeys D →
    Q s (whileTelling (performWithin n) (momentsWithin n) snapshot ids s)
      (ids.foldl (fun t id => t.inform (performWithin n) snapshot id) s)
  | [], s, _ => h.nil s
  | id :: ids, s, hs => by
    have hobeys := ((telling_obeys ((kept_obeys D).performWithin n · · |>.1) snapshot).inform id
      hs).1
    exact h.append (h.informing hact hs snapshot id) (telling snapshot ids hobeys)

omit hact

theorem piecewise : Piecewise D Q where
  toComposable := h.toComposable
  changed {n} hact {s} hs deed hadmits := by
    have hobeys : Obeys D { s with state := deed.apply s.defaults s.state } :=
      ⟨hs.watchers, hs.onSubmit, hs.onCancel⟩
    exact h.append (h.did hadmits) (h.deeper (h.telling hact _ _ hobeys))
  watched {n} hact {s} hs view {reaction} hr := by
    have hwelcomed := h.reacting hact (hs.greeted view) _ (D.acts_of_welcome hr view)
    rw [watch_eq]
    exact h.append (h.append (h.greeted s view) hwelcomed) (h.joined _ _)

end Stepwise

/-! ## Up to each moment -/

/-- What is said of the moments between two sessions, said up to each of them as well. -/
structure UpToEach (Q : Session ε → List (Moment ε) → Session ε → Prop) (s : Session ε)
    (ms : List (Moment ε)) (t : Session ε) : Prop where
  whole : Q s ms t
  upTo : ∀ {before m after}, ms = before ++ m :: after → Q s (before ++ [m]) m.session

namespace UpToEach

variable {Q : Session ε → List (Moment ε) → Session ε → Prop} {s t u : Session ε}
  {ms ns : List (Moment ε)}

theorem nil (h : Q s [] s) : UpToEach Q s [] s where
  whole := h
  upTo heq :=
    absurd heq.symm (List.append_ne_nil_of_right_ne_nil _ (List.cons_ne_nil _ _))

theorem snoc {m : Moment ε} (hst : UpToEach Q s ms t) (h : Q s (ms ++ [m]) m.session) :
    UpToEach Q s (ms ++ [m]) m.session where
  whole := h
  upTo {before m' after} heq := by
    rcases List.eq_nil_or_concat' after with rfl | ⟨rest, last, rfl⟩
    · obtain ⟨rfl, hlast⟩ := List.append_inj' heq rfl
      cases hlast
      exact h
    · rw [← List.cons_append, ← List.append_assoc] at heq
      exact hst.upTo (List.append_inj' heq rfl).1

theorem append (happend : ∀ {s t u ms ns}, Q s ms t → Q t ns u → Q s (ms ++ ns) u)
    (hst : UpToEach Q s ms t) (htu : UpToEach Q t ns u) : UpToEach Q s (ms ++ ns) u where
  whole := happend hst.whole htu.whole
  upTo heq := by
    obtain ⟨rest, rfl, hns⟩ | ⟨rest, rfl, htail⟩ := List.append_eq_append_iff.1 heq
    · rw [List.append_assoc]
      exact happend hst.whole (htu.upTo hns)
    · obtain ⟨rfl, rfl⟩ | ⟨rest, rfl, -⟩ := List.cons_eq_append_iff.1 htail
      · have hwhole := hst.whole
        rw [List.append_nil] at hwhole
        exact happend hwhole (htu.upTo (List.nil_append _).symm)
      · exact hst.upTo rfl

theorem deeper (hdeeper : ∀ {s t ms}, Q s ms t → Q s (ms.map .deeper) t)
    (hst : UpToEach Q s ms t) : UpToEach Q s (ms.map .deeper) t where
  whole := hdeeper hst.whole
  upTo heq := by
    obtain ⟨before, rest, rfl, rfl, hrest⟩ := List.map_eq_append_iff.1 heq
    obtain ⟨m, after, rfl, rfl, rfl⟩ := List.map_eq_cons_iff.1 hrest
    have h := hdeeper (hst.upTo rfl)
    rwa [List.map_append] at h

end UpToEach

namespace Stepwise

variable {D : Discipline ε} {Q : Session ε → List (Moment ε) → Session ε → Prop}
  (h : Stepwise D Q)

include h

theorem upToEach : Stepwise D (UpToEach Q) :=
  have hsingle {s : Session ε} {m : Moment ε} (hm : Q s [m] m.session) :
      UpToEach Q s [m] m.session := (UpToEach.nil (h.nil s)).snoc hm
  { nil := fun s => .nil (h.nil s)
    append := .append h.append
    aside := fun hst hfields => hsingle (h.aside hst hfields)
    handled := fun hreg hst => hst.snoc (m := .of _) (h.handled hreg hst.whole)
    deeper := .deeper h.deeper
    did := fun {_ deed} hadmits => hsingle (m := ⟨some deed, _, 0⟩) (h.did hadmits)
    informed := fun hw sight => hsingle (h.informed hw sight)
    greeted := fun s view => hsingle (h.greeted s view)
    joined := fun s w => hsingle (h.joined s w) }

/-- What is proved of single changes holds of a run up to each of its moments. -/
theorem upTo {s : Session ε} (hs : s.Obeys D) {actions : List (Action ε)}
    (hactions : ∀ a ∈ actions, D.acts a) {before : List (Moment ε)} {m : Moment ε}
    {after : List (Moment ε)} (heq : .of s :: s.allMoments actions = before ++ m :: after) :
    Q s (before ++ [m]) m.session :=
  (h.upToEach.cons (.still s) rfl (h.upToEach.piecewise.allMoments hs hactions)).upTo heq

end Stepwise

/-! ## Relations that go along with single changes -/

/-- Of all sessions that come up between two, each is related to those that come later. -/
structure Along (R : Session ε → Session ε → Prop) (s : Session ε) (ms : List (Moment ε))
    (t : Session ε) : Prop where
  whole : R s t
  before : ∀ m ∈ ms, R s m.session
  after : ∀ m ∈ ms, R m.session t
  pairwise : ms.Pairwise fun m m' => R m.session m'.session

/-- A relation between sessions that goes along with single changes. -/
structure Lasts (D : Discipline ε) (R : Session ε → Session ε → Prop) : Prop where
  trans : ∀ {s t u}, R s t → R t u → R s u
  aside : ∀ {s t}, s.Aside t → R s t
  did : ∀ {s deed}, s.Admits D deed → R s { s with state := deed.apply s.defaults s.state }
  informed : ∀ {s id w}, s.watcher? id = some w → ∀ sight, R s (s.informed id sight)
  greeted : ∀ s view, R s (s.greeted view)
  joined : ∀ s w, R s (s.join w)

namespace Lasts

variable {D : Discipline ε} {R : Session ε → Session ε → Prop} (h : Lasts D R)

include h

theorem refl (s : Session ε) : R s s := h.aside (.still s)

theorem along_append {s t u : Session ε} {ms ns : List (Moment ε)} (hst : Along R s ms t)
    (htu : Along R t ns u) : Along R s (ms ++ ns) u where
  whole := h.trans hst.whole htu.whole
  before m hm := by
    rcases List.mem_append.1 hm with hm | hm
    · exact hst.before m hm
    · exact h.trans hst.whole (htu.before m hm)
  after m hm := by
    rcases List.mem_append.1 hm with hm | hm
    · exact h.trans (hst.after m hm) htu.whole
    · exact htu.after m hm
  pairwise := List.pairwise_append.2 ⟨hst.pairwise, htu.pairwise, fun m hm m' hm' =>
    h.trans (hst.after m hm) (htu.before m' hm')⟩

theorem along_single {s : Session ε} {m : Moment ε} (hR : R s m.session) :
    Along R s [m] m.session where
  whole := hR
  before m' hm' := by
    rw [List.mem_singleton.1 hm']
    exact hR
  after m' hm' := by
    rw [List.mem_singleton.1 hm']
    exact h.refl _
  pairwise := List.pairwise_singleton _ _

theorem composable : Composable (Along R) :=
  .ofAside (fun s => ⟨h.refl s, by simp, by simp, List.Pairwise.nil⟩) h.along_append
    fun hst => h.along_single (m := .of _) (h.aside hst)

theorem stepwise : Stepwise D (Along R) where
  toComposable := h.composable
  deeper {s t ms} hst := by
    refine ⟨hst.whole, fun m hm => ?_, fun m hm => ?_, List.pairwise_map.2 hst.pairwise⟩
    · obtain ⟨m', hm', rfl⟩ := List.mem_map.1 hm
      exact hst.before m' hm'
    · obtain ⟨m', hm', rfl⟩ := List.mem_map.1 hm
      exact hst.after m' hm'
  did {s deed} hadmits := h.along_single (m := ⟨some deed, _, 0⟩) (h.did hadmits)
  informed hw sight := h.along_single (m := .of _) (h.informed hw sight)
  greeted s view := h.along_single (m := .of _) (h.greeted s view)
  joined s w := h.along_single (m := .of _) (h.joined s w)

theorem allMoments {actions : List (Action ε)} {s : Session ε} (hs : s.Obeys D)
    (hactions : ∀ a ∈ actions, D.acts a) :
    Along R s (s.allMoments actions) (s.runAll actions) :=
  h.stepwise.piecewise.allMoments hs hactions

/-- The same with the session as it was at first. -/
theorem history {actions : List (Action ε)} {s : Session ε} (hs : s.Obeys D)
    (hactions : ∀ a ∈ actions, D.acts a) :
    Along R s (.of s :: s.allMoments actions) (s.runAll actions) :=
  h.composable.cons (.still s) rfl (h.allMoments hs hactions)

end Lasts

/-- The last moment of a run is what the run comes to. -/
theorem Session.getLastD_allMoments (D : Discipline ε) {s : Session ε} (hs : s.Obeys D)
    {actions : List (Action ε)} (hactions : ∀ a ∈ actions, D.acts a) :
    ((s.allMoments actions).map (·.session)).getLastD s = s.runAll actions := by
  have hstepwise : Stepwise D fun (s : Session ε) ms t => (ms.map (·.session)).getLastD s = t :=
    { nil := fun _ => rfl
      append := fun {s t u ms ns} hst htu => by
        rw [List.getLastD_eq_getLast?] at hst htu ⊢
        rw [List.map_append, List.getLast?_append, Option.getD_or, hst, htu]
      aside := fun _ _ => rfl
      handled := fun _ _ => by simp [Moment.of]
      deeper := fun {s t ms} hst => by
        rw [List.map_map]
        exact hst
      did := fun _ => rfl
      informed := fun _ _ => rfl
      greeted := fun _ _ => rfl
      joined := fun _ _ => rfl }
  exact hstepwise.piecewise.allMoments hs hactions

end NoteForms
