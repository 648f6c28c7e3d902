import NoteForms.Session.Run

/-!
# What actions lead to

An action may cause others: a watcher acts when it is told something, and what it does is told
again.  Here that is unfolded once.  A discipline says which actions there may be, and every relation
that goes along with each single change of a session goes along with any action that keeps the
discipline, whatever it causes (`Kept.performWithin`).
-/

namespace NoteForms

variable {ε : Type}

/-! ## Disciplines -/

/-- Every action that a reaction causes is of a kind. -/
def Reaction.Does (kind : Action ε → Prop) : Reaction ε → Prop
  | .mk _ _ action => kind action
  | .or first other => first.Does kind ∧ other.Does kind

theorem Reaction.Does.of_action? {kind : Action ε → Prop} {count : Nat} {action : Action ε} :
    ∀ {r : Reaction ε}, r.Does kind → r.action? count = some action → kind action
  | .mk _ _ _, h, ha => by
    unfold Reaction.action? at ha
    split at ha
    · cases ha
      exact h
    · cases ha
  | .or _ _, ⟨hfirst, hother⟩, ha => by
    rcases Option.or_eq_some_iff.1 ha with ha | ⟨-, ha⟩
    · exact hfirst.of_action? ha
    · exact hother.of_action? ha

theorem Reaction.does_of_forall {kind : Action ε → Prop} (h : ∀ a, kind a) :
    ∀ r : Reaction ε, r.Does kind
  | .mk _ _ action => h action
  | .or first other => ⟨does_of_forall h first, does_of_forall h other⟩

/-- Which actions there may be: done to a session, done by watchers, and done when it ends. -/
structure Discipline (ε : Type) where
  acts : Action ε → Prop
  reacts : Action ε → Prop
  ends : Action ε → Prop
  acts_of_reacts : ∀ {a}, reacts a → acts a
  acts_of_ends : ∀ {a}, acts .submit ∨ acts .cancel → ends a → acts a
  reacts_of_watch : ∀ {focus r}, acts (.watch focus (some r)) → r.Does reacts
  acts_of_andThen : ∀ {first next}, acts (.andThen first next) → acts first ∧ acts next

theorem Discipline.acts_of_reaction (D : Discipline ε) {reaction : Option (Reaction ε)}
    (hr : ∀ r ∈ reaction, r.Does D.reacts) (count : Nat) :
    ∀ a ∈ reaction.bind (·.action? count), D.acts a := by
  intro a ha
  obtain ⟨r, hmem, ha⟩ := Option.bind_eq_some_iff.1 ha
  exact D.acts_of_reacts ((hr r hmem).of_action? ha)

namespace Session

/-- What is still to be done in a session keeps the discipline. -/
structure Obeys (D : Discipline ε) (s : Session ε) : Prop where
  watchers : ∀ w ∈ s.watchers, ∀ r ∈ w.reaction, r.Does D.reacts
  onSubmit : ∀ e ∈ s.onSubmit, ∀ a ∈ e.action, D.ends a
  onCancel : ∀ e ∈ s.onCancel, ∀ a ∈ e.action, D.ends a

/-- The same apart from the handles and the watchers. -/
structure Alike (s t : Session ε) : Prop where
  state : t.state = s.state
  isClosed : t.isClosed = s.isClosed
  onSubmit : t.onSubmit = s.onSubmit
  onCancel : t.onCancel = s.onCancel
  events : t.events = s.events

theorem alike_updateWatcher (s : Session ε) (id : Nat) (f : Watcher ε → Watcher ε) :
    s.Alike (s.updateWatcher id f) := ⟨rfl, rfl, rfl, rfl, rfl⟩

theorem Obeys.updateWatcher {D : Discipline ε} {s : Session ε} (h : s.Obeys D) (id : Nat)
    {f : Watcher ε → Watcher ε} (hf : ∀ w, (f w).reaction = w.reaction) :
    (s.updateWatcher id f).Obeys D := by
  refine ⟨fun w hw r hr => ?_, h.onSubmit, h.onCancel⟩
  obtain ⟨v, hv, rfl⟩ := List.mem_map.1 hw
  split at hr
  · rw [hf] at hr
    exact h.watchers v hv r hr
  · exact h.watchers v hv r hr

end Session

/-! ## Telling -/

open Session

/-- A relation between sessions goes along with carrying out actions. -/
structure Acting (D : Discipline ε) (R : Session ε → Session ε → Prop)
    (act : Action ε → Session ε → Session ε × Reply ε) : Prop where
  alike : ∀ {s t}, s.Alike t → R s t
  trans : ∀ {s t u}, R s t → R t u → R s u
  caused : ∀ s reply, R s (s.note (.caused reply))
  acted : ∀ {a s}, D.acts a → s.Obeys D → (act a s).1.Obeys D ∧ R s (act a s).1

/-- A relation between sessions goes along with telling a snapshot as well. -/
structure Telling (D : Discipline ε) (R : Session ε → Session ε → Prop)
    (act : Action ε → Session ε → Session ε × Reply ε) (snapshot : SessionState) : Prop
    extends Acting D R act where
  told : ∀ s id view, R s (s.note (.told id (View.look snapshot view)))

section

variable {D : Discipline ε} {R : Session ε → Session ε → Prop}
  {act : Action ε → Session ε → Session ε × Reply ε} {snapshot : SessionState} {s : Session ε}

namespace Acting

variable (h : Acting D R act)

include h

theorem refl (s : Session ε) : R s s := h.alike ⟨rfl, rfl, rfl, rfl, rfl⟩

theorem react {action : Option (Action ε)} (ha : ∀ a ∈ action, D.acts a) (hs : s.Obeys D) :
    (s.react act action).Obeys D ∧ R s (s.react act action) := by
  cases action with
  | none => exact ⟨hs, h.refl s⟩
  | some a =>
    obtain ⟨hobeys, hR⟩ := h.acted (ha a rfl) hs
    exact ⟨⟨hobeys.watchers, hobeys.onSubmit, hobeys.onCancel⟩, h.trans hR (h.caused _ _)⟩

theorem tell {id : Nat} {sight : Sight} (htold : R s (s.note (.told id sight))) (count : Nat)
    {reaction : Option (Reaction ε)} (hr : ∀ r ∈ reaction, r.Does D.reacts) (hs : s.Obeys D) :
    (s.tell act id count reaction sight).Obeys D ∧ R s (s.tell act id count reaction sight) := by
  have hnoted : (s.note (.told id sight)).Obeys D := ⟨hs.watchers, hs.onSubmit, hs.onCancel⟩
  obtain ⟨hobeys, hR⟩ := h.react (D.acts_of_reaction hr count) hnoted
  exact ⟨hobeys, h.trans htold hR⟩

/-- The end of a session, with what follows from it. -/
theorem conclude (hs : s.Obeys D) {event : Event ε} (hnoted : R s (s.note event))
    {ending : Option (Ending ε)} (he : ∀ e ∈ ending, ∀ a ∈ e.action, D.acts a) :
    (s.conclude act event ending).Obeys D ∧ R s (s.conclude act event ending) := by
  cases ending with
  | none => exact ⟨hs, h.refl s⟩
  | some e =>
    have hobeys : (s.note event).Obeys D := ⟨hs.watchers, hs.onSubmit, hs.onCancel⟩
    obtain ⟨hreact, hR⟩ := h.react (he e rfl) hobeys
    exact ⟨hreact, h.trans hnoted hR⟩

end Acting

namespace Telling

variable (h : Telling D R act snapshot)

include h

theorem inform (id : Nat) (hs : s.Obeys D) :
    (s.inform act snapshot id).Obeys D ∧ R s (s.inform act snapshot id) := by
  unfold Session.inform
  split
  · exact ⟨hs, h.refl s⟩
  · rename_i w hw
    simp only []
    split
    · exact ⟨hs, h.refl s⟩
    · have hreaction := hs.watchers w (List.mem_of_find?_eq_some hw)
      have hmarked := hs.updateWatcher id (f := fun v =>
        { v with last := some (w.view.look snapshot), count := v.count + 1 }) fun _ => rfl
      obtain ⟨hobeys, hR⟩ := h.tell (h.told _ id w.view) w.count hreaction hmarked
      exact ⟨hobeys, h.trans (h.alike (alike_updateWatcher s id _)) hR⟩

theorem informAll : ∀ (ids : List Nat) {s : Session ε}, s.Obeys D →
    (ids.foldl (fun t id => t.inform act snapshot id) s).Obeys D
      ∧ R s (ids.foldl (fun t id => t.inform act snapshot id) s)
  | [], s, hs => ⟨hs, h.refl s⟩
  | id :: ids, s, hs => by
    obtain ⟨hfirst, hR⟩ := h.inform id hs
    obtain ⟨hobeys, hrest⟩ := informAll ids hfirst
    exact ⟨hobeys, h.trans hR hrest⟩

end Telling

/-- Whoever is told, and whatever they do then, the relation holds. -/
theorem Telling.publish (h : Telling D R act s.state) (hs : s.Obeys D) :
    (s.publish act).Obeys D ∧ R s (s.publish act) := h.informAll _ hs

end

/-! ## Keeping the discipline -/

namespace Session

variable {D : Discipline ε} {act : Action ε → Session ε → Session ε × Reply ε} {s : Session ε}
  (hact : ∀ {a s}, D.acts a → s.Obeys D → (act a s).1.Obeys D)

include hact

theorem telling_obeys (snapshot : SessionState) :
    Telling D (fun _ _ => True) act snapshot where
  alike _ := trivial
  trans _ _ := trivial
  caused _ _ := trivial
  acted ha hs := ⟨hact ha hs, trivial⟩
  told _ _ _ := trivial

theorem Obeys.publish (hs : s.Obeys D) : (s.publish act).Obeys D :=
  ((telling_obeys hact s.state).publish hs).1

theorem Obeys.change (hs : s.Obeys D) (f : SessionState → SessionState) :
    (s.change act f).Obeys D :=
  Obeys.publish hact (s := { s with state := f s.state }) ⟨hs.watchers, hs.onSubmit, hs.onCancel⟩

theorem Obeys.submit (hs : s.Obeys D) (hacts : D.acts .submit) : (s.submit act).1.Obeys D := by
  have hchange := hs.change hact SessionState.attempted
  unfold Session.submit
  split
  · exact hs
  · simp only []
    split
    · refine (telling_obeys hact s.state).conclude ?_ trivial ?_ |>.1
      · exact ⟨hchange.watchers, by simp, hchange.onCancel⟩
      · exact fun e he a ha => D.acts_of_ends (.inl hacts) (hchange.onSubmit e he a ha)
    · exact hchange

theorem Obeys.cancel (hs : s.Obeys D) (hacts : D.acts .cancel) : (s.cancel act).Obeys D := by
  have hchange := hs.change hact SessionState.cancelled
  unfold Session.cancel
  split
  · exact hs
  · refine (telling_obeys hact s.state).conclude ?_ trivial ?_ |>.1
    · exact ⟨hchange.watchers, hchange.onSubmit, by simp⟩
    · exact fun e he a ha => D.acts_of_ends (.inr hacts) (hchange.onCancel e he a ha)

end Session

/-! ## Acting -/

/-- Carrying out actions keeps the discipline and goes along with a relation. -/
def Carries (D : Discipline ε) (R : Session ε → Session ε → Prop)
    (act : Action ε → Session ε → Session ε × Reply ε) : Prop :=
  ∀ {a s}, D.acts a → s.Obeys D → (act a s).1.Obeys D ∧ R s (act a s).1

/-- A relation between sessions goes along with every single change, with telling all of a state,
and with both ways to end a session. -/
structure Kept (D : Discipline ε) (R : Session ε → Session ε → Prop) : Prop where
  alike : ∀ {s t}, s.Alike t → R s t
  trans : ∀ {s t u}, R s t → R t u → R s u
  told : ∀ s id view, R s (s.note (.told id (View.look s.state view)))
  caused : ∀ s reply, R s (s.note (.caused reply))
  answered : ∀ s name answer, R s { s with state := s.state.setAnswer name answer }
  registered : ∀ s field, R s { s with state := s.state.register field s.defaults }
  published : ∀ {n s}, Carries D R (performWithin n) → s.Obeys D →
    R s (s.publish (performWithin n))
  submitted : ∀ {n s}, D.acts .submit → Carries D R (performWithin n) → s.Obeys D →
    R s (s.submit (performWithin n)).1
  cancelled : ∀ {n s}, D.acts .cancel → Carries D R (performWithin n) → s.Obeys D →
    R s (s.cancel (performWithin n))

namespace Kept

variable {D : Discipline ε} {R : Session ε → Session ε → Prop} (h : Kept D R) {n : Nat}
  (hact : Carries D R (Session.performWithin n)) {s : Session ε} (hs : s.Obeys D)

include h

theorem refl (s : Session ε) : R s s := h.alike ⟨rfl, rfl, rfl, rfl, rfl⟩

theorem withField (hs : s.Obeys D) (handle : Nat) {f : Field → Session ε}
    (hf : ∀ field, (f field).Obeys D ∧ R s (f field)) :
    (s.withField handle f).1.Obeys D ∧ R s (s.withField handle f).1 := by
  unfold Session.withField
  split
  · exact hf _
  · exact ⟨hs, h.refl s⟩

theorem updateWatcher (hs : s.Obeys D) (id : Nat) {f : Watcher ε → Watcher ε}
    (hf : ∀ w, (f w).reaction = w.reaction) :
    (s.updateWatcher id f).Obeys D ∧ R s (s.updateWatcher id f) :=
  ⟨hs.updateWatcher id hf, h.alike (alike_updateWatcher s id f)⟩

include hact

theorem acting : Acting D R (performWithin n) := ⟨h.alike, h.trans, h.caused, hact⟩

include hs

theorem write (field : Field) (answer : Option Answer) :
    (s.write (performWithin n) field answer).Obeys D
      ∧ R s (s.write (performWithin n) field answer) := by
  have hobeys : Obeys D { s with state := s.state.setAnswer field.name answer } :=
    ⟨hs.watchers, hs.onSubmit, hs.onCancel⟩
  exact ⟨hobeys.publish fun ha hs => (hact ha hs).1,
    h.trans (h.answered s field.name answer) (h.published hact hobeys)⟩

theorem register (field : Field) :
    (s.register (performWithin n) field).1.Obeys D
      ∧ R s (s.register (performWithin n) field).1 := by
  have hobeys : Obeys D { s with state := s.state.register field s.defaults } :=
    ⟨hs.watchers, hs.onSubmit, hs.onCancel⟩
  have htold := hobeys.publish fun ha hs => (hact ha hs).1
  refine ⟨⟨htold.watchers, htold.onSubmit, htold.onCancel⟩, ?_⟩
  refine h.trans (h.registered s field) (h.trans (h.published hact hobeys) (h.alike ?_))
  exact ⟨rfl, rfl, rfl, rfl, rfl⟩

theorem watch (id : Nat) (view : View) {reaction : Option (Reaction ε)}
    (hr : ∀ r ∈ reaction, r.Does D.reacts) :
    (s.watch (performWithin n) id view reaction).1.Obeys D
      ∧ R s (s.watch (performWithin n) id view reaction).1 := by
  have hadded : ∀ {t : Session ε} {w : Watcher ε}, w.reaction = reaction → t.Obeys D ∧ R s t →
      Obeys D { t with watchers := t.watchers ++ [w] }
        ∧ R s { t with watchers := t.watchers ++ [w] } := by
    rintro t w hw ⟨ht, hR⟩
    refine ⟨⟨fun v hv => ?_, ht.onSubmit, ht.onCancel⟩,
      h.trans hR (h.alike ⟨rfl, rfl, rfl, rfl, rfl⟩)⟩
    rcases List.mem_append.1 hv with hv | hv
    · exact ht.watchers v hv
    · rw [List.mem_singleton.1 hv, hw]
      exact hr
  unfold Session.watch
  simp only []
  refine hadded rfl ?_
  split
  · exact (h.acting hact).tell (h.told s id view) 0 hr hs
  · exact ⟨hs, h.refl s⟩

/-- One action, if whatever it causes goes along with the relation. -/
theorem perform {action : Action ε} (ha : D.acts action) :
    (s.perform (performWithin n) action).1.Obeys D
      ∧ R s (s.perform (performWithin n) action).1 := by
  have hobeys : ∀ {a s}, D.acts a → s.Obeys D → (performWithin n a s).1.Obeys D :=
    fun ha hs => (hact ha hs).1
  cases action with
  | set handle answer => exact h.withField hs handle fun _ => h.write hact hs _ _
  | clear handle => exact h.withField hs handle fun _ => h.write hact hs _ _
  | update handle f => exact h.withField hs handle fun _ => h.write hact hs _ _
  | updateItems handle f => exact h.withField hs handle fun _ => h.write hact hs _ _
  | read handle =>
    simp only [Session.perform]
    split <;> exact ⟨hs, h.refl s⟩
  | register field => exact h.register hact hs field
  | submit => exact ⟨hs.submit hobeys ha, h.submitted ha hact hs⟩
  | cancel => exact ⟨hs.cancel hobeys ha, h.cancelled ha hact hs⟩
  | answers => exact ⟨hs, h.refl s⟩
  | watch focus reaction =>
    have hr : ∀ r ∈ reaction, r.Does D.reacts := by
      rintro r rfl
      exact D.reacts_of_watch ha
    have hnumbered : Obeys D { s with nextWatcher := s.nextWatcher + 1 } :=
      ⟨hs.watchers, hs.onSubmit, hs.onCancel⟩
    have hR : R s { s with nextWatcher := s.nextWatcher + 1 } := h.alike ⟨rfl, rfl, rfl, rfl, rfl⟩
    simp only [Session.perform]
    split
    · obtain ⟨hwatch, hrest⟩ := h.watch hact hnumbered s.nextWatcher _ hr
      exact ⟨hwatch, h.trans hR hrest⟩
    · exact ⟨hnumbered, hR⟩
  | stop id =>
    simp only [Session.perform]
    split
    · exact h.updateWatcher hs id fun _ => rfl
    · exact ⟨hs, h.refl s⟩
  | release id =>
    simp only [Session.perform]
    split
    · exact h.updateWatcher hs id fun _ => rfl
    · exact ⟨hs, h.refl s⟩
  | refused reason => exact ⟨hs, h.refl s⟩
  | refusedAt handle reason =>
    simp only [Session.perform]
    split <;> exact ⟨hs, h.refl s⟩
  | andThen first next =>
    obtain ⟨hfirst, hnext⟩ := D.acts_of_andThen ha
    obtain ⟨hobeys, hR⟩ := hact hfirst hs
    obtain ⟨hdone, hrest⟩ := hact hnext hobeys
    exact ⟨hdone, h.trans hR hrest⟩

omit hact hs

/-- However deep actions cause others, the relation holds.  The induction is on that depth. -/
theorem performWithin : ∀ n : Nat, Carries D R (performWithin n)
  | 0 => fun _ hs => ⟨hs, h.refl _⟩
  | n + 1 => fun ha hs => h.perform (performWithin n) hs ha

end Kept

/-- The discipline itself is kept. -/
theorem kept_obeys (D : Discipline ε) : Kept D fun _ _ => True where
  alike _ := trivial
  trans _ _ := trivial
  told _ _ _ := trivial
  caused _ _ := trivial
  answered _ _ _ := trivial
  registered _ _ := trivial
  published _ _ := trivial
  submitted _ _ _ := trivial
  cancelled _ _ _ := trivial

namespace Session

variable {D : Discipline ε}

theorem Obeys.run {s : Session ε} (hs : s.Obeys D) {action : Action ε} (ha : D.acts action) :
    (s.run action).1.Obeys D := ((kept_obeys D).performWithin _ ha hs).1

theorem Obeys.runAll : ∀ {actions : List (Action ε)} {s : Session ε}, s.Obeys D →
    (∀ a ∈ actions, D.acts a) → (s.runAll actions).Obeys D
  | [], _, hs, _ => hs
  | _ :: _, _, hs, h =>
    (hs.run (h _ List.mem_cons_self)).runAll fun a ha => h a (List.mem_cons_of_mem _ ha)

end Session

end NoteForms
