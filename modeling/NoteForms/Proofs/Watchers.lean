import Mathlib.Data.List.Nodup
import NoteForms.Proofs.Reactions
import NoteForms.Proofs.Unfolding

/-!
# Watchers of a session

Whatever is done to a session, its watchers stay in their places, new ones come behind them with
numbers that were not used before, and only a watcher that is there is told something
(`Session.Grows`).  Therefore a watcher remembers what it was told last (`Session.Recalling`).  A
relation that goes along with changing the state and with beginning to watch goes along with
everything that is done (`Session.Tracks`).
-/

namespace NoteForms

variable {ε : Type}

/-- What a watcher was told, if the event is that. -/
def Event.toldTo? (id : Nat) : Event ε → Option Sight
  | .told watcher sight => if watcher = id then some sight else none
  | _ => none

/-- What a watcher may become: it watches the same, was told no less, and may be stopped. -/
structure Watcher.Becomes (v w : Watcher ε) : Prop where
  id : w.id = v.id
  view : w.view = v.view
  reaction : w.reaction = v.reaction
  count : v.count ≤ w.count
  isActive : w.isActive = true → v.isActive = true

theorem Watcher.Becomes.refl (w : Watcher ε) : w.Becomes w :=
  ⟨rfl, rfl, rfl, Nat.le_refl _, fun h => h⟩

theorem Watcher.Becomes.trans {u v w : Watcher ε} (huv : u.Becomes v) (hvw : v.Becomes w) :
    u.Becomes w :=
  ⟨hvw.id.trans huv.id, hvw.view.trans huv.view, hvw.reaction.trans huv.reaction,
    Nat.le_trans huv.count hvw.count, fun h => huv.isActive (hvw.isActive h)⟩

/-- A watcher that was told something. -/
def Watcher.informed (w : Watcher ε) (sight : Sight) : Watcher ε :=
  { w with last := some sight, count := w.count + 1 }

theorem Watcher.becomes_informed (sight : Sight) (w : Watcher ε) : w.Becomes (w.informed sight) :=
  ⟨rfl, rfl, rfl, Nat.le_succ _, fun h => h⟩

namespace Session

variable {s t u : Session ε}

/-- What a watcher was told last. -/
def lastTold (s : Session ε) (id : Nat) : Option Sight := s.events.findSome? (Event.toldTo? id)

theorem lastTold_told (s : Session ε) (id other : Nat) (sight : Sight) :
    (s.note (.told id sight)).lastTold other
      = if id = other then some sight else s.lastTold other := by
  rw [lastTold, note, List.findSome?_cons, Event.toldTo?]
  by_cases h : id = other
  · rw [if_pos h, if_pos h]
  · rw [if_neg h, if_neg h]
    rfl

/-- Nothing has changed of the state, the watchers, and what these were told. -/
structure Unmoved (s t : Session ε) : Prop where
  state : t.state = s.state
  watchers : t.watchers = s.watchers
  nextWatcher : t.nextWatcher = s.nextWatcher
  lastTold : ∀ id, t.lastTold id = s.lastTold id

theorem unmoved_note (s : Session ε) {e : Event ε} (h : ∀ id, e.toldTo? id = none) :
    s.Unmoved (s.note e) := by
  refine ⟨rfl, rfl, rfl, fun id => ?_⟩
  rw [Session.lastTold, note, List.findSome?_cons, h]
  rfl

/-! ## Telling -/

/-- The session after a watcher was told something, before it does anything. -/
def informed (s : Session ε) (id : Nat) (sight : Sight) : Session ε :=
  (s.updateWatcher id fun w => w.informed sight).note (.told id sight)

section

variable (act : Action ε → Session ε → Session ε × Reply ε)

theorem inform_cases (s : Session ε) (snapshot : SessionState) (id : Nat) :
    (s.inform act snapshot id = s ∧ ∀ w, s.watcher? id = some w →
      w.view.isSelective = true ∧ w.last = some (w.view.look snapshot))
    ∨ ∃ w, s.watcher? id = some w ∧ s.inform act snapshot id
      = (s.informed id (w.view.look snapshot)).react act (w.reaction.bind (·.action? w.count)) := by
  unfold inform
  split
  · rename_i hnone
    exact .inl ⟨rfl, fun w hw => absurd (hnone.symm.trans hw) (Option.some_ne_none w).symm⟩
  · rename_i w hw
    simp only []
    split
    · rename_i hknown
      refine .inl ⟨rfl, fun v hv => ?_⟩
      cases hw.symm.trans hv
      simpa using hknown
    · exact .inr ⟨w, hw, rfl⟩

end

/-- The session when a new watcher has its number and was told what it sees first. -/
def greeted (s : Session ε) (view : View) : Session ε :=
  let t := { s with nextWatcher := s.nextWatcher + 1 }
  if view.isSelective then t.note (.told s.nextWatcher (view.look s.state)) else t

theorem state_greeted (s : Session ε) (view : View) : (s.greeted view).state = s.state := by
  unfold greeted
  simp only []
  split <;> rfl

theorem fields_greeted (s : Session ε) (view : View) : (s.greeted view).fields = s.fields := by
  unfold greeted
  simp only []
  split <;> rfl

theorem lastTold_greeted (s : Session ε) (view : View) (id : Nat) :
    (s.greeted view).lastTold id = if view.isSelective = true ∧ s.nextWatcher = id
      then some (view.look s.state) else s.lastTold id := by
  unfold greeted
  simp only []
  split
  · rename_i h
    rw [lastTold_told]
    simp only [h, true_and]
    rfl
  · rename_i h
    rw [if_neg fun hboth => h hboth.1]
    rfl

theorem watchers_greeted (s : Session ε) (view : View) :
    (s.greeted view).watchers = s.watchers := by
  unfold greeted
  simp only []
  split <;> rfl

theorem nextWatcher_greeted (s : Session ε) (view : View) :
    (s.greeted view).nextWatcher = s.nextWatcher + 1 := by
  unfold greeted
  simp only []
  split <;> rfl

/-- The session when a new watcher has done what it does when it is told the first time. -/
def welcomed (act : Action ε → Session ε → Session ε × Reply ε) (s : Session ε) (view : View)
    (reaction : Option (Reaction ε)) : Session ε :=
  (s.greeted view).react act (if view.isSelective then reaction.bind (·.action? 0) else none)

/-- A watcher when it comes in. -/
def newcomer (s : Session ε) (view : View) (reaction : Option (Reaction ε)) : Watcher ε :=
  ⟨s.nextWatcher, view, some (view.look s.state), if view.isSelective then 1 else 0, reaction, true,
    true⟩

/-- The session with one more watcher, behind the others. -/
def join (s : Session ε) (w : Watcher ε) : Session ε := { s with watchers := s.watchers ++ [w] }

theorem watch_eq (act : Action ε → Session ε → Session ε × Reply ε) (s : Session ε) (view : View)
    (reaction : Option (Reaction ε)) :
    (watch act { s with nextWatcher := s.nextWatcher + 1 } s.nextWatcher view reaction).1
      = (s.welcomed act view reaction).join (s.newcomer view reaction) := by
  unfold watch welcomed greeted
  cases h : view.isSelective with
  | false => simp [join, newcomer, react, h]
  | true => simp [join, newcomer, tell, h]

/-! ## Whatever is done -/

/-- A relation between sessions goes along with what moves nothing, and from one to the next. -/
structure Chains (R : Session ε → Session ε → Prop) : Prop where
  unmoved : ∀ {s t}, s.Unmoved t → R s t
  trans : ∀ {s t u}, R s t → R t u → R s u

namespace Chains

variable {R : Session ε → Session ε → Prop} (h : Chains R) {n : Nat} {snapshot : SessionState}

include h

theorem refl (s : Session ε) : R s s := h.unmoved ⟨rfl, rfl, rfl, fun _ => rfl⟩

theorem react (hact : ∀ a s, R s (performWithin n a s).1) (s : Session ε)
    (action : Option (Action ε)) : R s (s.react (performWithin n) action) := by
  cases action with
  | none => exact h.refl s
  | some a => exact h.trans (hact a s) (h.unmoved (unmoved_note _ fun _ => rfl))

theorem inform (hact : ∀ a s, R s (performWithin n a s).1) {s : Session ε} {id : Nat}
    (hinformed : ∀ w, s.watcher? id = some w → R s (s.informed id (w.view.look snapshot))) :
    R s (s.inform (performWithin n) snapshot id) := by
  rcases inform_cases (performWithin n) s snapshot id with ⟨hsame, -⟩ | ⟨w, hw, hinform⟩
  · rw [hsame]
    exact h.refl s
  · rw [hinform]
    exact h.trans (hinformed w hw) (h.react hact _ _)

theorem informAll {act : Action ε → Session ε → Session ε × Reply ε} :
    ∀ {ids : List Nat}, (∀ id ∈ ids, ∀ s, R s (s.inform act snapshot id)) → ∀ s,
      R s (ids.foldl (fun t id => t.inform act snapshot id) s)
  | [], _, s => h.refl s
  | id :: ids, hids, s => by
    obtain ⟨hfirst, hrest⟩ := List.forall_mem_cons.1 hids
    exact h.trans (hfirst s) (informAll hrest _)

end Chains

theorem Chains.ofKept {P : Session ε → Prop} (h : ∀ {s t}, s.Unmoved t → P s → P t) :
    Chains fun s t => P s → P t :=
  ⟨h, fun hst htu hs => htu (hst hs)⟩

/-- Such a relation also goes along with changing the state, which all are told, with beginning to
watch and with stopping it. -/
structure Tracks (R : Session ε → Session ε → Prop) : Prop extends Chains R where
  numbered : ∀ s, R s { s with nextWatcher := s.nextWatcher + 1 }
  unheld : ∀ s id {f : Watcher ε → Watcher ε}, (∀ w, w.Becomes (f w) ∧ (f w).last = w.last) →
    R s (s.updateWatcher id f)
  changed : ∀ {n}, (∀ a s, R s (performWithin n a s).1) → ∀ s f,
    R s (s.change (performWithin n) f)
  watched : ∀ {n}, (∀ a s, R s (performWithin n a s).1) → ∀ s view reaction,
    R s (watch (performWithin n) { s with nextWatcher := s.nextWatcher + 1 } s.nextWatcher view
      reaction).1

namespace Tracks

variable {R : Session ε → Session ε → Prop} (h : Tracks R) {n : Nat}
  (hact : ∀ a s, R s (Session.performWithin n a s).1)

include h

theorem withField (s : Session ε) (handle : Nat) {f : Field → Session ε}
    (hf : ∀ field, R s (f field)) : R s (s.withField handle f).1 := by
  unfold Session.withField
  split
  · exact hf _
  · exact h.refl s

include hact

theorem conclude (s : Session ε) {event : Event ε} (hevent : ∀ id, event.toldTo? id = none)
    (ending : Option (Ending ε)) :
    R s (s.conclude (Session.performWithin n) event ending) := by
  cases ending with
  | none => exact h.refl s
  | some e => exact h.trans (h.unmoved (unmoved_note s hevent)) (h.toChains.react hact _ e.action)

theorem submit (s : Session ε) : R s (s.submit (Session.performWithin n)).1 := by
  have hchange := h.changed hact s SessionState.attempted
  unfold Session.submit
  split
  · exact h.refl s
  · simp only []
    generalize s.change (Session.performWithin n) SessionState.attempted = t at hchange ⊢
    split
    · refine h.trans hchange (h.trans (h.unmoved ?_) (h.conclude hact _ (fun _ => rfl) t.onSubmit))
      exact ⟨rfl, rfl, rfl, fun _ => rfl⟩
    · exact hchange

theorem cancel (s : Session ε) : R s (s.cancel (Session.performWithin n)) := by
  have hchange := h.changed hact s SessionState.cancelled
  unfold Session.cancel
  split
  · exact h.refl s
  · simp only []
    generalize s.change (Session.performWithin n) SessionState.cancelled = t at hchange ⊢
    refine h.trans hchange (h.trans (h.unmoved ?_) (h.conclude hact _ (fun _ => rfl) t.onCancel))
    exact ⟨rfl, rfl, rfl, fun _ => rfl⟩

theorem perform (action : Action ε) (s : Session ε) :
    R s (s.perform (Session.performWithin n) action).1 := by
  have hwrite : ∀ handle (answer : Field → Option Answer),
      R s (s.withField handle fun field =>
        s.write (Session.performWithin n) field (answer field)).1 := fun handle answer =>
    h.withField s handle fun field =>
      h.changed hact s fun state => state.setAnswer field.name (answer field)
  cases action with
  | set handle answer => exact hwrite handle _
  | clear handle => exact hwrite handle _
  | update handle f => exact hwrite handle _
  | updateItems handle f => exact hwrite handle _
  | read handle =>
    simp only [Session.perform]
    split <;> exact h.refl s
  | register field =>
    refine h.trans (h.changed hact s fun state => state.register field s.defaults) (h.unmoved ?_)
    exact ⟨rfl, rfl, rfl, fun _ => rfl⟩
  | submit => exact h.submit hact s
  | cancel => exact h.cancel hact s
  | answers => exact h.refl s
  | watch focus reaction =>
    simp only [Session.perform]
    split
    · exact h.watched hact s _ reaction
    · exact h.numbered s
  | stop id =>
    simp only [Session.perform]
    split
    · exact h.unheld s id fun _ =>
        ⟨⟨rfl, rfl, rfl, Nat.le_refl _, fun hw => absurd hw Bool.false_ne_true⟩, rfl⟩
    · exact h.refl s
  | release id =>
    simp only [Session.perform]
    split
    · exact h.unheld s id fun _ => ⟨⟨rfl, rfl, rfl, Nat.le_refl _, fun hw => hw⟩, rfl⟩
    · exact h.refl s
  | refused reason => exact h.refl s
  | refusedAt handle reason =>
    simp only [Session.perform]
    split <;> exact h.refl s
  | andThen first next => exact h.trans (hact first s) (hact next _)

omit hact

theorem performWithin : ∀ (n : Nat) (a : Action ε) (s : Session ε),
    R s (Session.performWithin n a s).1
  | 0, _, s => h.refl s
  | n + 1, a, s => h.perform (performWithin n) a s

theorem runAll : ∀ (actions : List (Action ε)) (s : Session ε), R s (s.runAll actions)
  | [], s => h.refl s
  | a :: actions, s => h.trans (h.performWithin _ a s) (runAll actions _)

end Tracks

/-! ## Numbers and places -/

/-- Each watcher has a number of its own, among those that were given, and those that are told at
once have been told something. -/
structure Numbered (s : Session ε) : Prop where
  nodup : (s.watchers.map (·.id)).Nodup
  lt : ∀ w ∈ s.watchers, w.id < s.nextWatcher
  begun : ∀ w ∈ s.watchers, w.view.isSelective = true → 0 < w.count

/-- The watchers stay in their places, and those that come behind them have new numbers; and who is
not there is told nothing. -/
structure Grows (s t : Session ε) : Prop where
  watchers : ∃ (f : Watcher ε → Watcher ε) (more : List (Watcher ε)),
    (∀ w : Watcher ε, w.Becomes (f w)) ∧ t.watchers = s.watchers.map f ++ more
      ∧ ∀ w ∈ more, s.nextWatcher ≤ w.id
  nextWatcher : s.nextWatcher ≤ t.nextWatcher
  numbered : s.Numbered → t.Numbered
  silent : ∀ id < s.nextWatcher, id ∉ s.watchers.map (·.id) → t.lastTold id = s.lastTold id

theorem map_id_map {f : Watcher ε → Watcher ε} (hf : ∀ w : Watcher ε, w.Becomes (f w))
    (ws : List (Watcher ε)) : (ws.map f).map (·.id) = ws.map (·.id) := by
  rw [List.map_map]
  exact List.map_congr_left fun w _ => (hf w).id

theorem updateWatcher_becomes (id : Nat) {f : Watcher ε → Watcher ε}
    (hf : ∀ w : Watcher ε, w.Becomes (f w)) (w : Watcher ε) :
    w.Becomes (if w.id = id then f w else w) := by
  split
  · exact hf w
  · exact .refl w

theorem watcher?_id {id : Nat} {w : Watcher ε} (h : s.watcher? id = some w) : w.id = id := by
  simpa using List.find?_some h

theorem Numbered.eq_of_id (hs : s.Numbered) {v w : Watcher ε} (hv : v ∈ s.watchers)
    (hw : w ∈ s.watchers) (hid : v.id = w.id) : v = w :=
  List.inj_on_of_nodup_map hs.nodup hv hw hid

theorem Numbered.watcher?_eq (hs : s.Numbered) {w : Watcher ε} (hw : w ∈ s.watchers) :
    s.watcher? w.id = some w := by
  cases h : s.watcher? w.id with
  | none => simpa using List.find?_eq_none.1 h w hw
  | some v => rw [hs.eq_of_id (List.mem_of_find?_eq_some h) hw (watcher?_id h)]

theorem Numbered.map (h : s.Numbered) {f : Watcher ε → Watcher ε}
    (hf : ∀ w : Watcher ε, w.Becomes (f w)) : Numbered { s with watchers := s.watchers.map f } where
  nodup := by
    rw [map_id_map hf]
    exact h.nodup
  lt w hw := by
    obtain ⟨v, hv, rfl⟩ := List.mem_map.1 hw
    rw [(hf v).id]
    exact h.lt v hv
  begun w hw hselective := by
    obtain ⟨v, hv, rfl⟩ := List.mem_map.1 hw
    rw [(hf v).view] at hselective
    exact Nat.lt_of_lt_of_le (h.begun v hv hselective) (hf v).count

theorem Numbered.join (h : s.Numbered) {w : Watcher ε} (hnew : w.id ∉ s.watchers.map (·.id))
    (hlt : w.id < s.nextWatcher) (hbegun : w.view.isSelective = true → 0 < w.count) :
    (s.join w).Numbered where
  nodup := by
    rw [Session.join, List.map_append]
    exact List.nodup_append.2 ⟨h.nodup, List.nodup_singleton _, fun a ha b hb heq => by
      rw [List.map_singleton, List.mem_singleton] at hb
      exact hnew (hb ▸ heq ▸ ha)⟩
  lt v hv := by
    rcases List.mem_append.1 hv with hv | hv
    · exact h.lt v hv
    · rw [List.mem_singleton.1 hv]
      exact hlt
  begun v hv := by
    rcases List.mem_append.1 hv with hv | hv
    · exact h.begun v hv
    · rw [List.mem_singleton.1 hv]
      exact hbegun

theorem Numbered.next_absent (h : s.Numbered) : s.nextWatcher ∉ s.watchers.map (·.id) := by
  intro hmem
  obtain ⟨w, hw, hid⟩ := List.mem_map.1 hmem
  exact Nat.lt_irrefl _ (hid ▸ h.lt w hw)

namespace Grows

theorem ofUnmoved (h : s.Unmoved t) : s.Grows t where
  watchers := ⟨id, [], Watcher.Becomes.refl, by simp [h.watchers], by simp⟩
  nextWatcher := Nat.le_of_eq h.nextWatcher.symm
  numbered hs := ⟨h.watchers ▸ hs.nodup, fun w hw => h.nextWatcher ▸ hs.lt w (h.watchers ▸ hw),
    h.watchers ▸ hs.begun⟩
  silent id _ _ := h.lastTold id

/-- Whoever was not there has no old number. -/
theorem absent (h : s.Grows t) {id : Nat} (hlt : id < s.nextWatcher)
    (hid : id ∉ s.watchers.map (·.id)) : id ∉ t.watchers.map (·.id) := by
  obtain ⟨f, more, hf, hwatchers, hmore⟩ := h.watchers
  rw [hwatchers, List.map_append, map_id_map hf, List.mem_append]
  rintro (hold | hnew)
  · exact hid hold
  · obtain ⟨w, hw, rfl⟩ := List.mem_map.1 hnew
    exact absurd (hmore w hw) (Nat.not_le_of_lt hlt)

theorem trans (hst : s.Grows t) (htu : t.Grows u) : s.Grows u where
  watchers := by
    obtain ⟨f, more, hf, ht, hmore⟩ := hst.watchers
    obtain ⟨g, more', hg, hu, hmore'⟩ := htu.watchers
    refine ⟨g ∘ f, more.map g ++ more', fun w => (hf w).trans (hg _), ?_, fun w hw => ?_⟩
    · rw [hu, ht, List.map_append, List.map_map, List.append_assoc]
    · rcases List.mem_append.1 hw with hw | hw
      · obtain ⟨v, hv, rfl⟩ := List.mem_map.1 hw
        rw [(hg v).id]
        exact hmore v hv
      · exact Nat.le_trans hst.nextWatcher (hmore' w hw)
  nextWatcher := Nat.le_trans hst.nextWatcher htu.nextWatcher
  numbered hs := htu.numbered (hst.numbered hs)
  silent id hlt hid :=
    (htu.silent id (Nat.lt_of_lt_of_le hlt hst.nextWatcher) (hst.absent hlt hid)).trans
      (hst.silent id hlt hid)

theorem updateWatcher (s : Session ε) (id : Nat) {f : Watcher ε → Watcher ε}
    (hf : ∀ w : Watcher ε, w.Becomes (f w)) : s.Grows (s.updateWatcher id f) where
  watchers := ⟨_, [], updateWatcher_becomes id hf, (List.append_nil _).symm, by simp⟩
  nextWatcher := Nat.le_refl _
  numbered hs := hs.map (updateWatcher_becomes id hf)
  silent _ _ _ := rfl

theorem told (s : Session ε) {id : Nat} (sight : Sight)
    (hid : id < s.nextWatcher → id ∈ s.watchers.map (·.id)) :
    s.Grows (s.note (.told id sight)) where
  watchers := ⟨fun w => w, [], Watcher.Becomes.refl, by simp [note], by simp⟩
  nextWatcher := Nat.le_refl _
  numbered hs := ⟨hs.nodup, hs.lt, hs.begun⟩
  silent other hlt hother := by
    rw [lastTold_told, if_neg]
    rintro rfl
    exact hother (hid hlt)

theorem informed (s : Session ε) {id : Nat} {w : Watcher ε} (hw : s.watcher? id = some w)
    (sight : Sight) : s.Grows (s.informed id sight) := by
  have hmem : id ∈ s.watchers.map (·.id) :=
    List.mem_map.2 ⟨w, List.mem_of_find?_eq_some hw, watcher?_id hw⟩
  have hmarked := updateWatcher s id (Watcher.becomes_informed sight)
  refine hmarked.trans (told _ sight fun _ => ?_)
  obtain ⟨f, more, hf, hwatchers, -⟩ := hmarked.watchers
  rw [hwatchers, List.map_append, map_id_map hf]
  exact List.mem_append_left _ hmem

theorem changedState (s : Session ε) (state : SessionState) :
    s.Grows { s with state := state } where
  watchers := ⟨fun w => w, [], Watcher.Becomes.refl, by simp, by simp⟩
  nextWatcher := Nat.le_refl _
  numbered hs := ⟨hs.nodup, hs.lt, hs.begun⟩
  silent _ _ _ := rfl

theorem numbering (s : Session ε) : s.Grows { s with nextWatcher := s.nextWatcher + 1 } where
  watchers := ⟨fun w => w, [], Watcher.Becomes.refl, by simp, by simp⟩
  nextWatcher := Nat.le_succ _
  numbered hs := ⟨hs.nodup, fun w hw => Nat.lt_succ_of_lt (hs.lt w hw), hs.begun⟩
  silent _ _ _ := rfl

theorem greeted (s : Session ε) (view : View) : s.Grows (s.greeted view) := by
  unfold Session.greeted
  simp only []
  split
  · exact (told s _ fun h => absurd h (Nat.lt_irrefl _)).trans (numbering _)
  · exact numbering s

theorem join (h : s.Grows t) {w : Watcher ε} (hid : s.nextWatcher ≤ w.id)
    (hnumbered : s.Numbered → (t.join w).Numbered) : s.Grows (t.join w) where
  watchers := by
    obtain ⟨f, more, hf, hwatchers, hmore⟩ := h.watchers
    refine ⟨f, more ++ [w], hf, ?_, fun v hv => ?_⟩
    · rw [Session.join, hwatchers, List.append_assoc]
    · rcases List.mem_append.1 hv with hv | hv
      · exact hmore v hv
      · rw [List.mem_singleton.1 hv]
        exact hid
  nextWatcher := h.nextWatcher
  numbered := hnumbered
  silent := h.silent

end Grows

theorem chains_grows : Chains (Grows : Session ε → Session ε → Prop) :=
  ⟨Grows.ofUnmoved, Grows.trans⟩

section

variable {n : Nat} (hact : ∀ a (s : Session ε), s.Grows (performWithin n a s).1)

include hact

theorem grows_change (s : Session ε) (f : SessionState → SessionState) :
    s.Grows (s.change (performWithin n) f) :=
  (Grows.changedState s _).trans (chains_grows.informAll (fun _ _ t =>
    chains_grows.inform hact fun _ hw => Grows.informed t hw _) _)

/-- The number of a new watcher is not given again before it comes in. -/
theorem newcomer_absent (hs : s.Numbered) (view : View) (reaction : Option (Reaction ε)) :
    s.nextWatcher ∉ (s.welcomed (performWithin n) view reaction).watchers.map (·.id) := by
  refine (chains_grows.react hact (s.greeted view) _).absent ?_ ?_
  · rw [nextWatcher_greeted]
    exact Nat.lt_succ_self _
  · rw [watchers_greeted]
    exact hs.next_absent

theorem grows_watch (s : Session ε) (view : View) (reaction : Option (Reaction ε)) :
    s.Grows (watch (performWithin n) { s with nextWatcher := s.nextWatcher + 1 } s.nextWatcher view
      reaction).1 := by
  rw [watch_eq]
  have hwelcomed : (s.greeted view).Grows (s.welcomed (performWithin n) view reaction) :=
    chains_grows.react hact _ _
  refine ((Grows.greeted s view).trans hwelcomed).join (Nat.le_refl _) fun hs => ?_
  refine (hwelcomed.numbered ((Grows.greeted s view).numbered hs)).join
    (newcomer_absent hact hs view reaction) ?_ ?_
  · refine Nat.lt_of_lt_of_le ?_ hwelcomed.nextWatcher
    rw [nextWatcher_greeted]
    exact Nat.lt_succ_self _
  · intro hselective
    rw [newcomer] at hselective ⊢
    rw [if_pos hselective]
    exact Nat.one_pos

end

theorem tracks_grows : Tracks (Grows : Session ε → Session ε → Prop) where
  toChains := chains_grows
  numbered := Grows.numbering
  unheld s id _ hf := Grows.updateWatcher s id fun w => (hf w).1
  changed := grows_change
  watched := grows_watch

theorem grows_performWithin (n : Nat) (a : Action ε) (s : Session ε) :
    s.Grows (performWithin n a s).1 := tracks_grows.performWithin n a s

theorem Numbered.runAll {s : Session ε} (hs : s.Numbered) (actions : List (Action ε)) :
    (s.runAll actions).Numbered := (tracks_grows.runAll actions s).numbered hs

/-! ## What is remembered -/

/-- Each watcher that is only told of changes remembers what it was told last. -/
structure Recalling (s : Session ε) : Prop where
  numbered : s.Numbered
  last : ∀ w ∈ s.watchers, w.view.isSelective = true → s.lastTold w.id = w.last

namespace Recalling

theorem map (h : s.Recalling) {f : Watcher ε → Watcher ε} (hf : ∀ w : Watcher ε, w.Becomes (f w))
    (ht : t.watchers = s.watchers.map f) (hnext : t.nextWatcher = s.nextWatcher)
    (hlast : ∀ w ∈ s.watchers, s.lastTold w.id = w.last → t.lastTold w.id = (f w).last) :
    t.Recalling := by
  have hnumbered := h.numbered.map hf
  refine ⟨⟨ht ▸ hnumbered.nodup, fun w hw => hnext ▸ hnumbered.lt w (ht ▸ hw),
    ht ▸ hnumbered.begun⟩, fun w hw hsel => ?_⟩
  rw [ht] at hw
  obtain ⟨v, hv, rfl⟩ := List.mem_map.1 hw
  rw [(hf v).view] at hsel
  rw [(hf v).id]
  exact hlast v hv (h.last v hv hsel)

theorem ofUnmoved (hst : s.Unmoved t) (h : s.Recalling) : t.Recalling :=
  h.map Watcher.Becomes.refl (by rw [hst.watchers, List.map_id']) hst.nextWatcher
    fun w _ hw => (hst.lastTold w.id).trans hw

theorem informed (h : s.Recalling) (id : Nat) (sight : Sight) :
    (s.informed id sight).Recalling := by
  refine h.map (updateWatcher_becomes id (Watcher.becomes_informed sight)) rfl rfl fun w _ hw => ?_
  rw [Session.informed, lastTold_told]
  by_cases heq : w.id = id
  · rw [if_pos heq.symm, if_pos heq]
    rfl
  · rw [if_neg fun h => heq h.symm, if_neg heq]
    exact hw

end Recalling

theorem chains_recalling : Chains fun s t : Session ε => s.Recalling → t.Recalling :=
  .ofKept Recalling.ofUnmoved

theorem recalling_watch {n : Nat}
    (hact : ∀ a (s : Session ε), s.Recalling → (performWithin n a s).1.Recalling)
    (hs : s.Recalling) (view : View) (reaction : Option (Reaction ε)) :
    (watch (performWithin n) { s with nextWatcher := s.nextWatcher + 1 } s.nextWatcher view
      reaction).1.Recalling := by
  have hgreeted : (s.greeted view).Recalling := by
    refine ⟨(Grows.greeted s view).numbered hs.numbered, fun w hw hselective => ?_⟩
    rw [watchers_greeted] at hw
    rw [lastTold_greeted, if_neg fun h => Nat.ne_of_gt (hs.numbered.lt w hw) h.2]
    exact hs.last w hw hselective
  have hwelcomed : (s.welcomed (performWithin n) view reaction).Recalling :=
    chains_recalling.react hact _ _ hgreeted
  refine ⟨(grows_watch (grows_performWithin n) s view reaction).numbered hs.numbered, ?_⟩
  rw [watch_eq]
  intro w hw hselective
  rcases List.mem_append.1 hw with hw | hw
  · exact hwelcomed.last w hw hselective
  · rw [List.mem_singleton.1 hw] at hselective ⊢
    -- what it does when it is told the first time has it told nothing, as it is not there yet
    have hgrows : (s.greeted view).Grows (s.welcomed (performWithin n) view reaction) :=
      chains_grows.react (grows_performWithin n) _ _
    refine (hgrows.silent s.nextWatcher ?_ ?_).trans ?_
    · rw [nextWatcher_greeted]
      exact Nat.lt_succ_self _
    · rw [watchers_greeted]
      exact hs.numbered.next_absent
    · rw [lastTold_greeted, if_pos ⟨hselective, rfl⟩]
      rfl

theorem tracks_recalling : Tracks fun s t : Session ε => s.Recalling → t.Recalling where
  toChains := chains_recalling
  numbered s hs := ⟨(Grows.numbering s).numbered hs.numbered, hs.last⟩
  unheld s id f hf hs := by
    refine hs.map (updateWatcher_becomes id fun w => (hf w).1) rfl rfl fun w _ hw => ?_
    rw [apply_ite Watcher.last, (hf w).2, ite_self]
    exact hw
  changed hact s f hs := chains_recalling.informAll
    (fun id _ _ => chains_recalling.inform hact fun _ _ ht => ht.informed id _) _
    ⟨(Grows.changedState s _).numbered hs.numbered, hs.last⟩
  watched hact s view reaction hs := recalling_watch hact hs view reaction

end Session

end NoteForms
