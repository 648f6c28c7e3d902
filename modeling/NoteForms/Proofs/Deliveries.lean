import Mathlib.Data.List.Destutter
import NoteForms.Proofs.Bystanders
import NoteForms.Proofs.Convergence

/-!
# What is delivered

Where watchers only read, each of them is told just what its view shows of the states that come up
while it watches, from the first on, once for as long as it stays the same; and who else begins or
stops watching meanwhile makes no difference to that (`Session.delivered_exactly`).
-/

namespace NoteForms

section Destutter

variable {α : Type} [DecidableEq α]

theorem destutter'_concat (a : α) : ∀ (l : List α) (b : α),
    (l ++ [a]).destutter' (· ≠ ·) b
      = l.destutter' (· ≠ ·) b ++ if (b :: l).getLast? = some a then [] else [a]
  | [], b => by by_cases h : b = a <;> simp [List.destutter', h]
  | c :: l, b => by
    have ih := destutter'_concat a l
    rw [List.getLast?_cons_cons, List.cons_append]
    by_cases h : b = c
    · rw [List.destutter'_cons_neg _ (not_not.2 h), List.destutter'_cons_neg _ (not_not.2 h), h]
      exact ih c
    · rw [List.destutter'_cons_pos _ h, List.destutter'_cons_pos _ h, ih c, List.cons_append]

theorem destutter_concat (l : List α) (a : α) :
    (l ++ [a]).destutter (· ≠ ·)
      = l.destutter (· ≠ ·) ++ if l.getLast? = some a then [] else [a] := by
  rcases l with _ | ⟨b, l⟩
  · simp
  · exact destutter'_concat a l b

/-- One that is there any number of times at the end stands for one. -/
theorem destutter_append_replicate (l : List α) (a : α) : ∀ n : Nat,
    (l ++ List.replicate (n + 1) a).destutter (· ≠ ·)
      = l.destutter (· ≠ ·) ++ if l.getLast? = some a then [] else [a]
  | 0 => destutter_concat l a
  | n + 1 => by
    rw [List.replicate_succ', ← List.append_assoc, destutter_concat,
      destutter_append_replicate l a n]
    simp [List.getLast?_append, List.getLast?_replicate]

end Destutter

variable {ε : Type}

/-- What a view shows at the moments at which a watcher is told of changes. -/
def View.sights (view : View) (id : Nat) (log : List (Moment ε)) : List Sight :=
  (log.filter (·.session.isWatching id)).map fun m => view.look m.session.state

theorem View.sights_eq_nil (view : View) {id : Nat} {log : List (Moment ε)}
    (h : ∀ m ∈ log, m.session.isWatching id = false) : view.sights id log = [] := by
  rw [sights, List.filter_eq_nil_iff.2 fun m hm => Bool.eq_false_iff.1 (h m hm), List.map_nil]

theorem View.sights_append (view : View) (id : Nat) (log ms : List (Moment ε)) :
    view.sights id (log ++ ms) = view.sights id log ++ view.sights id ms := by
  simp [sights]

namespace Session

variable {s t : Session ε} {log ms : List (Moment ε)}

theorem Numbered.isWatching_eq (hs : s.Numbered) {w : Watcher ε} (hw : w ∈ s.watchers) :
    s.isWatching w.id = w.isActive := by
  rw [Bool.eq_iff_iff, isWatching_iff]
  constructor
  · rintro ⟨v, hv, hid, hactive⟩
    exact hs.eq_of_id hv hw hid ▸ hactive
  · exact fun hactive => ⟨w, hw, rfl, hactive⟩

theorem Numbered.isWatching_of_le (hs : s.Numbered) {id : Nat} (h : s.nextWatcher ≤ id) :
    s.isWatching id = false := by
  rw [Bool.eq_false_iff, Ne, isWatching_iff]
  rintro ⟨w, hw, rfl, -⟩
  exact absurd (hs.lt w hw) (Nat.not_lt_of_le h)

/-! ## One watcher -/

/-- A watcher was told what its view showed at the moments so far, and it remembers what it shows
now. -/
structure Follows (log : List (Moment ε)) (s : Session ε) (w : Watcher ε) : Prop where
  told : s.toldTo w.id = (w.view.sights w.id log).destutter (· ≠ ·)
  last : w.isActive = true →
    w.last = some (w.view.look s.state) ∧ (w.view.sights w.id log).getLast? = w.last

/-- At all of some moments, the last of which is a session, the state is what it is then, and the
same are told of changes. -/
structure Settles (ms : List (Moment ε)) (t : Session ε) : Prop where
  ne_nil : ms ≠ []
  state : ∀ m ∈ ms, m.session.state = t.state
  watching : ∀ m ∈ ms, ∀ id, m.session.isWatching id = t.isWatching id

theorem Settles.sights (h : Settles ms t) (view : View) (id : Nat) :
    view.sights id ms
      = if t.isWatching id = true then List.replicate ms.length (view.look t.state) else [] := by
  have hwatching : ms.filter (·.session.isWatching id) = if t.isWatching id then ms else [] := by
    split
    · exact List.filter_eq_self.2 fun m hm => (h.watching m hm id).trans ‹_›
    · exact List.filter_eq_nil_iff.2 fun m hm => (h.watching m hm id).symm ▸ ‹_›
  rw [View.sights, hwatching]
  split
  · exact List.map_eq_replicate_iff.2 fun m hm => congrArg view.look (h.state m hm)
  · rfl

/-- One is told of a state that comes up if it looks different to it. -/
theorem Follows.settle {v w : Watcher ε} (h : Follows log s v) (hvw : v.Becomes w)
    (hms : Settles ms t) (hwatching : t.isWatching w.id = w.isActive)
    (hlast : w.isActive = true → w.last = some (w.view.look t.state))
    (htold : t.toldTo w.id = s.toldTo v.id
      ++ if w.isActive = true ∧ v.last ≠ some (w.view.look t.state)
        then [w.view.look t.state] else []) :
    Follows (log ++ ms) t w := by
  have hsights : w.view.sights w.id log = v.view.sights v.id log := by rw [hvw.id, hvw.view]
  obtain ⟨n, hn⟩ := Nat.exists_eq_succ_of_ne_zero fun h => hms.ne_nil (List.length_eq_zero_iff.1 h)
  refine ⟨?_, fun hactive => ⟨hlast hactive, ?_⟩⟩
  · rw [htold, h.told, View.sights_append, hsights, hms.sights, hwatching]
    by_cases hactive : w.isActive = true
    · rw [if_pos hactive, hn, destutter_append_replicate, (h.last (hvw.isActive hactive)).2]
      by_cases hsame : v.last = some (w.view.look t.state) <;> simp [hactive, hsame]
    · simp [hactive]
  · rw [View.sights_append, hms.sights, hwatching, if_pos hactive, hn, hlast hactive,
      List.replicate_succ', ← List.append_assoc, List.getLast?_concat]

/-- One that is told nothing follows on while the state stays as it is. -/
theorem Follows.still {v w : Watcher ε} (h : Follows log s v) (hvw : v.Becomes w)
    (hsame : w.last = v.last) (hstate : t.state = s.state) (hms : Settles ms t)
    (hwatching : t.isWatching w.id = w.isActive) (htold : t.toldTo w.id = s.toldTo v.id) :
    Follows (log ++ ms) t w := by
  have hlast : w.isActive = true → v.last = some (w.view.look t.state) := fun hactive => by
    rw [hstate, hvw.view]
    exact (h.last (hvw.isActive hactive)).1
  refine h.settle hvw hms hwatching (fun hactive => hsame.trans (hlast hactive)) ?_
  rw [htold, if_neg fun hboth => hboth.2 (hlast hboth.1), List.append_nil]

/-! ## All watchers -/

/-- All that are only told of changes were told just what their views showed, and nobody who is
still to come was told anything. -/
structure Exact (log : List (Moment ε)) (s : Session ε) : Prop where
  numbered : s.Numbered
  follows : ∀ w ∈ s.watchers, w.view.isSelective = true → Follows log s w
  unseen : ∀ id, s.nextWatcher ≤ id →
    s.toldTo id = [] ∧ ∀ m ∈ log, m.session.isWatching id = false

theorem Exact.settle (h : Exact log s) (hnumbered : t.Numbered)
    (hnext : s.nextWatcher ≤ t.nextWatcher) (hms : Settles ms t)
    (hfollows : ∀ w ∈ t.watchers, w.view.isSelective = true → Follows (log ++ ms) t w)
    (hsilent : ∀ id, t.nextWatcher ≤ id → t.toldTo id = s.toldTo id) : Exact (log ++ ms) t where
  numbered := hnumbered
  follows := hfollows
  unseen id hid := by
    obtain ⟨htold, hlog⟩ := h.unseen id (hnext.trans hid)
    refine ⟨(hsilent id hid).trans htold, fun m hm => ?_⟩
    rcases List.mem_append.1 hm with hm | hm
    · exact hlog m hm
    · exact (hms.watching m hm id).trans (hnumbered.isWatching_of_le hid)

theorem settles_single (s : Session ε) : Settles [.of s] s := by
  constructor <;> simp [Moment.of]

theorem Exact.aside (h : Exact log s) (hst : s.Aside t) : Exact (log ++ [.of t]) t := by
  have hnumbered := hst.grows.numbered h.numbered
  refine h.settle hnumbered hst.grows.nextWatcher (settles_single t) (fun w hw hselective => ?_)
    fun id _ => hst.toldTo id
  obtain ⟨v, hv, hvw, hlast⟩ := hst.becomes w hw
  refine (h.follows v hv (hvw.view ▸ hselective)).still hvw hlast hst.state (settles_single t)
    (hnumbered.isWatching_eq hw) ?_
  rw [hst.toldTo, hvw.id]

section

variable (n : Nat) (hs : s.Obeys quiet)

include hs

theorem Exact.changed (h : Exact log s) (deed : Deed) :
    Exact (log ++ s.whileChanging (performWithin n) (momentsWithin n) deed)
      (s.change (performWithin n) (deed.apply s.defaults)) := by
  let t : Session ε := { s with state := deed.apply s.defaults s.state }
  have hgrows : s.Grows t := .changedState s _
  have ht : t.Numbered := hgrows.numbered h.numbered
  have hreads : t.Obeys reading := ⟨hs.watchers, fun _ _ _ _ => trivial, fun _ _ _ _ => trivial⟩
  have hshown := shown_publish n hreads ht
  -- from the change on nothing more is done to the state, so all its moments are one sight
  have hmoments : ∀ m ∈ s.whileChanging (performWithin n) (momentsWithin n) deed,
      m.session.state = t.state ∧ ∀ id, m.session.isWatching id = t.isWatching id := by
    intro m hm
    rcases List.mem_cons.1 hm with rfl | hm
    · exact ⟨rfl, fun _ => rfl⟩
    · obtain ⟨m', hm', rfl⟩ := List.mem_map.1 hm
      have hidle := isIdle_whileTelling n t.state t.audience hreads ht m' hm'
      exact ⟨hidle.state, hidle.watching⟩
  have hms : Settles (s.whileChanging (performWithin n) (momentsWithin n) deed)
      (t.publish (performWithin n)) :=
    ⟨List.cons_ne_nil _ _, fun m hm => (hmoments m hm).1.trans hshown.akin.state.symm,
      fun m hm id => ((hmoments m hm).2 id).trans (hshown.isWatching id).symm⟩
  have hnumbered := hshown.numbered ht
  refine h.settle (t := t.publish (performWithin n)) hnumbered
    (Nat.le_of_eq hshown.nextWatcher.symm) hms (fun w hw hselective => ?_) fun id hid => ?_
  · obtain ⟨v, hv, hseen, htold⟩ := exists_of_mem_publish n hreads ht hw
    have hvw : v.Becomes w := hseen ▸ v.becomes_ite_seeing t.state (v.isActive = true)
    have hactive : w.isActive = v.isActive :=
      hseen ▸ v.isActive_ite_seeing t.state (v.isActive = true)
    rw [hvw.view] at hselective
    refine (h.follows v hv hselective).settle hvw hms (hnumbered.isWatching_eq hw) (fun hw => ?_) ?_
    · rw [hvw.view, hshown.akin.state, hseen, if_pos (hactive ▸ hw)]
      exact v.last_seeing t.state hselective
    · rw [hvw.id, htold, hvw.view, hactive, hshown.akin.state]
      by_cases hv : v.isActive = true <;>
        by_cases hsame : v.last = some (v.view.look t.state) <;>
        simp [Watcher.news, Watcher.isAware, hv, hsame, hselective] <;> rfl
  · refine hshown.silent id fun hmem => ?_
    obtain ⟨v, hv, rfl⟩ := List.mem_map.1 hmem
    exact absurd (ht.lt v hv) (Nat.not_lt_of_le (hshown.nextWatcher ▸ hid))

end

theorem toldTo_greeted_self (s : Session ε) {view : View} (h : view.isSelective = true) :
    (s.greeted view).toldTo s.nextWatcher = s.toldTo s.nextWatcher ++ [view.look s.state] := by
  unfold greeted
  simp only [h, if_true]
  refine (toldTo_note _ _ _).trans ?_
  simp [Event.toldTo?]
  rfl

theorem Exact.greeted (h : Exact log s) (view : View) :
    Exact (log ++ [.of (s.greeted view)]) (s.greeted view) := by
  have hgrows := Grows.greeted s view
  have hnumbered := hgrows.numbered h.numbered
  have hsingle := settles_single (s.greeted view)
  refine h.settle hnumbered hgrows.nextWatcher hsingle (fun w hw hselective => ?_) fun id hid => ?_
  · have hold : w ∈ s.watchers := watchers_greeted s view ▸ hw
    exact (h.follows w hold hselective).still (.refl w) rfl (state_greeted s view) hsingle
      (hnumbered.isWatching_eq hw) (toldTo_greeted s view (Nat.ne_of_lt (h.numbered.lt w hold)))
  · rw [nextWatcher_greeted] at hid
    exact toldTo_greeted s view (Nat.ne_of_gt hid)

/-- A newcomer is told first what there is when it comes in. -/
theorem Exact.join (h : Exact log s) {w : Watcher ε} (hnumbered : (s.join w).Numbered)
    (hnew : ∀ m ∈ log, m.session.isWatching w.id = false) (hactive : w.isActive = true)
    (hlast : w.last = some (w.view.look s.state))
    (htold : w.view.isSelective = true → s.toldTo w.id = [w.view.look s.state]) :
    Exact (log ++ [.of (s.join w)]) (s.join w) := by
  have hsingle := settles_single (s.join w)
  refine h.settle hnumbered (Nat.le_refl _) hsingle (fun v hv hselective => ?_) fun id _ => rfl
  have hwatching := hnumbered.isWatching_eq hv
  rcases List.mem_append.1 hv with hv | hv
  · exact (h.follows v hv hselective).still (.refl v) rfl rfl hsingle hwatching rfl
  · rcases List.mem_singleton.1 hv with rfl
    have hsights : v.view.sights v.id (log ++ [.of (s.join v)]) = [v.view.look s.state] := by
      rw [View.sights_append, v.view.sights_eq_nil hnew, hsingle.sights, hwatching, if_pos hactive]
      rfl
    refine ⟨?_, fun _ => ⟨hlast, ?_⟩⟩
    · rw [hsights, List.destutter_singleton]
      exact htold hselective
    · rw [hsights, hlast, List.getLast?_singleton]

/-- From one session to another all that are only told of changes are told just what their views
show. -/
def Delivers (s : Session ε) (ms : List (Moment ε)) (t : Session ε) : Prop :=
  ∀ log, Exact log s → Exact (log ++ ms) t

theorem composable_delivers : Composable (Delivers (ε := ε)) :=
  .ofAside
    (fun _ log h => by
      rw [List.append_nil]
      exact h)
    (fun hst htu log h => by
      rw [← List.append_assoc]
      exact htu _ (hst log h))
    fun hst _ h => h.aside hst

theorem Exact.watched {n : Nat} (hact : Recounts quiet (Delivers (ε := ε)) n) (hs : s.Obeys quiet)
    (h : Exact log s) (view : View) {reaction : Option (Reaction ε)}
    (hr : ∀ r ∈ reaction, r.Does Action.IsReading) :
    Exact (log ++ s.whileWatching (performWithin n) (momentsWithin n) view reaction)
      (watch (performWithin n) { s with nextWatcher := s.nextWatcher + 1 } s.nextWatcher view
        reaction).1 := by
  have hreads := reading.acts_of_welcome hr view
  have hwelcomed := composable_delivers.reacting hact (hs.greeted view) _
    (fun a ha => (hreads a ha).isQuiet) _ (h.greeted view)
  have hstill := aside_react n (s.greeted view) hreads
  obtain ⟨htold, hlog⟩ := h.unseen s.nextWatcher (Nat.le_refl _)
  have hunseen : (s.greeted view).isWatching s.nextWatcher = false := by
    rw [isWatching, watchers_greeted]
    exact h.numbered.isWatching_of_le (Nat.le_refl _)
  have hnumbered := (grows_watch (grows_performWithin n) s view reaction).numbered h.numbered
  rw [watch_eq] at hnumbered ⊢
  rw [whileWatching, ← List.singleton_append, ← List.append_assoc, ← List.append_assoc]
  refine hwelcomed.join hnumbered (fun m hm => ?_) rfl ?_ fun hselective => ?_
  · rcases List.mem_append.1 hm with hm | hm
    · rcases List.mem_append.1 hm with hm | hm
      · exact hlog m hm
      · rcases List.mem_singleton.1 hm with rfl
        exact hunseen
    · exact ((isIdle_whileReacting n _ hreads m hm).watching _).trans hunseen
  · rw [hstill.state, state_greeted]
    rfl
  · refine (hstill.toldTo _).trans ((toldTo_greeted_self s hselective).trans ?_)
    rw [htold, hstill.state, state_greeted]
    rfl

theorem piecewise_delivers : Piecewise quiet (Delivers (ε := ε)) where
  toComposable := composable_delivers
  changed {n} _ {_} hs deed _ _ h := h.changed n hs deed
  watched {_} hact {_} hs view {_} hr _ h := h.watched hact hs view hr

/-! ## Whole runs -/

/-- Let watchers only read, whatever else is done.  Then one that is only told of changes was told
just what its view showed of the states that came up while it watched, each sight once for as long
as it stayed.  And it makes no difference to a watcher who else begins or stops watching.  Sights
are compared as they are, since the numbers in them are finite. -/
theorem delivered_exactly (defaults : Answers) (onSubmit onCancel : Option (Ending ε))
    (hsubmit : ∀ e ∈ onSubmit, ∀ a ∈ e.action, a.IsQuiet)
    (hcancel : ∀ e ∈ onCancel, ∀ a ∈ e.action, a.IsQuiet)
    (actions : List (Action ε)) (hactions : ∀ a ∈ actions, a.IsQuiet) :
    let history := (start defaults onSubmit onCancel).allMoments actions
    let s := (start defaults onSubmit onCancel).runAll actions
    (∀ w ∈ s.watchers, w.view.isSelective = true →
      s.toldTo w.id = (w.view.sights w.id history).destutter (· ≠ ·))
    ∧ ∀ w ∈ s.watchers, ∀ later later', (∀ a ∈ later, a.IsQuiet) → (∀ a ∈ later', a.IsQuiet) →
      later.filter (!·.isAboutWatching) = later'.filter (!·.isAboutWatching) →
      (s.runAll later).isWatching w.id = true → (s.runAll later').isWatching w.id = true →
      (s.runAll later).toldTo w.id = (s.runAll later').toldTo w.id := by
  intro history s
  have hstart : (start defaults onSubmit onCancel).Obeys quiet :=
    ⟨fun _ hw => absurd hw List.not_mem_nil, hsubmit, hcancel⟩
  have hempty : Exact [] (start defaults onSubmit onCancel) :=
    ⟨numbered_start _ _ _, fun _ hw => absurd hw List.not_mem_nil, fun _ _ => ⟨rfl, by simp⟩⟩
  have hexact : Exact history s := piecewise_delivers.allMoments hstart hactions [] hempty
  refine ⟨fun w hw hselective => (hexact.follows w hw hselective).told, ?_⟩
  intro w hw later later' hlater hlater' hsame hwatching hwatching'
  have htuned : Tuned w.id s := ⟨hstart.runAll hactions, hexact.numbered, hexact.numbered.lt w hw⟩
  have htwins := (Twins.refl hexact.numbered w.id).runAll later later' hlater hlater' hsame
    htuned htuned
  obtain ⟨v, hv, hid, hactive⟩ := isWatching_iff.1 hwatching
  obtain ⟨v', hv', hid', hactive'⟩ := isWatching_iff.1 hwatching'
  exact (htwins.hears v hv hid hactive v' hv' hid' hactive').2.2.symm

/-- Others begin to watch the status and stop again while a text is typed. -/
theorem delivered_exactly_typing :
    let name : Field := ⟨"n", none, "", .basic .text none, none, none⟩
    let s : Session Unit := (start ∅ none none).runAll
      [.register name, .watch (.session .status) none,
        .watch (.field 0 .answer) (some (.mk 0 9 (.read 0))), .set 0 (.text "a")]
    let later : List (Action Unit) :=
      [.watch (.session .validity) none, .set 0 (.text "a"), .stop 0, .set 0 (.text "b")]
    let later' : List (Action Unit) :=
      [.set 0 (.text "a"), .set 0 (.text "b"), .watch (.field 0 .answer) none]
    (s.runAll later).toldTo 1
        = [.answer none, .answer (some (.text "a")), .answer (some (.text "b"))]
      ∧ (s.runAll later).toldTo 1 = (s.runAll later').toldTo 1 := by
  intro name s later later'
  obtain ⟨w, hw, hid, -⟩ := isWatching_iff.1 (show s.isWatching 1 = true by decide +kernel)
  obtain ⟨-, hsame⟩ := delivered_exactly ∅ none none (by simp) (by simp)
    [.register name, .watch (.session .status) none,
      .watch (.field 0 .answer) (some (.mk 0 9 (.read 0))), .set 0 (.text "a")]
    (by simp [Action.IsQuiet, Reaction.Does, Action.IsReading])
  have htold := hsame w hw later later' (by simp [later, Action.IsQuiet])
    (by simp [later', Action.IsQuiet]) rfl
  rw [hid] at htold
  exact ⟨by decide +kernel, htold (by decide +kernel) (by decide +kernel)⟩

end Session

end NoteForms
