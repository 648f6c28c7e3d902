import NoteForms.Proofs.Basics
import NoteForms.Proofs.Places

/-!
# Steps with files

Steps with files run one after the other, and what each of them comes to is said here once.  A path
leads through directories, and to the same place as long as they stay where they are
(`FileSystem.locate_of_directories`).
-/

namespace NoteForms

variable {φ α β : Type}

/-! ## Running steps -/

/-- What comes of steps: an answer or a fault, and the files as they are then. -/
def runIn (steps : ExceptT φ (StateM FileSystem) α) (fs : FileSystem) : Except φ α × FileSystem :=
  steps.run.run fs

section

variable {fs : FileSystem}

theorem runIn_get_bind (f : FileSystem → ExceptT φ (StateM FileSystem) β) :
    runIn (get >>= f) fs = runIn (f fs) fs := rfl

theorem runIn_liftExcept (r : Except φ α) : runIn (liftExcept r) fs = (r, fs) := by
  cases r <;> rfl

theorem runIn_bind (x : ExceptT φ (StateM FileSystem) α)
    (f : α → ExceptT φ (StateM FileSystem) β) :
    runIn (x >>= f) fs = match runIn x fs with
      | (.ok a, fs) => runIn (f a) fs
      | (.error e, fs) => (.error e, fs) := by
  unfold runIn
  rw [ExceptT.run_bind, StateT.run_bind]
  cases x.run.run fs with
  | mk r fs => cases r <;> rfl

theorem runIn_bind_eq_ok_iff {x : ExceptT φ (StateM FileSystem) α}
    {f : α → ExceptT φ (StateM FileSystem) β} {b : β} {fs' : FileSystem} :
    runIn (x >>= f) fs = (.ok b, fs')
      ↔ ∃ a between, runIn x fs = (.ok a, between) ∧ runIn (f a) between = (.ok b, fs') := by
  rw [runIn_bind]
  cases runIn x fs with
  | mk r between => cases r <;> simp

theorem runIn_look (f : FileSystem → Except FileFault α) :
    runIn (Filing.look f) fs = (f fs, fs) := by
  unfold Filing.look
  rw [runIn_get_bind]
  exact runIn_liftExcept _

/-- Steps fail where their first part fails, and else end where the rest ends. -/
theorem runIn_bind_cases {x : ExceptT φ (StateM FileSystem) α}
    {f : α → ExceptT φ (StateM FileSystem) β} {result : Except φ β} {fs' : FileSystem}
    (h : runIn (x >>= f) fs = (result, fs')) :
    (∃ e, runIn x fs = (.error e, fs') ∧ result = .error e)
      ∨ ∃ a between, runIn x fs = (.ok a, between) ∧ runIn (f a) between = (result, fs') := by
  rw [runIn_bind] at h
  rcases hfirst : runIn x fs with ⟨e | a, between⟩
  all_goals rw [hfirst] at h
  · cases h
    exact .inl ⟨e, rfl, rfl⟩
  · exact .inr ⟨a, between, rfl, h⟩

namespace Filing

variable {disk : Disk} {fs' : FileSystem} {p source target : Path} {place : Place}
  {name text : String}

/-- What comes of steps that could not go on. -/
def StoppedAt (fs : FileSystem) (result : Except φ α) (fs' : FileSystem) : Prop :=
  (∃ e, result = .error e) ∧ fs' = fs

theorem look_bind_cases {f : FileSystem → Except FileFault α} {g : α → Filing β}
    {result : Except FileFault β} (h : runIn (look f >>= g) fs = (result, fs')) :
    StoppedAt fs result fs' ∨ ∃ a, f fs = .ok a ∧ runIn (g a) fs = (result, fs') := by
  rw [runIn_bind, runIn_look] at h
  cases ha : f fs with
  | error e =>
    rw [ha] at h
    cases h
    exact .inl ⟨⟨e, rfl⟩, rfl⟩
  | ok a =>
    rw [ha] at h
    exact .inr ⟨a, rfl, h⟩

/-- A call changes nothing by itself. -/
theorem eq_of_runIn_call {c : DiskCall} {result : Except FileFault Unit}
    (h : runIn (call disk c) fs = (result, fs')) : fs' = fs := by
  unfold call at h
  rw [runIn_get_bind] at h
  split at h
  all_goals
    cases h
    rfl

theorem call_bind_cases {c : DiskCall} {g : Unit → Filing α} {result : Except FileFault α}
    (h : runIn (call disk c >>= g) fs = (result, fs')) :
    StoppedAt fs result fs' ∨ runIn (g ()) fs = (result, fs') := by
  obtain ⟨e, hcall, rfl⟩ | ⟨_, after, hcall, hrest⟩ := runIn_bind_cases h
  · exact .inl ⟨⟨e, rfl⟩, eq_of_runIn_call hcall⟩
  · rw [eq_of_runIn_call hcall] at hrest
    exact .inr hrest

theorem fetch_cases {result : Except FileFault String}
    (h : runIn (fetch p disk) fs = (result, fs')) :
    StoppedAt fs result fs' ∨ ∃ text, result = .ok text ∧ fs.read p = .ok text ∧ fs' = fs := by
  obtain hstopped | ⟨text, hread, hcall⟩ := look_bind_cases h
  · exact .inl hstopped
  · obtain hstopped | htext := call_bind_cases hcall
    · exact .inl hstopped
    · cases htext
      exact .inr ⟨text, rfl, hread, rfl⟩

theorem runIn_fetch_sound : runIn (fetch p) fs = (fs.read p, fs) := by
  unfold fetch
  rw [runIn_bind, runIn_look]
  cases fs.read p <;> rfl

/-- A directory is made where there is nothing, or nothing is done. -/
theorem makeStep_cases {result : Except FileFault Place}
    (h : runIn (makeStep disk place name) fs = (result, fs')) :
    fs' = fs ∨ ∃ next, fs.node? next = none ∧ fs' = fs.put next .directory := by
  obtain ⟨-, hsame⟩ | ⟨next, -, hmake⟩ := look_bind_cases h
  · exact .inl hsame
  · rw [runIn_get_bind] at hmake
    split at hmake
    · rename_i hnone
      obtain ⟨-, hsame⟩ | hput := call_bind_cases hmake
      · exact .inl hsame
      · cases hput
        exact .inr ⟨next, Option.isNone_iff_eq_none.1 hnone, rfl⟩
    · cases hmake
      exact .inl rfl

/-- A file is opened at the place to which the path leads, or nothing is done. -/
theorem openEmpty_cases {result : Except FileFault Place}
    (h : runIn (openEmpty disk p) fs = (result, fs')) :
    StoppedAt fs result fs' ∨ ∃ place, result = .ok place ∧ p.endsWithSlash = false
      ∧ fs.locate p = .ok place ∧ fs.node? place ≠ some .directory
      ∧ fs' = fs.put place (.file "") := by
  obtain hstopped | ⟨place, hplace, hopen⟩ := look_bind_cases h
  · exact .inl hstopped
  · rw [runIn_get_bind] at hopen
    split at hopen
    · cases hopen
      exact .inl ⟨⟨_, rfl⟩, rfl⟩
    · rename_i hfree
      obtain hstopped | hput := call_bind_cases hopen
      · exact .inl hstopped
      · cases hput
        simp only [Bool.or_eq_true, decide_eq_true_eq, not_or, Bool.not_eq_true] at hfree
        exact .inr ⟨place, rfl, hfree.1, hplace, hfree.2, rfl⟩

/-- A file has all of a text that was written into it, or if that failed a part of it. -/
theorem fill_cases {result : Except FileFault Unit}
    (h : runIn (fill disk place text) fs = (result, fs')) :
    (result = .ok () ∧ fs' = fs.put place (.file text))
      ∨ ∃ mishap : Mishap, result = .error mishap.fault
        ∧ fs' = fs.put place (.ofBytes (text.toUTF8.extract 0 mishap.written)) := by
  unfold fill at h
  rw [runIn_get_bind] at h
  split at h
  · cases h
    exact .inl ⟨rfl, rfl⟩
  · cases h
    exact .inr ⟨_, rfl, rfl⟩

/-- A file takes the place of another, or nothing is done. -/
theorem move_cases {result : Except FileFault Unit}
    (h : runIn (move source target disk) fs = (result, fs')) :
    StoppedAt fs result fs' ∨ ∃ node old new, result = .ok ()
      ∧ fs.find source = .ok node ∧ node ≠ .directory
      ∧ fs.locate source = .ok old ∧ fs.locate target = .ok new
      ∧ endsInDots target = false ∧ target.endsWithSlash = false
      ∧ fs.node? new ≠ some .directory ∧ fs' = (fs.remove old).put new node := by
  obtain hstopped | ⟨node, hnode, hrest⟩ := look_bind_cases h
  · exact .inl hstopped
  simp only [] at hrest
  split at hrest
  · cases hrest
    exact .inl ⟨⟨_, rfl⟩, rfl⟩
  rename_i hfile
  obtain hstopped | ⟨old, hold, htarget⟩ := look_bind_cases hrest
  · exact .inl hstopped
  obtain hstopped | ⟨new, hnew, hmove⟩ := look_bind_cases htarget
  · exact .inl hstopped
  split at hmove
  · cases hmove
    exact .inl ⟨⟨_, rfl⟩, rfl⟩
  split at hmove
  · cases hmove
    exact .inl ⟨⟨_, rfl⟩, rfl⟩
  rename_i hdots hslash
  rw [runIn_get_bind] at hmove
  split at hmove
  · cases hmove
    exact .inl ⟨⟨_, rfl⟩, rfl⟩
  rename_i hfree
  obtain hstopped | hput := call_bind_cases hmove
  · exact .inl hstopped
  · cases hput
    exact .inr ⟨node, old, new, rfl, hnode, hfile, hold, hnew, by simpa using hdots,
      by simpa using hslash, hfree, rfl⟩

end Filing

end

/-! ## Where paths lead -/

namespace FileSystem

variable {fs fs' : FileSystem} {p : Path} {place next : Place} {name : String}

theorem node?_of_enter (h : fs.enter place name = .ok next) :
    fs.node? place = some .directory := by
  unfold enter at h
  split at h
  · cases h
  · cases h
  · cases h
  · assumption

theorem locate_eq_ok_iff : fs.locate p = .ok place ↔
    p.text.isEmpty = false ∧ p.names.foldlM fs.enter (fs.origin p) = .ok place := by
  unfold locate
  cases p.text.isEmpty with
  | true =>
    simp only [if_true]
    exact ⟨nofun, fun h => absurd h.1 Bool.noConfusion⟩
  | false => simp

theorem find_eq_ok_iff {node : Node} : fs.find p = .ok node ↔
    ∃ place, fs.locate p = .ok place ∧ fs.node? place = some node
      ∧ (p.endsWithSlash = true → node = .directory) := by
  unfold find
  cases fs.locate p with
  | error e => simp [bind, Except.bind]
  | ok place =>
    cases hslash : p.endsWithSlash with
    | true =>
      cases hnode : fs.node? place with
      | none => simp [bind, Except.bind, enter, hnode]
      | some found =>
        cases found
        all_goals
          simp only [bind, Except.bind, pure, Except.pure, enter, hnode]
          grind
    | false =>
      cases hnode : fs.node? place <;> simp [bind, Except.bind, pure, Except.pure, hnode]

theorem read_eq_ok_iff {text : String} : fs.read p = .ok text ↔ fs.find p = .ok (.file text) := by
  unfold read
  cases fs.find p with
  | error e => simp [bind, Except.bind]
  | ok node => cases node <;> simp [bind, Except.bind, pure, Except.pure]

theorem isThere_iff : fs.isThere p = true ↔ ∃ node, fs.find p = .ok node := by
  unfold isThere
  cases fs.find p <;> simp [Except.isOk, Except.toBool]

/-- A path leads to where it did as long as directories stay where they are. -/
theorem locate_of_directories (hworking : fs'.working = fs.working)
    (hdirectory : ∀ {place}, fs.node? place = some .directory → fs'.node? place = some .directory)
    (hplace : fs.locate p = .ok place) : fs'.locate p = .ok place := by
  have henter : ∀ {place next name}, fs.enter place name = .ok next →
      fs'.enter place name = .ok next := by
    intro place next name henter
    have hthere := node?_of_enter henter
    unfold enter at henter ⊢
    rw [hthere] at henter
    rw [hdirectory hthere]
    exact henter
  have hwalk : ∀ (names : List String) {start : Place}, names.foldlM fs.enter start = .ok place →
      names.foldlM fs'.enter start = .ok place := by
    intro names
    induction names with
    | nil => exact id
    | cons first names ih =>
      intro start hfold
      rw [List.foldlM_cons, bind_eq_ok_iff] at hfold ⊢
      obtain ⟨next, hnext, hrest⟩ := hfold
      exact ⟨next, henter hnext, ih hrest⟩
  obtain ⟨htext, hfold⟩ := locate_eq_ok_iff.1 hplace
  have horigin : fs'.origin p = fs.origin p := by rw [origin, hworking, origin]
  rw [locate_eq_ok_iff, horigin]
  exact ⟨htext, hwalk p.names hfold⟩

/-! ## What is put and removed -/

theorem node?_eq (hplace : place ≠ []) : fs.node? place = fs.nodes.get? place.text := by
  unfold node?
  rw [if_neg (by simpa using hplace)]

theorem node?_put_self (hplace : place ≠ []) (node : Node) :
    (fs.put place node).node? place = some node := by
  rw [node?_eq hplace, put, Table.get?_insert, if_pos rfl]

theorem node?_put_of_ne {q : Place} (h : place.text ≠ q.text) (node : Node) :
    (fs.put place node).node? q = fs.node? q := by
  unfold node? put
  rw [Table.get?_insert, if_neg h]

theorem node?_remove_of_ne {q : Place} (h : place.text ≠ q.text) :
    (fs.remove place).node? q = fs.node? q := by
  have hget : (fs.remove place).nodes.get? q.text = fs.nodes.get? q.text :=
    lookup_filter_ne h fs.nodes.entries
  unfold node?
  rw [hget]

theorem node?_of_node?_remove {q : Place} {node : Node}
    (h : (fs.remove place).node? q = some node) : fs.node? q = some node := by
  by_cases heq : place.text = q.text
  · by_cases hroot : q = []
    · subst hroot
      exact h
    · rw [node?_eq hroot] at h
      have hmem := mem_of_lookup h
      rw [remove, Table.filter, List.mem_filter, bne_iff_ne, heq] at hmem
      exact absurd rfl hmem.2
  · rw [← node?_remove_of_ne heq, h]

/-- Directories stay when nothing changes but what is no directory. -/
theorem directory_of_ne (hdirectory : fs.node? place ≠ some .directory)
    (hsame : ∀ {q : Place}, place.text ≠ q.text → fs'.node? q = fs.node? q) {q : Place}
    (hq : fs.node? q = some .directory) : fs'.node? q = some .directory := by
  have hplace : place ≠ [] := by
    rintro rfl
    exact hdirectory rfl
  by_cases hroot : q = []
  · subst hroot
    rfl
  · have hne : place.text ≠ q.text := by
      intro heq
      rw [node?_eq hroot, ← heq, ← node?_eq hplace] at hq
      exact hdirectory hq
    rw [hsame hne, hq]

end FileSystem

end NoteForms
