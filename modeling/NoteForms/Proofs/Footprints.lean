import NoteForms.Proofs.Destinations

/-!
# What steps may change

Of the steps with files it is known before they run which files they may change (`Confined`),
whatever the disk does meanwhile: the one that is written, and the draft and the file when one takes
the place of the other.  What fails may have written a part of its text (`Node.IsWritten`), but has
put nothing in the place of another file.  No step removes a directory, and files of another name
stay (`FileSystem.Spares`).
-/

namespace NoteForms

variable {φ α β : Type}

namespace FileSystem

variable {fs fs' : FileSystem} {place q : Place} {places places' : List Place} {p : Path}
  {name : String}

/-- The file at a place, if there is one. -/
def file? (fs : FileSystem) (place : Place) : Option Node :=
  (fs.node? place).filter fun node => node ≠ .directory

theorem file?_eq_some_iff {node : Node} :
    fs.file? place = some node ↔ fs.node? place = some node ∧ node ≠ .directory := by
  simp [file?, Option.filter_eq_some_iff]

theorem file?_congr (hplace : place ≠ []) (hq : q ≠ []) (h : place.text = q.text) :
    fs.file? place = fs.file? q := by
  rw [file?, file?, node?_eq hplace, node?_eq hq, h]

theorem ne_nil_of_file? {node : Node} (h : fs.file? place = some node) : place ≠ [] := by
  rintro rfl
  obtain ⟨hnode, hfile⟩ := file?_eq_some_iff.1 h
  exact hfile (Option.some.inj hnode).symm

/-- A file that is found is at the destination of its path. -/
theorem file?_of_find {node : Node} (h : fs.find p = .ok node) (hfile : node ≠ .directory) :
    fs.file? (p.destination fs.working) = some node := by
  obtain ⟨place, hplace, hnode, -⟩ := find_eq_ok_iff.1 h
  rw [← eq_destination_of_locate hplace, file?_eq_some_iff]
  exact ⟨hnode, hfile⟩

theorem file?_of_read {text : String} (h : fs.read p = .ok text) :
    fs.file? (p.destination fs.working) = some (.file text) :=
  file?_of_find (read_eq_ok_iff.1 h) (by simp)

/-- Directories stay where they are, and no files change but those at some places. -/
structure OnlyAt (places : List Place) (fs fs' : FileSystem) : Prop where
  working : fs'.working = fs.working
  directory : ∀ {q}, fs.node? q = some .directory → fs'.node? q = some .directory
  file? : ∀ {q : Place}, (∀ place ∈ places, place.text ≠ q.text) → fs'.file? q = fs.file? q

namespace OnlyAt

theorem refl (places : List Place) (fs : FileSystem) : OnlyAt places fs fs :=
  ⟨rfl, id, fun _ => rfl⟩

theorem trans {fs'' : FileSystem} (h : OnlyAt places fs fs') (h' : OnlyAt places' fs' fs'') :
    OnlyAt (places ++ places') fs fs'' where
  working := h'.working.trans h.working
  directory hq := h'.directory (h.directory hq)
  file? hq := by
    obtain ⟨hfirst, hsecond⟩ := List.forall_mem_append.1 hq
    rw [h'.file? hsecond, h.file? hfirst]

theorem mono (h : OnlyAt places fs fs') (hsub : places ⊆ places') : OnlyAt places' fs fs' :=
  ⟨h.working, h.directory, fun hq => h.file? fun place hplace => hq place (hsub hplace)⟩

theorem locate (h : OnlyAt places fs fs') (hplace : fs.locate p = .ok place) :
    fs'.locate p = .ok place :=
  locate_of_directories h.working h.directory hplace

/-- A place where there is no file before and after has not changed. -/
theorem of_absent (h : OnlyAt places fs fs') (hplace : place ≠ [])
    (hbefore : fs.file? place = none) (hafter : fs'.file? place = none)
    (hsub : ∀ other ∈ places, other = place ∨ other ∈ places') : OnlyAt places' fs fs' := by
  refine ⟨h.working, h.directory, fun {q} hq => ?_⟩
  -- Files are kept by the texts of their places.  The root is a directory whatever is kept.
  by_cases heq : place.text = q.text
  · by_cases hroot : q = []
    · subst hroot
      rfl
    · rw [← file?_congr hplace hroot heq, ← file?_congr hplace hroot heq, hbefore, hafter]
  · refine h.file? fun other hother => ?_
    rcases hsub other hother with rfl | hother
    · exact heq
    · exact hq other hother

/-- Where a file was found, another that is there now is found. -/
theorem find_of_file? {old node : Node} (h : OnlyAt places fs fs') (hfind : fs.find p = .ok old)
    (hold : old ≠ .directory) (hfile : fs'.file? (p.destination fs.working) = some node) :
    fs'.find p = .ok node := by
  obtain ⟨place, hplace, -, hslash⟩ := find_eq_ok_iff.1 hfind
  rw [← eq_destination_of_locate hplace] at hfile
  exact find_eq_ok_iff.2 ⟨place, h.locate hplace, (file?_eq_some_iff.1 hfile).1,
    fun hends => absurd (hslash hends) hold⟩

theorem find {node : Node} (h : OnlyAt places fs fs')
    (hp : ∀ place ∈ places, place.text ≠ Place.text (p.destination fs.working))
    (hfind : fs.find p = .ok node) : fs'.find p = .ok node := by
  by_cases hfile : node = .directory
  · subst hfile
    obtain ⟨place, hplace, hnode, hslash⟩ := find_eq_ok_iff.1 hfind
    exact find_eq_ok_iff.2 ⟨place, h.locate hplace, h.directory hnode, hslash⟩
  · exact h.find_of_file? hfind hfile (by rw [h.file? hp, file?_of_find hfind hfile])

theorem read {text : String} (h : OnlyAt places fs fs')
    (hp : ∀ place ∈ places, place.text ≠ Place.text (p.destination fs.working))
    (hread : fs.read p = .ok text) : fs'.read p = .ok text :=
  read_eq_ok_iff.2 (h.find hp (read_eq_ok_iff.1 hread))

theorem isThere (h : OnlyAt places fs fs')
    (hp : ∀ place ∈ places, place.text ≠ Place.text (p.destination fs.working))
    (hthere : fs.isThere p = true) : fs'.isThere p = true := by
  obtain ⟨node, hfind⟩ := isThere_iff.1 hthere
  exact isThere_iff.2 ⟨node, h.find hp hfind⟩

/-- What was there before and has not changed reads as it did. -/
theorem read_of_isThere {text : String} (h : OnlyAt places fs fs')
    (hp : ∀ place ∈ places, place.text ≠ Place.text (p.destination fs.working))
    (hthere : fs.isThere p = true) (hread : fs'.read p = .ok text) : fs.read p = .ok text := by
  obtain ⟨node, hfind⟩ := isThere_iff.1 hthere
  rw [read_eq_ok_iff, h.find hp hfind] at hread
  rw [read_eq_ok_iff, hfind, hread]

end OnlyAt

/-! ### Files of a name -/

/-- Directories stay where they are, and so does what has a name. -/
structure Spares (name : String) (fs fs' : FileSystem) : Prop where
  working : fs'.working = fs.working
  directory : ∀ {place}, fs.node? place = some .directory → fs'.node? place = some .directory
  node : ∀ {front node}, fs.node? (front ++ [name]) = some node →
    fs'.node? (front ++ [name]) = some node

namespace Spares

theorem refl (name : String) (fs : FileSystem) : Spares name fs fs := ⟨rfl, id, id⟩

theorem trans {fs'' : FileSystem} (h : Spares name fs fs') (h' : Spares name fs' fs'') :
    Spares name fs fs'' :=
  ⟨h'.working.trans h.working, fun hp => h'.directory (h.directory hp),
    fun hp => h'.node (h.node hp)⟩

theorem locate (h : Spares name fs fs') (hplace : fs.locate p = .ok place) :
    fs'.locate p = .ok place :=
  locate_of_directories h.working h.directory hplace

theorem find {node : Node} (h : Spares name fs fs') (hp : p.EndsIn name)
    (hfind : fs.find p = .ok node) : fs'.find p = .ok node := by
  obtain ⟨place, hplace, hnode, hslash⟩ := find_eq_ok_iff.1 hfind
  obtain ⟨front, rfl⟩ := exists_of_locate hp hplace
  exact find_eq_ok_iff.2 ⟨_, h.locate hplace, h.node hnode, hslash⟩

theorem read {text : String} (h : Spares name fs fs') (hp : p.EndsIn name)
    (hread : fs.read p = .ok text) : fs'.read p = .ok text :=
  read_eq_ok_iff.2 (h.find hp (read_eq_ok_iff.1 hread))

end Spares

theorem OnlyAt.spares (h : OnlyAt places fs fs')
    (hplaces : ∀ place ∈ places, ∀ front, place.text ≠ Place.text (front ++ [name])) :
    Spares name fs fs' where
  working := h.working
  directory hq := h.directory hq
  node {front node} hq := by
    by_cases hfile : node = .directory
    · subst hfile
      exact h.directory hq
    · have hkept : fs'.file? (front ++ [name]) = some node := by
        rw [h.file? fun place hplace => hplaces place hplace front, file?_eq_some_iff]
        exact ⟨hq, hfile⟩
      exact (file?_eq_some_iff.1 hkept).1

/-! ### What is put and removed -/

theorem onlyAt_of_ne (hdirectory : fs.node? place ≠ some .directory)
    (hworking : fs'.working = fs.working)
    (hsame : ∀ {q : Place}, place.text ≠ q.text → fs'.node? q = fs.node? q) :
    OnlyAt [place] fs fs' where
  working := hworking
  directory hq := directory_of_ne hdirectory hsame hq
  file? hq := by rw [FileSystem.file?, hsame (hq place List.mem_cons_self), FileSystem.file?]

theorem onlyAt_put (h : fs.node? place ≠ some .directory) (node : Node) :
    OnlyAt [place] fs (fs.put place node) :=
  onlyAt_of_ne h rfl fun hne => node?_put_of_ne hne _

theorem onlyAt_remove (h : fs.node? place ≠ some .directory) :
    OnlyAt [place] fs (fs.remove place) :=
  onlyAt_of_ne h rfl node?_remove_of_ne

/-- Where there is nothing, a directory takes the place of no file. -/
theorem onlyAt_put_directory (h : fs.node? place = none) :
    OnlyAt [] fs (fs.put place .directory) := by
  have hplace : place ≠ [] := by
    rintro rfl
    cases h
  have hbefore : fs.file? place = none := by simp [FileSystem.file?, h]
  have hafter : (fs.put place .directory).file? place = none := by
    simp [FileSystem.file?, node?_put_self hplace]
  exact (onlyAt_put (by simp [h]) _).of_absent hplace hbefore hafter (by simp)

theorem file?_remove_self (place : Place) : (fs.remove place).file? place = none := by
  rw [← Option.not_isSome_iff_eq_none, Option.isSome_iff_exists]
  rintro ⟨node, hthere⟩
  obtain ⟨hnode, -⟩ := file?_eq_some_iff.1 hthere
  rw [node?_eq (ne_nil_of_file? hthere)] at hnode
  have hmem := mem_of_lookup hnode
  rw [remove, Table.filter, List.mem_filter] at hmem
  simp at hmem

end FileSystem

open FileSystem

/-! ## Steps -/

/-- Steps from a working directory change no files but those at some places if they succeed, and at
some if they fail. -/
structure Confined (working : Place) (done failed : List Place)
    (steps : ExceptT φ (StateM FileSystem) α) : Prop where
  ok : ∀ {fs a fs'}, fs.working = working → runIn steps fs = (.ok a, fs') → OnlyAt done fs fs'
  error : ∀ {fs e fs'}, fs.working = working → runIn steps fs = (.error e, fs') →
    OnlyAt failed fs fs'

section

variable {working : Place} {done failed done' failed' : List Place}
  {steps : ExceptT φ (StateM FileSystem) α}

theorem confined_of_unchanged (h : ∀ fs, (runIn steps fs).2 = fs) :
    Confined working done failed steps where
  ok {fs a fs'} _ hrun := by
    obtain rfl : fs' = fs := (congrArg Prod.snd hrun).symm.trans (h fs)
    exact .refl _ fs'
  error {fs e fs'} _ hrun := by
    obtain rfl : fs' = fs := (congrArg Prod.snd hrun).symm.trans (h fs)
    exact .refl _ fs'

theorem confined_of_onlyAt (h : ∀ {fs result fs'}, fs.working = working →
    runIn steps fs = (result, fs') → OnlyAt done fs fs') : Confined working done done steps :=
  ⟨fun hfs hrun => h hfs hrun, fun hfs hrun => h hfs hrun⟩

theorem Confined.mono (h : Confined working done failed steps) (hdone : done ⊆ done')
    (hfailed : failed ⊆ failed') : Confined working done' failed' steps :=
  ⟨fun hfs hrun => (h.ok hfs hrun).mono hdone, fun hfs hrun => (h.error hfs hrun).mono hfailed⟩

/-- Steps that fail in their second part have done their first. -/
theorem Confined.bind {f : α → ExceptT φ (StateM FileSystem) β}
    (hx : Confined working done failed steps) (hf : ∀ a, Confined working done' failed' (f a)) :
    Confined working (done ++ done') (failed ++ (done ++ failed')) (steps >>= f) where
  ok hfs hrun := by
    obtain ⟨a, between, hfirst, hsecond⟩ := runIn_bind_eq_ok_iff.1 hrun
    have hstep := hx.ok hfs hfirst
    exact hstep.trans ((hf a).ok (hstep.working.trans hfs) hsecond)
  error hfs hrun := by
    obtain ⟨_, hfirst, -⟩ | ⟨a, between, hfirst, hsecond⟩ := runIn_bind_cases hrun
    · exact (hx.error hfs hfirst).mono (List.subset_append_left _ _)
    · have hstep := hx.ok hfs hfirst
      exact (hstep.trans ((hf a).error (hstep.working.trans hfs) hsecond)).mono
        (List.subset_append_right _ _)

/-- Whatever comes of the steps, files of another name than those that they may change stay. -/
theorem Confined.spares (h : Confined working done failed steps) {fs : FileSystem} {name : String}
    (hfs : fs.working = working)
    (hplaces : ∀ place ∈ done ++ failed, ∀ front, place.text ≠ Place.text (front ++ [name])) :
    Spares name fs (runIn steps fs).2 := by
  obtain ⟨hdone, hfailed⟩ := List.forall_mem_append.1 hplaces
  rcases hrun : runIn steps fs with ⟨e | a, fs'⟩
  · exact (h.error hfs hrun).spares hfailed
  · exact (h.ok hfs hrun).spares hdone

theorem Confined.working_eq (h : Confined working done failed steps) {fs : FileSystem}
    (hfs : fs.working = working) : (runIn steps fs).2.working = working := by
  rcases hrun : runIn steps fs with ⟨e | a, fs'⟩
  · exact (h.error hfs hrun).working.trans hfs
  · exact (h.ok hfs hrun).working.trans hfs

end

section

variable (working : Place)

theorem confined_get : Confined (φ := φ) working [] [] get := confined_of_unchanged fun _ => rfl

theorem confined_foldlM {f : β → α → ExceptT φ (StateM FileSystem) β}
    (hf : ∀ b a, Confined working [] [] (f b a)) : ∀ (as : List α) (b : β),
    Confined working [] [] (as.foldlM f b)
  | [], b => confined_of_unchanged fun _ => rfl
  | a :: as, b => by
    rw [List.foldlM_cons]
    exact (hf b a).bind (confined_foldlM hf as)

namespace Filing

variable (disk : Disk)

theorem confined_fetch (p : Path) : Confined working [] [] (fetch p disk) :=
  confined_of_unchanged fun fs => by
    rcases hrun : runIn (fetch p disk) fs with ⟨result, fs'⟩
    obtain ⟨-, hsame⟩ | ⟨-, -, -, hsame⟩ := fetch_cases hrun
    all_goals exact hsame

theorem confined_makeStep (place : Place) (name : String) :
    Confined working [] [] (makeStep disk place name) :=
  confined_of_onlyAt fun {fs _ _} _ hrun => by
    obtain rfl | ⟨next, hnone, rfl⟩ := makeStep_cases hrun
    · exact .refl _ _
    · exact onlyAt_put_directory hnone

theorem confined_makeDirectories (p : Path) :
    Confined working [] [] (makeDirectories p disk) := by
  refine (confined_get working).bind fun fs =>
    (confined_foldlM working (confined_makeStep working disk) _ _).bind fun place =>
      (confined_get working).bind fun fs' => ?_
  split
  all_goals exact confined_of_unchanged fun _ => rfl

theorem confined_makeParent (p : Path) : Confined working [] [] (makeParent p disk) := by
  unfold makeParent
  split
  · exact confined_makeDirectories working disk _
  · exact confined_of_unchanged fun _ => rfl

end Filing

end

/-! ### Writing -/

/-- What a file holds after a text was written into it: all of the text, or if a fault came of it
perhaps a part. -/
def Node.IsWritten (node : Node) (text : String) (came : FileFault → Prop) : Prop :=
  node = .file text ∨ ∃ mishap : Mishap, came mishap.fault
    ∧ node = .ofBytes (text.toUTF8.extract 0 mishap.written)

theorem Node.IsWritten.ne_directory {node : Node} {text : String} {came : FileFault → Prop}
    (h : node.IsWritten text came) : node ≠ .directory := by
  obtain rfl | ⟨mishap, -, rfl⟩ := h
  · simp
  · unfold Node.ofBytes
    split <;> simp

namespace Filing

variable {disk : Disk} {fs fs' : FileSystem} {source target p : Path} {text : String}

/-- Writing leaves a file at the end of the path, or does nothing. -/
theorem create_cases {result : Except FileFault Unit}
    (h : runIn (create p text disk) fs = (result, fs')) :
    StoppedAt fs result fs' ∨ ∃ node, fs.OnlyAt [p.destination fs.working] fs'
      ∧ fs'.find p = .ok node ∧ node.IsWritten text (result = .error ·) := by
  obtain ⟨e, hopen, rfl⟩ | ⟨place, opened, hopen, hrest⟩ := runIn_bind_cases h
  · obtain ⟨-, hsame⟩ | ⟨_, hplace, -⟩ := openEmpty_cases hopen
    · exact .inl ⟨⟨e, rfl⟩, hsame⟩
    · cases hplace
  obtain ⟨⟨_, hplace⟩, -⟩ | ⟨_, hresult, hslash, hplace, hfree, rfl⟩ := openEmpty_cases hopen
  · cases hplace
  cases hresult
  have hopened : fs.OnlyAt [place] (fs.put place (.file "")) := onlyAt_put hfree _
  -- What the file holds is decided by the write, and the call that follows it keeps the file.
  have hfilled : ∀ {filled node}, filled = (fs.put place (.file "")).put place node →
      fs.OnlyAt [p.destination fs.working] filled ∧ filled.find p = .ok node := by
    rintro _ node rfl
    have hroot : place ≠ [] := by
      rintro rfl
      exact hfree rfl
    have hfile : (fs.put place (.file "")).node? place ≠ some .directory := by
      simp [node?_put_self hroot]
    have honly : fs.OnlyAt [place] _ := (hopened.trans (onlyAt_put hfile node)).mono (by simp)
    rw [← eq_destination_of_locate hplace]
    exact ⟨honly, find_eq_ok_iff.2 ⟨place, honly.locate hplace, node?_put_self hroot node,
      by simp [hslash]⟩⟩
  right
  obtain ⟨e, hfill, rfl⟩ | ⟨_, filled, hfill, hsync⟩ := runIn_bind_cases hrest
  · obtain ⟨hok, -⟩ | ⟨mishap, hfault, hafter⟩ := fill_cases hfill
    · cases hok
    · obtain ⟨honly, hfind⟩ := hfilled hafter
      cases hfault
      exact ⟨_, honly, hfind, .inr ⟨mishap, rfl, rfl⟩⟩
  · obtain ⟨-, hafter⟩ | ⟨mishap, hfault, -⟩ := fill_cases hfill
    · obtain ⟨honly, hfind⟩ := hfilled ((eq_of_runIn_call hsync).trans hafter)
      exact ⟨_, honly, hfind, .inl rfl⟩
    · cases hfault

/-- So does writing where the directory is made, but for directories. -/
theorem write_cases {result : Except FileFault Unit}
    (h : runIn (write p text disk) fs = (result, fs')) :
    ((∃ e, result = .error e) ∧ fs.OnlyAt [] fs')
      ∨ ∃ node, fs.OnlyAt [p.destination fs.working] fs' ∧ fs'.find p = .ok node
        ∧ node.IsWritten text (result = .error ·) := by
  have hmade := confined_makeParent fs.working disk p
  obtain ⟨e, hmake, rfl⟩ | ⟨_, made, hmake, hcreate⟩ := runIn_bind_cases h
  · exact .inl ⟨⟨e, rfl⟩, hmade.error rfl hmake⟩
  · have honly := hmade.ok rfl hmake
    obtain ⟨herror, rfl⟩ | ⟨node, hwritten, hfind, hnode⟩ := create_cases hcreate
    · exact .inl ⟨herror, honly⟩
    · rw [honly.working] at hwritten
      exact .inr ⟨node, honly.trans hwritten, hfind, hnode⟩

theorem confined_create (working : Place) (disk : Disk) (p : Path) (text : String) :
    Confined working [p.destination working] [p.destination working] (create p text disk) :=
  confined_of_onlyAt fun {fs _ _} hfs hrun => by
    subst hfs
    obtain ⟨-, rfl⟩ | ⟨node, honly, -⟩ := create_cases hrun
    · exact .refl _ _
    · exact honly

theorem confined_write (working : Place) (disk : Disk) (p : Path) (text : String) :
    Confined working [p.destination working] [p.destination working] (write p text disk) :=
  (confined_makeParent working disk p).bind fun _ => confined_create working disk p text

/-- What was written is read again. -/
theorem read_of_write (h : runIn (write p text disk) fs = (.ok (), fs')) :
    fs'.read p = .ok text := by
  obtain ⟨⟨_, hfault⟩, -⟩ | ⟨node, -, hfind, rfl | ⟨_, hfault, -⟩⟩ := write_cases h
  · cases hfault
  · exact read_eq_ok_iff.2 hfind
  · cases hfault

/-! ### Moving -/

theorem confined_move (working : Place) (disk : Disk) (source target : Path) :
    Confined working [source.destination working, target.destination working] []
      (move source target disk) where
  ok {fs _ fs'} hfs hrun := by
    obtain ⟨⟨_, hfault⟩, -⟩ | ⟨node, old, new, -, hfind, hfile, hold, hnew, -, -, hfree, rfl⟩ :=
      move_cases hrun
    · cases hfault
    have hthere := file?_of_find hfind hfile
    rw [← eq_destination_of_locate hold, file?_eq_some_iff] at hthere
    rw [← hfs, ← eq_destination_of_locate hold, ← eq_destination_of_locate hnew]
    exact (onlyAt_remove (by simp [hthere])).trans
      (onlyAt_put (fun hdirectory => hfree (node?_of_node?_remove hdirectory)) node)
  error {fs e fs'} _ hrun := by
    obtain ⟨-, rfl⟩ | ⟨_, _, _, hok, -⟩ := move_cases hrun
    · exact .refl _ _
    · cases hok

theorem confined_replace (working : Place) (disk : Disk) (p : Path) (text : String) :
    Confined working [p.draft.destination working, p.destination working]
      [p.draft.destination working] (replace p text disk) :=
  ((confined_write working disk p.draft text).bind fun _ =>
    confined_move working disk p.draft p).mono (by simp) (by simp)

/-- What was moved is found at its new place, and there is nothing at its old one. -/
theorem find_of_move (h : runIn (move source target disk) fs = (.ok (), fs'))
    (hne : Place.text (source.destination fs.working)
      ≠ Place.text (target.destination fs.working)) :
    (∃ name, target.EndsIn name) ∧ fs'.find target = fs.find source
      ∧ fs'.file? (source.destination fs.working) = none := by
  have honly := (confined_move fs.working disk source target).ok rfl h
  obtain ⟨⟨_, hfault⟩, -⟩ | ⟨node, old, new, -, hfind, hfile, hold, hnew, hdots, hslash, hfree,
    rfl⟩ := move_cases h
  · cases hfault
  obtain ⟨name, hname⟩ := Path.exists_endsIn hdots hslash
  obtain ⟨front, rfl⟩ := exists_of_locate hname hnew
  refine ⟨⟨name, hname⟩, ?_, ?_⟩
  · rw [hfind, find_eq_ok_iff]
    exact ⟨_, honly.locate hnew, node?_put_self (by simp) _, by simp [hslash]⟩
  · rw [← eq_destination_of_locate hold, ← eq_destination_of_locate hnew] at hne
    rw [← eq_destination_of_locate hold, FileSystem.file?, node?_put_of_ne (Ne.symm hne),
      ← FileSystem.file?, file?_remove_self]

/-- What was written is read when it has taken the place of the file, and no draft is left. -/
theorem read_of_replace (h : runIn (replace p text disk) fs = (.ok (), fs')) :
    (∃ name, p.EndsIn name) ∧ fs'.read p = .ok text
      ∧ fs'.file? (p.draft.destination fs.working) = none := by
  obtain ⟨_, between, hwrite, hmove⟩ := runIn_bind_eq_ok_iff.1 h
  have hworking := ((confined_write fs.working disk p.draft text).ok rfl hwrite).working
  have hdraft := read_of_write hwrite
  obtain ⟨hname, hfind, hgone⟩ := find_of_move hmove (p.text_draft_ne between.working)
  rw [hworking] at hgone
  rw [read_eq_ok_iff, ← hfind, ← read_eq_ok_iff] at hdraft
  exact ⟨hname, hdraft, hgone⟩

end Filing

end NoteForms
