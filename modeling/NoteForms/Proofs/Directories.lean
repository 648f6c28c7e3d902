import NoteForms.Proofs.Destinations

/-!
# What a directory holds

Places are kept as text, and a name stands in a directory if the text of its place is cut into the
names of the directory and that name.  What is found behind a directory is among the names of the
directory (`FileSystem.exists_list_of_isThere`).
-/

namespace NoteForms

/-! ## Places and their texts -/

namespace Place

/-- Each name of the place has characters, and no slash among them. -/
def IsNamed (place : Place) : Prop := ∀ name ∈ place, '/' ∉ name.toList ∧ name.toList ≠ []

theorem toList_text : ∀ place : Place,
    (text place).toList = Text.joinChars ['/'] (place.map String.toList)
  | [] => rfl
  | [name] => by simp [text, Text.joinChars]
  | name :: second :: place => by
    have ih := toList_text (second :: place)
    rw [text, String.intercalate_cons_cons, String.toList_append, String.toList_append, ← text, ih]
    simp [Text.joinChars]

theorem names_text {place : Place} (h : place.IsNamed) : (Path.mk place.text).names = place := by
  by_cases hplace : place = []
  · subst hplace
    rfl
  · have hpieces : (Path.mk place.text).pieces = place.map String.toList := by
      rw [Path.pieces, Path.chars, toList_text, Text.splitChars_joinChars (by simpa using hplace)]
      simpa using fun name hname => (h name hname).1
    have hkept : ∀ piece ∈ place.map String.toList, (!piece.isEmpty) = true := by
      simpa using fun name hname => (h name hname).2
    rw [Path.names, hpieces, List.filter_eq_self.2 hkept, List.map_map]
    simp [Function.comp_def]

theorem IsNamed.append {place others : Place} (h : place.IsNamed) (hothers : others.IsNamed) :
    IsNamed (place ++ others) := List.forall_mem_append.2 ⟨h, hothers⟩

theorem IsNamed.step {place : Place} {name : String} (h : place.IsNamed)
    (hname : '/' ∉ name.toList ∧ name.toList ≠ []) : IsNamed (step place name) := by
  unfold Place.step
  split
  · exact h
  · split
    · exact fun other hother => h other (List.mem_of_mem_dropLast hother)
    · exact h.append (by simpa [IsNamed] using hname)

theorem IsNamed.foldl_step {names : List String} (hnames : IsNamed names) {place : Place}
    (h : place.IsNamed) : IsNamed (names.foldl Place.step place) := by
  induction names generalizing place with
  | nil => exact h
  | cons name names ih =>
    obtain ⟨hname, hrest⟩ := List.forall_mem_cons.1 hnames
    exact ih hrest (h.step hname)

end Place

namespace Path

theorem isNamed_names (p : Path) : Place.IsNamed p.names := by
  intro name hname
  obtain ⟨piece, hpiece, rfl⟩ := List.mem_map.1 hname
  obtain ⟨hmem, hne⟩ := List.mem_filter.1 hpiece
  rw [String.toList_ofList]
  exact ⟨Text.notMem_of_mem_splitChars hmem, by simpa using hne⟩

theorem isNamed_destination (p : Path) {working : Place} (h : working.IsNamed) :
    Place.IsNamed (p.destination working) := by
  refine p.isNamed_names.foldl_step ?_
  split
  · simp [Place.IsNamed]
  · exact h

end Path

/-! ## Directories -/

namespace FileSystem

variable {fs : FileSystem} {p : Path} {name : String}

theorem nameIn?_text {place : Place} (h : Place.IsNamed (place ++ [name])) :
    nameIn? place (Place.text (place ++ [name])) = some name := by
  rw [nameIn?, Place.names_text h]
  simp

/-- What is found behind a path is found in a directory at its end. -/
theorem exists_locate_of_find {node : Node} (hp : p.text ≠ "") (hname : Path.IsOwnName name)
    (h : fs.find (p.join name) = .ok node) : ∃ place, fs.locate p = .ok place
      ∧ fs.node? place = some .directory ∧ fs.node? (place ++ [name]) = some node := by
  obtain ⟨target, htarget, hnode, -⟩ := find_eq_ok_iff.1 h
  have horigin : fs.origin (p.join name) = fs.origin p := by
    rw [origin, origin, Path.isAbsolute_join p hname]
  obtain ⟨-, hfold⟩ := locate_eq_ok_iff.1 htarget
  rw [p.names_join hname, List.foldlM_append, horigin, bind_eq_ok_iff] at hfold
  obtain ⟨place, hplace, hlast⟩ := hfold
  rw [List.foldlM_cons, bind_eq_ok_iff] at hlast
  obtain ⟨next, henter, hnext⟩ := hlast
  cases hnext
  rw [eq_step_of_enter henter, Place.step_of_isOwnName place hname] at hnode
  exact ⟨place, locate_eq_ok_iff.2 ⟨by simpa using hp, hplace⟩, node?_of_enter henter, hnode⟩

theorem isDirectory_of_locate {place : Place} (hplace : fs.locate p = .ok place)
    (hnode : fs.node? place = some .directory) : fs.isDirectory p = true := by
  rw [isDirectory, find_eq_ok_iff.2 ⟨place, hplace, hnode, fun _ => rfl⟩]

/-- A directory has what is found behind it among its names. -/
theorem exists_list_of_isThere (hworking : fs.working.IsNamed) (hp : p.text ≠ "")
    (hname : Path.IsOwnName name) (h : fs.isThere (p.join name) = true) :
    fs.isDirectory p = true ∧ ∃ names, fs.list p = .ok names ∧ name ∈ names := by
  obtain ⟨node, hfind⟩ := isThere_iff.1 h
  obtain ⟨place, hplace, hdirectory, hnode⟩ := exists_locate_of_find hp hname hfind
  refine ⟨isDirectory_of_locate hplace hdirectory, _, by rw [list, hplace]; rfl, ?_⟩
  have hnamed : Place.IsNamed (place ++ [name]) := by
    rw [eq_destination_of_locate hplace]
    exact (p.isNamed_destination hworking).append
      (List.forall_mem_singleton.2 ⟨hname.slash, hname.named⟩)
  rw [node?_eq (by simp)] at hnode
  exact List.mem_filterMap.2
    ⟨_, List.mem_map.2 ⟨_, mem_of_lookup hnode, rfl⟩, nameIn?_text hnamed⟩

theorem exists_list_of_isDirectory (h : fs.isDirectory p = true) :
    ∃ names, fs.list p = .ok names := by
  unfold isDirectory find at h
  unfold list
  cases hplace : fs.locate p with
  | error e =>
    rw [hplace] at h
    cases h
  | ok place => exact ⟨_, rfl⟩

/-- All that there is has a place. -/
def IsPlaced (fs : FileSystem) : Prop := ∀ key ∈ fs.nodes.keys, ∃ place : Place,
  place.IsNamed ∧ key = place.text

theorem eq_of_nameIn? (hplaced : fs.IsPlaced) {place : Place} {key key' : String}
    (hkey : key ∈ fs.nodes.keys) (hkey' : key' ∈ fs.nodes.keys)
    (h : nameIn? place key = some name) (h' : nameIn? place key' = some name) : key = key' := by
  have hplace {key : String} (hkey : key ∈ fs.nodes.keys) (h : nameIn? place key = some name) :
      key = Place.text (place ++ [name]) := by
    obtain ⟨there, hnamed, rfl⟩ := hplaced key hkey
    simp only [nameIn?, Place.names_text hnamed] at h
    split at h
    · cases h
    · split at h
      · rename_i hfront
        rw [← hfront, List.dropLast_append_getLast? name h]
      · cases h
  rw [hplace hkey h, hplace hkey' h']

/-- A directory has no name twice. -/
theorem nodup_list (hplaced : fs.IsPlaced) {names : List String} (h : fs.list p = .ok names) :
    names.Nodup := by
  obtain ⟨place, -, hnames⟩ := bind_eq_ok_iff.1 h
  cases hnames
  have hkeys : fs.nodes.keys.Nodup := fs.nodes.sorted.nodup
  refine List.pairwise_filterMap.2 (hkeys.imp_of_mem ?_)
  rintro key key' hkey hkey' hne name hname other hother rfl
  exact hne (eq_of_nameIn? hplaced hkey hkey' hname hother)

end FileSystem

end NoteForms
