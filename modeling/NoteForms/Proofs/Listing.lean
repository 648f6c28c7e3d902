import NoteForms.Proofs.Directories
import NoteForms.Proofs.NewestFirst

/-!
# Listing backups

A backup stays among the names of its directory whatever is done to the settings afterwards
(`SettingsFile.Holds.foldl_apply`), and its name tells its minute, so backups are listed in the
order in which they were taken, the last one first (`SettingsFile.listBackups_newest_first`).
-/

namespace NoteForms

namespace SettingsFile

variable {s : SettingsFile} {fs fs' between : FileSystem} {stamp earlier later : Stamp}
  {note note' name name' : String} {disk disk' : Disk}

/-! ## Backups that are there -/

theorem working_apply (s : SettingsFile) (fs : FileSystem) (op : Operation) :
    (op.apply s fs).working = fs.working := by
  cases op with
  | backUp stamp note disk => exact (confined_backUp fs.working s disk stamp note).working_eq rfl
  | save settings disk => exact (confined_save fs.working s disk settings).working_eq rfl
  | restore name disk => exact (confined_restore fs.working s disk name).working_eq rfl
  | load disk => exact (confined_load fs.working s disk).working_eq rfl
  | rewrite text => exact (Filing.confined_create fs.working .sound s.path text).working_eq rfl

/-- There is a backup of the name, and the working directory has a place. -/
structure Holds (s : SettingsFile) (name : String) (fs : FileSystem) : Prop where
  working : fs.working.IsNamed
  there : fs.isThere (s.backups.join name) = true

/-- Another backup of the same name takes the place of the first, or leaves it there. -/
theorem isThere_of_backUp (h : fs.isThere (s.backups.join (backupName stamp note)) = true) :
    (Operation.apply s fs (.backUp stamp note disk)).isThere
      (s.backups.join (backupName stamp note)) = true := by
  rw [Operation.apply]
  rcases hrun : runIn (s.backUp stamp note disk) fs with ⟨result, fs'⟩
  obtain ⟨-, honly⟩ | ⟨_, node, -, -, hfind, -⟩ := backUp_cases hrun
  · exact honly.isThere (by simp) h
  · exact FileSystem.isThere_iff.2 ⟨node, hfind⟩

theorem Holds.apply (hs : s.IsApart) (h : s.Holds (backupName stamp note) fs) (op : Operation) :
    s.Holds (backupName stamp note) (op.apply s fs) := by
  refine ⟨working_apply s fs op ▸ h.working, ?_⟩
  -- A backup of the same name is the one thing that writes the file, and it leaves one there.
  by_cases hother : ∀ later note' disk, op = .backUp later note' disk →
      backupName later note' ≠ backupName stamp note
  · obtain ⟨own, hp, hne⟩ := hs
    have hspares := spares_apply (slash_notMem_backupName stamp note)
      (getLast?_backupName stamp note) hp (hne stamp note) fs hother
    obtain ⟨node, hfind⟩ := FileSystem.isThere_iff.1 h.there
    exact FileSystem.isThere_iff.2
      ⟨node, hspares.find (Path.endsIn_join _ (isOwnName_backupName stamp note)) hfind⟩
  · push Not at hother
    obtain ⟨later, note', disk, rfl, hsame⟩ := hother
    rw [← hsame]
    exact isThere_of_backUp (by rw [hsame]; exact h.there)

/-- Nothing that is done to the settings removes a backup. -/
theorem Holds.foldl_apply (hs : s.IsApart) : ∀ (ops : List Operation) {fs : FileSystem},
    s.Holds (backupName stamp note) fs →
      s.Holds (backupName stamp note) (ops.foldl (Operation.apply s) fs)
  | [], _, h => h
  | op :: ops, _, h => Holds.foldl_apply hs ops (h.apply hs op)

theorem holds_of_backUp (hworking : fs.working.IsNamed)
    (h : runIn (s.backUp stamp note disk) fs = (.ok name, fs')) :
    name = backupName stamp note ∧ s.Holds (backupName stamp note) fs' := by
  obtain ⟨rfl, text, -, hread⟩ := read_of_backUp h
  have honly := (confined_backUp fs.working s disk stamp note).ok rfl h
  exact ⟨rfl, honly.working ▸ hworking,
    FileSystem.isThere_iff.2 ⟨_, FileSystem.read_eq_ok_iff.1 hread⟩⟩

/-! ## Listings -/

theorem runIn_listBackups (hthere : fs.isDirectory s.backups = true) {names : List String}
    (hnames : fs.list s.backups = .ok names) :
    runIn s.listBackups fs = (.ok (newestFirst names), fs) := by
  have hlook : runIn (Keeping.look fun fs => fs.list s.backups) fs = (.ok names, fs) := by
    rw [Keeping.look, Keeping.runIn_ofFiling, runIn_look, hnames]
  unfold listBackups
  rw [runIn_get_bind]
  simp only [hthere, if_true, runIn_bind, hlook]
  rfl

theorem exists_newestFirst_of_mem {names : List String} (hearlier : earlier.Writable)
    (hlater : later.Writable) (h : earlier.IsBefore later) (hmem : backupName earlier note ∈ names)
    (hmem' : backupName later note' ∈ names) : ∃ newer between older, newestFirst names
      = newer ++ backupName later note' :: between ++ backupName earlier note :: older :=
  exists_newestFirst_eq (mem_newestFirst.2 ⟨hmem, _, rfl⟩) (mem_newestFirst.2 ⟨hmem', _, rfl⟩)
    (stampOf?_backupName hearlier note) (stampOf?_backupName hlater note') h

/-- Of two backups of different minutes the later one is listed first, whatever is done to the
settings in between and afterwards. -/
theorem exists_listBackups_of_backUp (hs : s.IsApart) (hbackups : s.backups.text ≠ "")
    (hworking : fs.working.IsNamed) (hearlier : earlier.Writable) (hlater : later.Writable)
    (h : earlier.IsBefore later) (meanwhile afterwards : List Operation)
    (htaken : runIn (s.backUp earlier note disk) fs = (.ok name, between))
    (htaken' : runIn (s.backUp later note' disk') (meanwhile.foldl (Operation.apply s) between)
      = (.ok name', fs')) :
    let files := afterwards.foldl (Operation.apply s) fs'
    ∃ newer middle older, runIn s.listBackups files
      = (.ok (newer ++ name' :: middle ++ name :: older), files) := by
  intro files
  obtain ⟨rfl, hheld⟩ := holds_of_backUp hworking htaken
  have hmeanwhile := hheld.foldl_apply hs meanwhile
  obtain ⟨rfl, hheld'⟩ := holds_of_backUp hmeanwhile.working htaken'
  have hkept : s.Holds (backupName earlier note) fs' := by
    have hsecond := hmeanwhile.apply hs (.backUp later note' disk')
    rwa [Operation.apply, htaken'] at hsecond
  obtain ⟨hfiles, hfirst⟩ := hkept.foldl_apply hs afterwards
  obtain ⟨-, hsecond⟩ := hheld'.foldl_apply hs afterwards
  obtain ⟨hthere, names, hnames, hmem⟩ := FileSystem.exists_list_of_isThere hfiles hbackups
    (isOwnName_backupName earlier note) hfirst
  obtain ⟨-, _, hnames', hmem'⟩ := FileSystem.exists_list_of_isThere hfiles hbackups
    (isOwnName_backupName later note') hsecond
  cases hnames.symm.trans hnames'
  obtain ⟨newer, middle, older, hsplit⟩ := exists_newestFirst_of_mem hearlier hlater h hmem hmem'
  exact ⟨newer, middle, older, by rw [runIn_listBackups hthere hnames, hsplit]⟩

theorem writable_ofSeconds {seconds : ℕ} (h : (Stamp.ofSeconds seconds).year < 10000) :
    (Stamp.ofSeconds seconds).Writable :=
  ⟨Stamp.isValid_ofSeconds seconds, Stamp.year_ofSeconds_nonneg seconds, h⟩

/-- Backups are listed by what their names tell, the newest first.  A listing has the names in the
directory of backups that end like those of backups, once each and in whatever order they are found:
those with a stamp come first, and a later stamp comes before an earlier one.  The name of a backup
tells the minute of its stamp, in years of four digits.  So backups of different minutes are listed
in reverse order, and so are those that are taken in different minutes of a clock, whatever is done
in between and afterwards. -/
theorem listBackups_newest_first :
    (∀ (s : SettingsFile) (fs : FileSystem), fs.isDirectory s.backups = true →
      ∃ names, fs.list s.backups = .ok names ∧ (fs.IsPlaced → names.Nodup)
        ∧ runIn s.listBackups fs = (.ok (newestFirst names), fs))
    ∧ (∀ names : List String, names.Nodup →
      (newestFirst names).Nodup
        ∧ (∀ name, name ∈ newestFirst names ↔ name ∈ names ∧ ∃ stem, name = stem ++ ".json")
        ∧ (newestFirst names).Pairwise Precedes
        ∧ ∀ order : List String, order.Perm names → newestFirst order = newestFirst names)
    ∧ (∀ (stamp : Stamp) (note : String), stamp.Writable →
      stampOf? (backupName stamp note) = some stamp)
    ∧ (∀ (earlier later : Stamp) (note note' : String) (names : List String),
      earlier.Writable → later.Writable → earlier.IsBefore later →
      backupName earlier note ∈ names → backupName later note' ∈ names →
      ∃ newer between older, newestFirst names
        = newer ++ backupName later note' :: between ++ backupName earlier note :: older)
    ∧ (∀ (seconds : ℕ) (note : String), (Stamp.ofSeconds seconds).year < 10000 →
      stampOf? (backupName (.ofSeconds seconds) note) = some (.ofSeconds (seconds / 60 * 60)))
    ∧ ∀ (s : SettingsFile) (fs between fs' : FileSystem) (first second : ℕ)
        (note note' name name' : String) (disk disk' : Disk)
        (meanwhile afterwards : List Operation),
      s.IsApart → s.backups.text ≠ "" → fs.working.IsNamed →
      first / 60 < second / 60 → (Stamp.ofSeconds second).year < 10000 →
      runIn (s.backUp (.ofSeconds first) note disk) fs = (.ok name, between) →
      runIn (s.backUp (.ofSeconds second) note' disk')
          (meanwhile.foldl (Operation.apply s) between)
        = (.ok name', fs') →
      let files := afterwards.foldl (Operation.apply s) fs'
      ∃ newer middle older, runIn s.listBackups files
        = (.ok (newer ++ name' :: middle ++ name :: older), files) := by
  refine ⟨fun s fs hthere => ?_, fun names hnames => ?_, fun stamp note h => ?_, ?_, ?_, ?_⟩
  · obtain ⟨names, hnames⟩ := FileSystem.exists_list_of_isDirectory hthere
    exact ⟨names, hnames, fun hplaced => FileSystem.nodup_list hplaced hnames,
      runIn_listBackups hthere hnames⟩
  · exact ⟨nodup_newestFirst hnames, fun _ => mem_newestFirst, pairwise_newestFirst hnames,
      fun _ => newestFirst_perm⟩
  · exact stampOf?_backupName h note
  · intro earlier later note note' names hearlier hlater h hmem hmem'
    exact exists_newestFirst_of_mem hearlier hlater h hmem hmem'
  · intro seconds note hyear
    rw [Stamp.ofSeconds_minute]
    exact stampOf?_backupName (writable_ofSeconds hyear) note
  · intro s fs between fs' first second note note' name name' disk disk' meanwhile afterwards hs
      hbackups hworking hminute hyear htaken htaken'
    have hbefore := Stamp.isBefore_ofSeconds hminute
    have hyear' := (Stamp.year_le_of_isBefore hbefore).trans_lt hyear
    exact exists_listBackups_of_backUp hs hbackups hworking (writable_ofSeconds hyear')
      (writable_ofSeconds hyear) hbefore meanwhile afterwards htaken htaken'

/-- Two backups with one note, the settings being written in the minute between them, and the names
of a directory that holds something else besides. -/
theorem listBackups_newest_first_a_minute_later :
    let s := within ⟨""⟩
    let fs : FileSystem := ⟨.ofList [("backups", .directory), ("settings.json", .file "[1]")], []⟩
    let earlier := "settings_20240102_0304_save.json"
    let later := "settings_20240102_0305_save.json"
    let names := ["settings_late.json", earlier, "readme.txt", later]
    let taken := runIn (s.backUp (.ofSeconds 1704164659) "save") fs
    let taken' := runIn (s.backUp (.ofSeconds 1704164700) "Save!")
      (Operation.apply s taken.2 (.rewrite "[]"))
    (∃ found, fs.list s.backups = .ok found ∧ found.Nodup
        ∧ runIn s.listBackups fs = (.ok (newestFirst found), fs))
      ∧ (newestFirst names).Nodup ∧ (newestFirst names).Pairwise Precedes
      ∧ newestFirst names.reverse = newestFirst names
      ∧ stampOf? later = some ⟨2024, 1, 2, 3, 5⟩
      ∧ (∃ newer between older, newestFirst names = newer ++ later :: between ++ earlier :: older)
      ∧ stampOf? earlier = some (.ofSeconds 1704164640)
      ∧ ∃ newer middle older, runIn s.listBackups taken'.2
        = (.ok (newer ++ later :: middle ++ earlier :: older), taken'.2) := by
  intro s fs earlier later names taken taken'
  obtain ⟨hlist, hnames, hstamp, hsplit, hsecond, htaken⟩ := listBackups_newest_first
  have hearlier : earlier = backupName ⟨2024, 1, 2, 3, 4⟩ "save" := by decide +kernel
  have hlater : later = backupName ⟨2024, 1, 2, 3, 5⟩ "Save!" := by decide +kernel
  have hwritable (minute : ℕ) (h : minute < 60) : Stamp.Writable ⟨2024, 1, 2, 3, minute⟩ :=
    ⟨by simpa [Stamp.isValid, Stamp.daysOf] using h, by simp, by simp⟩
  have hfirst : taken.1.toOption = some earlier := by decide +kernel
  have hagain : taken'.1.toOption = some later := by decide +kernel
  have hnodup : names.Nodup := by decide +kernel
  obtain ⟨hunique, -, hsorted, horder⟩ := hnames names hnodup
  have hkeys : fs.nodes.keys = ["backups", "settings.json"] := by decide +kernel
  have hplaced : fs.IsPlaced := by
    simp only [FileSystem.IsPlaced, hkeys, List.forall_mem_cons]
    exact ⟨⟨["backups"], by simp [Place.IsNamed], rfl⟩,
      ⟨["settings.json"], by simp [Place.IsNamed], rfl⟩, by simp⟩
  obtain ⟨found, hfound, hfoundNodup, hrun⟩ := hlist s fs (by decide +kernel)
  refine ⟨⟨found, hfound, hfoundNodup hplaced, hrun⟩, hunique, hsorted,
    horder _ names.reverse_perm, ?_, ?_, ?_, ?_⟩
  · rw [hlater]
    exact hstamp _ "Save!" (hwritable 5 (by decide))
  · have hmem : earlier ∈ names := by simp [names]
    have hmem' : later ∈ names := by simp [names]
    rw [hearlier] at hmem ⊢
    rw [hlater] at hmem' ⊢
    exact hsplit _ _ _ _ names (hwritable 4 (by decide)) (hwritable 5 (by decide))
      (by simp [Stamp.isBefore_iff]) hmem hmem'
  · have hname : earlier = backupName (.ofSeconds 1704164659) "save" := by decide +kernel
    rw [hname]
    exact hsecond 1704164659 "save" (by decide +kernel)
  · exact htaken s fs taken.2 taken'.2 1704164659 1704164700 "save" "Save!" earlier later
      .sound .sound [.rewrite "[]"] [] (isApart_within _) (by decide +kernel)
      (by simp [Place.IsNamed, fs])
      (by decide) (by decide +kernel) (Prod.ext (eq_ok_of_toOption hfirst) rfl)
      (Prod.ext (eq_ok_of_toOption hagain) rfl)

end SettingsFile

end NoteForms
