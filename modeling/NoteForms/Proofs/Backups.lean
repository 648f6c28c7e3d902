import NoteForms.Proofs.Footprints
import NoteForms.Storage.SettingsFile

/-!
# What becomes of backups

A backup holds the settings as they were when it was taken, and nothing that is done to the settings
later touches it, but for one thing: another backup of the same name takes its place
(`SettingsFile.backUp_stays`).  A name says no more than the minute and the words of the note, so
that does happen (`SettingsFile.backUp_overwritten`).
-/

namespace NoteForms

variable {α : Type}

/-! ## Names of backups -/

theorem notMem_intercalate {c : Char} {sep : String} (hsep : c ∉ sep.toList) :
    ∀ {ss : List String}, (∀ s ∈ ss, c ∉ s.toList) → c ∉ (String.intercalate sep ss).toList
  | [], _ => by simp
  | [s], h => by
    rw [String.intercalate_singleton]
    exact h s List.mem_cons_self
  | s :: t :: ss, h => by
    obtain ⟨hs, hrest⟩ := List.forall_mem_cons.1 h
    rw [String.intercalate_cons_cons, String.toList_append, String.toList_append, List.mem_append,
      List.mem_append, not_or, not_or]
    exact ⟨⟨hs, hsep⟩, notMem_intercalate hsep hrest⟩

theorem Text.isAlphanum_of_mem_wordsFrom : ∀ {cs run : List Char},
    (∀ c ∈ run, c.isAlphanum = true) → ∀ word ∈ wordsFrom run cs, ∀ c ∈ word, c.isAlphanum = true
  | [], run, hrun, word, hword => by
    unfold wordsFrom at hword
    split at hword
    · cases hword
    · rw [List.mem_singleton.1 hword]
      exact hrun
  | c :: cs, run, hrun, word, hword => by
    unfold wordsFrom at hword
    split at hword
    · rename_i hc
      refine isAlphanum_of_mem_wordsFrom (fun d hd => ?_) word hword
      rcases List.mem_append.1 hd with hd | hd
      · exact hrun d hd
      · rw [List.mem_singleton.1 hd]
        exact hc
    · split at hword
      · exact isAlphanum_of_mem_wordsFrom (by simp) word hword
      · rcases List.mem_cons.1 hword with rfl | hword
        · exact hrun
        · exact isAlphanum_of_mem_wordsFrom (by simp) word hword

theorem toLower_ne_slash {c : Char} (h : c.isAlphanum = true) : c.toLower ≠ '/' := by
  unfold Char.toLower
  split
  · rename_i hupper
    intro hslash
    have hval := congrArg (fun d : Char => d.val.toNat) hslash
    simp only [ge_iff_le, UInt32.le_iff_toNat_le] at hupper
    simp [UInt32.toNat_add] at hval hupper
    omega
  · rintro rfl
    cases h

theorem slash_notMem_noteSuffix (note : String) : '/' ∉ (noteSuffix note).toList := by
  have hwords : ∀ s ∈ (Text.words note).map Text.lowerAscii, '/' ∉ s.toList := by
    intro s hs hslash
    obtain ⟨_, hmem, rfl⟩ := List.mem_map.1 hs
    obtain ⟨word, hword, rfl⟩ := List.mem_map.1 hmem
    simp only [Text.lowerAscii, String.toList_ofList, List.mem_map] at hslash
    obtain ⟨c, hc, hslash⟩ := hslash
    exact toLower_ne_slash (Text.isAlphanum_of_mem_wordsFrom (by simp) word hword c hc) hslash
  unfold noteSuffix
  split
  · simp
  · rw [String.toList_append, List.mem_append, not_or]
    exact ⟨by decide, notMem_intercalate (by decide) hwords⟩

theorem slash_notMem_padded (width n : Nat) : '/' ∉ Stamp.padded width n := by
  unfold Stamp.padded
  rw [List.mem_append, not_or]
  refine ⟨fun h => ?_, fun h => ?_⟩
  · cases List.eq_of_mem_replicate h
  · have hdigit := Nat.isDigit_of_mem_toDigits (by decide) (by decide) h
    cases hdigit

theorem slash_notMem_backupName (stamp : Stamp) (note : String) :
    '/' ∉ (backupName stamp note).toList := by
  simp [backupName, backupStart, backupEnd, Stamp.text, slash_notMem_padded,
    slash_notMem_noteSuffix]

theorem getLast?_backupName (stamp : Stamp) (note : String) :
    (backupName stamp note).toList.getLast? = some 'n' := by
  rw [backupName, String.toList_append, List.getLast?_append]
  rfl

theorem isOwnName_backupName (stamp : Stamp) (note : String) :
    Path.IsOwnName (backupName stamp note) :=
  Path.isOwnName_of_getLast? (slash_notMem_backupName stamp note)
    (getLast?_backupName stamp note) (by decide)

/-! ## What is done to settings -/

namespace Keeping

variable {fs fs' : FileSystem}

theorem runIn_ofFiling (steps : Filing α) :
    runIn (ofFiling steps) fs = match runIn steps fs with
      | (.ok a, fs) => (.ok a, fs)
      | (.error fault, fs) => (.error (.files fault), fs) := rfl

theorem ofFiling_cases {steps : Filing α} {result : Except SettingsFault α}
    (h : runIn (ofFiling steps) fs = (result, fs')) :
    (∃ fault, result = .error (.files fault) ∧ runIn steps fs = (.error fault, fs'))
      ∨ ∃ a, result = .ok a ∧ runIn steps fs = (.ok a, fs') := by
  rw [runIn_ofFiling] at h
  rcases hsteps : runIn steps fs with ⟨fault | a, after⟩
  all_goals rw [hsteps] at h
  · cases h
    exact .inl ⟨fault, rfl, rfl⟩
  · cases h
    exact .inr ⟨a, rfl, rfl⟩

theorem confined_ofFiling {working : Place} {done failed : List Place} {steps : Filing α}
    (h : Confined working done failed steps) : Confined working done failed (ofFiling steps) where
  ok hfs hrun := by
    obtain ⟨_, hfault, -⟩ | ⟨a, -, hsteps⟩ := ofFiling_cases hrun
    · cases hfault
    · exact h.ok hfs hsteps
  error hfs hrun := by
    obtain ⟨fault, -, hsteps⟩ | ⟨_, hok, -⟩ := ofFiling_cases hrun
    · exact h.error hfs hsteps
    · cases hok

end Keeping

namespace SettingsFile

/-- What is done to settings over time, each thing with the disk as it is then.  Other programs may
write the settings as well. -/
inductive Operation
  | backUp (stamp : Stamp) (note : String) (disk : Disk)
  | save (settings : Settings) (disk : Disk)
  | restore (name : String) (disk : Disk)
  | load (disk : Disk)
  | rewrite (text : String)

/-- The files after something is done to the settings, whether it fails or not. -/
def Operation.apply (s : SettingsFile) (fs : FileSystem) : Operation → FileSystem
  | .backUp stamp note disk => (runIn (s.backUp stamp note disk) fs).2
  | .save settings disk => (runIn (s.save settings disk) fs).2
  | .restore name disk => (runIn (s.restore name disk) fs).2
  | .load disk => (runIn (s.load disk) fs).2
  | .rewrite text => (runIn (Filing.create s.path text) fs).2

/-- The settings have a name that no backup has. -/
def IsApart (s : SettingsFile) : Prop :=
  ∃ own, s.path.EndsIn own ∧ ∀ stamp note, own ≠ backupName stamp note

/-! ### What operations change -/

section

variable {s : SettingsFile} {fs fs' : FileSystem} {disk : Disk} {stamp : Stamp} {note : String}

/-- A copy of the settings changes no file, or the one that it is written to. -/
theorem copyTo_cases {target : Path} {result : Except FileFault Unit}
    (hthere : fs.isThere s.path = true)
    (h : runIn (s.copyTo target disk) fs = (result, fs')) :
    ((∃ e, result = .error e) ∧ fs.OnlyAt [] fs')
      ∨ ∃ text node, fs.read s.path = .ok text
        ∧ fs.OnlyAt [target.destination fs.working] fs' ∧ fs'.find target = .ok node
        ∧ node.IsWritten text (result = .error ·) := by
  have hmade := Filing.confined_makeDirectories fs.working disk s.backups
  obtain ⟨e, hmake, rfl⟩ | ⟨_, made, hmake, hcopy⟩ := runIn_bind_cases h
  · exact .inl ⟨⟨e, rfl⟩, hmade.error rfl hmake⟩
  have honly := hmade.ok rfl hmake
  obtain ⟨e, hfetch, rfl⟩ | ⟨text, fetched, hfetch, hwrite⟩ := runIn_bind_cases hcopy
  · obtain ⟨-, rfl⟩ | ⟨_, hok, -⟩ := Filing.fetch_cases hfetch
    · exact .inl ⟨⟨e, rfl⟩, honly⟩
    · cases hok
  obtain ⟨⟨_, hfault⟩, -⟩ | ⟨_, hok, hread, rfl⟩ := Filing.fetch_cases hfetch
  · cases hfault
  cases hok
  obtain ⟨herror, hunchanged⟩ | ⟨node, hwritten, hfind, hnode⟩ := Filing.write_cases hwrite
  · exact .inl ⟨herror, honly.trans hunchanged⟩
  · rw [honly.working] at hwritten
    exact .inr ⟨text, node, honly.read_of_isThere (by simp) hthere hread, honly.trans hwritten,
      hfind, hnode⟩

theorem backUp_cases {result : Except SettingsFault String}
    (h : runIn (s.backUp stamp note disk) fs = (result, fs')) :
    let backup := s.backups.join (backupName stamp note)
    ((∃ e, result = .error e) ∧ fs.OnlyAt [] fs')
      ∨ ∃ text node, fs.read s.path = .ok text
        ∧ fs.OnlyAt [backup.destination fs.working] fs' ∧ fs'.find backup = .ok node
        ∧ node.IsWritten text (fun fault => result = .error (.files fault))
        ∧ ∀ name, result = .ok name → name = backupName stamp note := by
  intro backup
  unfold backUp at h
  rw [runIn_get_bind] at h
  split at h
  · cases h
    exact .inl ⟨⟨_, rfl⟩, .refl _ _⟩
  rename_i hthere
  have hthere : fs.isThere s.path = true := by simpa [isThere] using hthere
  obtain ⟨e, hkeep, rfl⟩ | ⟨_, _, hkeep, hname⟩ := runIn_bind_cases h
  · obtain ⟨fault, hfault, hcopy⟩ | ⟨_, hok, -⟩ := Keeping.ofFiling_cases hkeep
    · cases hfault
      obtain ⟨-, honly⟩ | ⟨text, node, hread, honly, hfind, hnode⟩ := copyTo_cases hthere hcopy
      · exact .inl ⟨⟨_, rfl⟩, honly⟩
      · refine .inr ⟨text, node, hread, honly, hfind, hnode.imp id ?_, nofun⟩
        rintro ⟨mishap, hmishap, hpart⟩
        cases hmishap
        exact ⟨mishap, rfl, hpart⟩
    · cases hok
  · cases hname
    obtain ⟨_, hfault, -⟩ | ⟨_, -, hcopy⟩ := Keeping.ofFiling_cases hkeep
    · cases hfault
    obtain ⟨⟨_, hfault⟩, -⟩ | ⟨text, node, hread, honly, hfind, hnode⟩ :=
      copyTo_cases hthere hcopy
    · cases hfault
    · refine .inr ⟨text, node, hread, honly, hfind, .inl ?_, fun _ hok => ?_⟩
      · obtain hall | ⟨_, hfault, -⟩ := hnode
        · exact hall
        · cases hfault
      · cases hok
        rfl

/-- Loading changes nothing. -/
theorem eq_of_runIn_load {result : Except SettingsFault LoadReport}
    (h : runIn (s.load disk) fs = (result, fs')) : fs' = fs := by
  unfold load at h
  rw [runIn_get_bind] at h
  split at h
  · have hfetch : ∀ {found : Except SettingsFault String} {after : FileSystem},
        runIn (Keeping.ofFiling (Filing.fetch s.path disk)) fs = (found, after) → after = fs := by
      intro found after hkeep
      obtain ⟨_, -, hfetch⟩ | ⟨_, -, hfetch⟩ := Keeping.ofFiling_cases hkeep
      all_goals
        obtain ⟨-, hsame⟩ | ⟨_, -, -, hsame⟩ := Filing.fetch_cases hfetch
        all_goals exact hsame
    obtain ⟨_, hkeep, -⟩ | ⟨_, after, hkeep, hreport⟩ := runIn_bind_cases h
    · exact hfetch hkeep
    · rw [runIn_liftExcept] at hreport
      cases hreport
      exact hfetch hkeep
  · cases h
    rfl

end

section

variable (working : Place) (s : SettingsFile) (disk : Disk)

theorem confined_backUp (stamp : Stamp) (note : String) :
    Confined working [(s.backups.join (backupName stamp note)).destination working]
      [(s.backups.join (backupName stamp note)).destination working]
      (s.backUp stamp note disk) :=
  confined_of_onlyAt fun hfs hrun => by
    subst hfs
    obtain ⟨-, honly⟩ | ⟨_, _, -, honly, -⟩ := backUp_cases hrun
    · exact honly.mono (by simp)
    · exact honly

theorem confined_save (settings : Settings) :
    Confined working [s.path.draft.destination working, s.path.destination working]
      [s.path.draft.destination working] (s.save settings disk) :=
  Keeping.confined_ofFiling ((Filing.confined_makeParent working disk s.path).bind fun _ =>
    Filing.confined_replace working disk s.path settings.toJson.indented)

theorem confined_load : Confined working [] [] (s.load disk) :=
  confined_of_unchanged fun _ => eq_of_runIn_load rfl

theorem confined_putInPlace (source : Path) :
    Confined working [s.path.draft.destination working, s.path.destination working]
      [s.path.draft.destination working] (s.putInPlace source disk) :=
  (Filing.confined_fetch working disk _).bind fun text =>
    Filing.confined_replace working disk s.path text

/-- A backup that is put in place stays there, whether it can be loaded or not. -/
theorem confined_restore (name : String) :
    Confined working [s.path.draft.destination working, s.path.destination working]
      [s.path.draft.destination working, s.path.destination working] (s.restore name disk) := by
  refine (confined_get working).bind fun fs => ?_
  split
  · exact confined_of_unchanged fun _ => rfl
  · exact ((Keeping.confined_ofFiling (confined_putInPlace working s disk _)).bind fun _ =>
      confined_load working s disk).mono (by simp) (by simp)

end

section

variable {s : SettingsFile} {name own : String} (hslash : '/' ∉ name.toList)
  (hlast : name.toList.getLast? = some 'n') (hp : s.path.EndsIn own) (hne : own ≠ name)

include hslash hlast hp hne

/-- Nothing touches a backup but another backup of its name. -/
theorem spares_apply (fs : FileSystem) {op : Operation}
    (hother : ∀ stamp note disk, op = .backUp stamp note disk → backupName stamp note ≠ name) :
    fs.Spares name (op.apply s fs) := by
  obtain ⟨draft, hdraft, hp'⟩ := s.path.exists_endsIn_draft
  have hdraft := hdraft.text_destination_ne hslash (by
    rintro rfl
    rw [hlast] at hp'
    cases hp') fs.working
  have hpath := hp.text_destination_ne hslash hne fs.working
  have hbackup := fun stamp note disk h =>
    (Path.endsIn_join s.backups (isOwnName_backupName stamp note)).text_destination_ne hslash
      (hother stamp note disk h) fs.working
  cases op with
  | backUp stamp note disk =>
    exact (confined_backUp fs.working s disk stamp note).spares rfl
      (by simp [hbackup stamp note disk rfl])
  | save settings disk =>
    exact (confined_save fs.working s disk settings).spares rfl (by simp [hdraft, hpath])
  | restore backup disk =>
    exact (confined_restore fs.working s disk backup).spares rfl (by simp [hdraft, hpath])
  | load disk => exact (confined_load fs.working s disk).spares rfl (by simp)
  | rewrite text =>
    exact (Filing.confined_create fs.working .sound s.path text).spares rfl (by simp [hpath])

theorem spares_foldl_apply : ∀ (ops : List Operation) (fs : FileSystem),
    (∀ op ∈ ops, ∀ stamp note disk, op = .backUp stamp note disk →
      backupName stamp note ≠ name) →
    fs.Spares name (ops.foldl (Operation.apply s) fs)
  | [], fs, _ => .refl name fs
  | op :: ops, fs, h => by
    obtain ⟨hop, hops⟩ := List.forall_mem_cons.1 h
    exact (spares_apply hslash hlast hp hne fs hop).trans (spares_foldl_apply ops _ hops)

end

/-- A backup holds the settings as they are. -/
theorem read_of_backUp {s : SettingsFile} {stamp : Stamp} {note name : String} {disk : Disk}
    {fs fs' : FileSystem} (h : runIn (s.backUp stamp note disk) fs = (.ok name, fs')) :
    name = backupName stamp note
      ∧ ∃ text, fs.read s.path = .ok text ∧ fs'.read (s.backups.join name) = .ok text := by
  obtain ⟨⟨_, hfault⟩, -⟩ | ⟨text, node, hread, -, hfind, hwritten, hname⟩ := backUp_cases h
  · cases hfault
  obtain rfl := hname name rfl
  obtain rfl | ⟨_, hfault, -⟩ := hwritten
  · exact ⟨rfl, text, hread, FileSystem.read_eq_ok_iff.2 hfind⟩
  · cases hfault

theorem isApart_within (directory : Path) : (within directory).IsApart := by
  have hown : Path.IsOwnName "settings.json" := ⟨by decide, by decide, by decide, by decide⟩
  refine ⟨"settings.json", Path.endsIn_join directory hown, fun stamp note h => ?_⟩
  have hchars := congrArg (fun name : String => name.toList.take 9) h
  simp [backupName, backupStart] at hchars

/-- A backup that was taken stays as it is, whatever is done to the settings and whatever the disk
does meanwhile, unless another backup of its name is taken. -/
theorem backUp_stays {s : SettingsFile} (hs : s.IsApart) {stamp : Stamp} {note name : String}
    {disk : Disk} {fs fs' : FileSystem}
    (h : runIn (s.backUp stamp note disk) fs = (.ok name, fs')) (later : List Operation)
    (hlater : ∀ op ∈ later, ∀ stamp note disk, op = .backUp stamp note disk →
      backupName stamp note ≠ name) :
    ∃ text, fs.read s.path = .ok text
      ∧ (later.foldl (Operation.apply s) fs').read (s.backups.join name) = .ok text := by
  obtain ⟨own, hp, hne⟩ := hs
  obtain ⟨rfl, text, hcurrent, htaken⟩ := read_of_backUp h
  refine ⟨text, hcurrent, ?_⟩
  have hspares := spares_foldl_apply (slash_notMem_backupName stamp note)
    (getLast?_backupName stamp note) hp (hne stamp note) later fs' hlater
  exact hspares.read (Path.endsIn_join s.backups (isOwnName_backupName stamp note)) htaken

/-- A backup stays when the settings are written and backed up again a minute later, with the same
note. -/
theorem backUp_stays_a_minute_later :
    let s := within ⟨"base"⟩
    let fs : FileSystem := ⟨.ofList [("base", .directory), ("base/settings.json", .file "[1]")], []⟩
    let taken := runIn (s.backUp ⟨2024, 1, 2, 3, 4⟩ "save") fs
    let later : List Operation :=
      [.rewrite "{}", .backUp ⟨2024, 1, 2, 3, 5⟩ "save" .sound, .load .sound]
    ∃ text, fs.read s.path = .ok text ∧ (later.foldl (Operation.apply s) taken.2).read
      (s.backups.join "settings_20240102_0304_save.json") = .ok text := by
  intro s fs taken later
  have hname : taken.1.toOption = some "settings_20240102_0304_save.json" := by decide +kernel
  have htaken : taken = (.ok "settings_20240102_0304_save.json", taken.2) :=
    Prod.ext (eq_ok_of_toOption hname) rfl
  refine backUp_stays (isApart_within _) htaken later fun op hop stamp note disk heq => ?_
  simp only [later, List.mem_cons, List.not_mem_nil, or_false] at hop
  rcases hop with rfl | rfl | rfl
  · cases heq
  · cases heq
    decide +kernel
  · cases heq

/-- Two backups in one minute whose notes have the same words: the second takes the place of the
first, and the settings that the first held are gone. -/
theorem backUp_overwritten :
    let s := within ⟨"base"⟩
    let stamp : Stamp := ⟨2024, 1, 2, 3, 4⟩
    let fs : FileSystem := ⟨.ofList [("base", .directory), ("base/settings.json", .file "[1]")], []⟩
    let first := runIn (s.backUp stamp "save") fs
    let changed := Operation.apply s first.2 (.rewrite "[]")
    let second := runIn (s.backUp stamp "Save!") changed
    let name := "settings_20240102_0304_save.json"
    first.1.toOption = some name ∧ second.1.toOption = some name
      ∧ (fs.read s.path).toOption = some "[1]"
      ∧ (first.2.read (s.backups.join name)).toOption = some "[1]"
      ∧ (second.2.read (s.backups.join name)).toOption = some "[]" := by
  decide +kernel

end SettingsFile

end NoteForms
