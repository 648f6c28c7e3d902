import NoteForms.Proofs.Backups
import NoteForms.Proofs.Footprints

/-!
# When something goes wrong with settings

Settings are written to a draft first, and the draft takes their place in one step.  Whatever fails
before that step leaves them as they were, whatever the disk does.  Only a backup that is put in
place and then cannot be loaded stays in their place, and only a backup that has the name of the
settings itself can leave a part of them (`SettingsFile.untouched_of_fault`).
-/

namespace NoteForms

variable {φ α : Type}

open FileSystem

/-- The fault of what fails. -/
def faultOf? : Except φ α → Option φ
  | .ok _ => none
  | .error fault => some fault

theorem faultOf?_eq_some_iff {result : Except φ α} {fault : φ} :
    faultOf? result = some fault ↔ result = .error fault := by
  cases result <;> simp [faultOf?]

namespace SettingsFile

variable {s : SettingsFile} {fs fs' : FileSystem} {disk : Disk}

/-! ## The single operations -/

theorem isThere_of_read {text : String} (h : fs.read s.path = .ok text) :
    s.isThere fs = true := isThere_iff.2 ⟨_, read_eq_ok_iff.1 h⟩

theorem runIn_load_of_read {text : String} (h : fs.read s.path = .ok text) :
    runIn s.load fs = (reportOn text, fs) := by
  unfold load
  rw [runIn_get_bind]
  simp only [isThere_of_read h, if_true]
  rw [runIn_bind, Keeping.runIn_ofFiling, Filing.runIn_fetch_sound, h]
  exact runIn_liftExcept _

/-- A backup is put in the place of the settings before it is loaded. -/
theorem restore_cases {name : String} {result : Except SettingsFault LoadReport}
    (h : runIn (s.restore name disk) fs = (result, fs')) :
    ((∃ fault, result = .error fault) ∧ fs.OnlyAt [s.path.draft.destination fs.working] fs')
      ∨ ∃ text, fs.read (s.backups.join name) = .ok text ∧ fs'.read s.path = .ok text
        ∧ runIn (s.load disk) fs' = (result, fs') := by
  have hconfined := Keeping.confined_ofFiling
    (confined_putInPlace fs.working s disk (s.backups.join name))
  unfold restore at h
  rw [runIn_get_bind] at h
  split at h
  · cases h
    exact .inl ⟨⟨_, rfl⟩, .refl _ fs⟩
  obtain ⟨fault, hput, rfl⟩ | ⟨_, between, hput, hload⟩ := runIn_bind_cases h
  · exact .inl ⟨⟨fault, rfl⟩, hconfined.error rfl hput⟩
  obtain rfl := eq_of_runIn_load hload
  obtain ⟨_, hfault, -⟩ | ⟨_, -, hput⟩ := Keeping.ofFiling_cases hput
  · cases hfault
  obtain ⟨text, fetched, hfetch, hreplace⟩ := runIn_bind_eq_ok_iff.1 hput
  obtain ⟨⟨_, hfault⟩, -⟩ | ⟨_, hok, hread, rfl⟩ := Filing.fetch_cases hfetch
  · cases hfault
  cases hok
  exact .inr ⟨text, hread, (Filing.read_of_replace hreplace).2.1, hload⟩

/-! ## Operations that fail -/

/-- Why an operation fails, if it does.  What other programs do is none of the operations here. -/
def Operation.fault? (s : SettingsFile) (fs : FileSystem) : Operation → Option SettingsFault
  | .backUp stamp note disk => faultOf? (runIn (s.backUp stamp note disk) fs).1
  | .save settings disk => faultOf? (runIn (s.save settings disk) fs).1
  | .restore name disk => faultOf? (runIn (s.restore name disk) fs).1
  | .load disk => faultOf? (runIn (s.load disk) fs).1
  | .rewrite _ => none

/-- The file of the settings holds what it held, or is still not there, and reads as it did. -/
structure Untouched (s : SettingsFile) (fs fs' : FileSystem) : Prop where
  content : fs'.file? (s.path.destination fs.working) = fs.file? (s.path.destination fs.working)
  read : ∀ {text}, fs.read s.path = .ok text → fs'.read s.path = .ok text

/-- A backup was put in the place of the settings, and the fault is that of loading it. -/
def Operation.IsUnloadable (op : Operation) (s : SettingsFile) (fs : FileSystem)
    (fault : SettingsFault) : Prop :=
  ∃ name disk text, op = .restore name disk
    ∧ fs.read (s.backups.join name) = .ok text ∧ (op.apply s fs).read s.path = .ok text
    ∧ runIn (s.load disk) (op.apply s fs) = (.error fault, op.apply s fs)

/-- A backup was written over the settings themselves, and no more than a part of their text. -/
def Operation.IsCutShort (op : Operation) (s : SettingsFile) (fs : FileSystem)
    (fault : SettingsFault) : Prop :=
  ∃ stamp note disk, op = .backUp stamp note disk
    ∧ Place.text ((s.backups.join (backupName stamp note)).destination fs.working)
      = Place.text (s.path.destination fs.working)
    ∧ ∃ (text : String) (mishap : Mishap), fs.read s.path = .ok text ∧ fault = .files mishap.fault
      ∧ (op.apply s fs).file? (s.path.destination fs.working)
        = some (.ofBytes (text.toUTF8.extract 0 mishap.written))

/-- Only settings that have the name of a backup are cut short. -/
theorem IsApart.not_isCutShort (hs : s.IsApart) (op : Operation) (fault : SettingsFault) :
    ¬op.IsCutShort s fs fault := by
  rintro ⟨stamp, note, disk, -, hsame, -⟩
  obtain ⟨own, hp, hne⟩ := hs
  obtain ⟨front, hbackup⟩ := (Path.endsIn_join s.backups
    (isOwnName_backupName stamp note)).exists_destination fs.working
  rw [hbackup] at hsame
  exact hp.text_destination_ne (slash_notMem_backupName stamp note) (hne stamp note) fs.working
    front hsame.symm

theorem untouched_of_onlyAt {places : List Place} (h : fs.OnlyAt places fs')
    (hplaces : ∀ place ∈ places, place.text ≠ Place.text (s.path.destination fs.working)) :
    s.Untouched fs fs' :=
  ⟨h.file? hplaces, h.read hplaces⟩

theorem untouched_of_draft (h : fs.OnlyAt [s.path.draft.destination fs.working] fs') :
    s.Untouched fs fs' :=
  untouched_of_onlyAt h (by simpa using s.path.text_draft_ne fs.working)

/-- A backup that fails leaves the settings alone, if it is not written over them. -/
theorem untouched_of_backUp {stamp : Stamp} {note : String} {fault : SettingsFault}
    (h : runIn (s.backUp stamp note disk) fs = (.error fault, fs')) :
    s.Untouched fs fs' ∨ (Operation.backUp stamp note disk).IsCutShort s fs fault := by
  obtain ⟨-, honly⟩ | ⟨text, node, hread, honly, hfind, hnode, -⟩ := backUp_cases h
  · exact .inl (untouched_of_onlyAt honly (by simp))
  by_cases hsame : Place.text ((s.backups.join (backupName stamp note)).destination fs.working)
      = Place.text (s.path.destination fs.working)
  · have hsettings := file?_of_read hread
    have hbackup := file?_of_find hfind hnode.ne_directory
    rw [honly.working] at hbackup
    have hfile : fs'.file? (s.path.destination fs.working) = some node := by
      rw [← file?_congr (ne_nil_of_file? hbackup) (ne_nil_of_file? hsettings) hsame, hbackup]
    obtain rfl | ⟨mishap, hfault, rfl⟩ := hnode
    · refine .inl ⟨hfile.trans hsettings.symm, fun {text'} hread' => ?_⟩
      cases hread.symm.trans hread'
      exact read_eq_ok_iff.2 (honly.find_of_file? (read_eq_ok_iff.1 hread) (by simp) hfile)
    · cases hfault
      refine .inr ⟨stamp, note, disk, rfl, hsame, text, mishap, hread, rfl, ?_⟩
      rw [Operation.apply, h, hfile]
  · exact .inl (untouched_of_onlyAt honly (by simpa using hsame))

/-- Settings are left alone by what fails, unless a backup has taken their place and cannot be
loaded, or a backup has their name and could not be written to the end. -/
theorem untouched_of_fault {s : SettingsFile} {fs : FileSystem} {op : Operation}
    {fault : SettingsFault} (h : op.fault? s fs = some fault) :
    s.Untouched fs (op.apply s fs) ∨ op.IsUnloadable s fs fault ∨ op.IsCutShort s fs fault := by
  have hrun : ∀ {α : Type} {steps : Keeping α}, faultOf? (runIn steps fs).1 = some fault →
      runIn steps fs = (.error fault, (runIn steps fs).2) := fun hfault =>
    Prod.ext (faultOf?_eq_some_iff.1 hfault) rfl
  cases op with
  | backUp stamp note disk => exact (untouched_of_backUp (hrun h)).imp id .inr
  | save settings disk =>
    exact .inl (untouched_of_draft ((confined_save fs.working s disk settings).error rfl (hrun h)))
  | restore name disk =>
    rcases restore_cases (hrun h) with ⟨-, honly⟩ | ⟨text, hread, hplaced, hload⟩
    · exact .inl (untouched_of_draft honly)
    · exact .inr (.inl ⟨name, disk, text, rfl, hread, hplaced, hload⟩)
  | load disk =>
    have honly := (confined_load fs.working s disk).error rfl (hrun h)
    exact .inl (untouched_of_onlyAt honly (by simp))
  | rewrite text => cases h

/-- A disk that is full after the first byte of a draft keeps the settings from being saved. -/
theorem untouched_of_fault_disk_full :
    let s := within ⟨"base"⟩
    let fs : FileSystem := ⟨.ofList [("base", .directory), ("base/settings.json", .file "[]")], []⟩
    let full : Disk := ⟨fun _ c => match c with
      | .write _ => some ⟨.other "No space left on device (os error 28)", 1⟩
      | _ => none⟩
    let op : Operation := .save .empty full
    ∃ fault, op.fault? s fs = some fault
      ∧ fault.message = "I/O error: No space left on device (os error 28)"
      ∧ s.Untouched fs (op.apply s fs)
      ∧ (op.apply s fs).file? ["base", "settings.json.tmp"] = some (.file "\x7b") := by
  intro s fs full op
  have hmessage : (op.fault? s fs).map SettingsFault.message
      = some "I/O error: No space left on device (os error 28)" := by decide +kernel
  obtain ⟨fault, hfault, hmessage⟩ := Option.map_eq_some_iff.1 hmessage
  refine ⟨fault, hfault, hmessage, ?_, by decide +kernel⟩
  obtain huntouched | ⟨_, _, _, hop, -⟩ | ⟨_, _, _, hop, -⟩ := untouched_of_fault hfault
  · exact huntouched
  all_goals simp [op] at hop

/-- A backup that is no settings takes the place of settings that were in order, and an error is all
that comes of it.  A backup that has the name of the settings empties them if it cannot be
written. -/
theorem changed_by_fault :
    (let s := within ⟨"base"⟩
      let settings := "\x7b\"formDefinitions\":[]\x7d"
      let fs : FileSystem := ⟨.ofList [("base", .directory), ("base/settings.json", .file settings),
        ("base/backups", .directory), ("base/backups/old.json", .file "not settings")], []⟩
      let op : Operation := .restore "old.json" .sound
      ((Operation.load .sound).fault? s fs).isNone = true ∧ (op.fault? s fs).isSome = true
        ∧ fs.file? (s.path.destination fs.working) = some (.file settings)
        ∧ (op.apply s fs).file? (s.path.destination fs.working) = some (.file "not settings"))
    ∧ (let s : SettingsFile := ⟨⟨"backups/settings_20240102_0304.json"⟩, ⟨"backups"⟩⟩
      let fs : FileSystem := ⟨.ofList [("backups", .directory),
        ("backups/settings_20240102_0304.json", .file "[]")], []⟩
      let full : Disk := ⟨fun _ c => match c with
        | .write _ => some ⟨.other "No space left on device (os error 28)", 0⟩
        | _ => none⟩
      let op : Operation := .backUp ⟨2024, 1, 2, 3, 4⟩ "" full
      (op.fault? s fs).isSome = true
        ∧ fs.file? (s.path.destination fs.working) = some (.file "[]")
        ∧ (op.apply s fs).file? (s.path.destination fs.working) = some (.file "")) := by
  decide +kernel

end SettingsFile

end NoteForms
