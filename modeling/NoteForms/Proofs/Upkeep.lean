import NoteForms.Proofs.Errands
import NoteForms.Proofs.Ordered
import NoteForms.Proofs.Reload

/-!
# Checking settings

A check that is not to write changes nothing, and neither does one that finds nothing to save.  One
that saves takes a backup of the text and puts the loaded settings in its place; they load as they
were, so that another check finds nothing to save (`check_upkeep`).
-/

namespace NoteForms

open FileSystem CommandLine Steps

/-! ## A backup and then the settings -/

namespace SettingsFile

variable {s : SettingsFile} {settings : Settings} {stamp : Stamp} {note name text : String}
  {fs between fs' : FileSystem}

/-- Saved settings are read from their file, which has a name, and leave no draft. -/
theorem read_of_save (h : runIn (s.save settings) fs = (.ok (), fs')) :
    (∃ own, s.path.EndsIn own) ∧ fs'.read s.path = .ok settings.toJson.indented
      ∧ fs'.file? (s.path.draft.destination fs.working) = none := by
  obtain ⟨_, hfault, -⟩ | ⟨_, -, hsteps⟩ := Keeping.ofFiling_cases h
  · cases hfault
  obtain ⟨_, made, hmake, hreplace⟩ := runIn_bind_eq_ok_iff.1 hsteps
  have hworking := ((Filing.confined_makeParent fs.working .sound s.path).ok rfl hmake).working
  have hreplaced := Filing.read_of_replace hreplace
  rwa [hworking] at hreplaced

/-- Backups are kept one directory deeper than the settings and their draft. -/
theorem text_backup_ne {path : Path} {own : String} (h : path.EndsIn own) (working : Place)
    (stamp : Stamp) (note : String) :
    let backup := ((beside path).backups.join (backupName stamp note)).destination working
    Place.text (path.destination working) ≠ backup.text
      ∧ Place.text (path.draft.destination working) ≠ backup.text := by
  obtain ⟨q, hparent, hq⟩ := h.exists_parent
  have hbackups : Path.IsOwnName "backups" := ⟨by decide, by decide, by decide, by decide⟩
  have hbackup : ((beside path).backups.join (backupName stamp note)).destination working
      = q.destination working ++ ["backups"] ++ [backupName stamp note] := by
    rw [Path.destination_join _ (isOwnName_backupName stamp note), beside, hparent]
    exact congrArg (· ++ _) (Path.destination_join q hbackups working)
  have hslash := slash_notMem_backupName stamp note
  have hdraft : '/' ∉ (own ++ ".tmp").toList := by simp [h.slash]
  rw [hbackup, hq working, h.destination_draft (hq working)]
  exact ⟨Place.text_ne_of_deeper _ h.slash hslash (by decide),
    Place.text_ne_of_deeper _ hdraft hslash (by decide)⟩

/-- A backup is taken and the settings are saved: nothing else changes. -/
theorem read_of_backUp_save {path : Path}
    (hfree : fs.file? (path.draft.destination fs.working) = none)
    (hbackUp : runIn ((beside path).backUp stamp note) fs = (.ok name, between))
    (hsave : runIn ((beside path).save settings) between = (.ok (), fs')) :
    let backup := (beside path).backups.join (backupName stamp note)
    fs.OnlyAt [path.destination fs.working, backup.destination fs.working] fs'
      ∧ fs'.read backup = fs.read path ∧ fs'.read path = .ok settings.toJson.indented := by
  intro backup
  have htaken := (confined_backUp fs.working (beside path) .sound stamp note).ok rfl hbackUp
  have hworking := htaken.working
  have hsaved := (confined_save fs.working (beside path) .sound settings).ok hworking hsave
  obtain ⟨⟨own, hown⟩, hread, hgone⟩ := read_of_save hsave
  obtain ⟨rfl, text, hcurrent, hcopy⟩ := read_of_backUp hbackUp
  obtain ⟨hpath, hdraft⟩ := text_backup_ne hown fs.working stamp note
  rw [hworking] at hgone
  have hroot : path.draft.destination fs.working ≠ [] := by
    obtain ⟨front, last, -, hends⟩ := path.exists_destination_draft fs.working
    simp [hends]
  refine ⟨(htaken.trans hsaved).of_absent hroot hfree hgone ?_, ?_, hread⟩
  · simp [beside, backup]
  · have hkept : ∀ place ∈ [path.draft.destination fs.working, path.destination fs.working],
        place.text ≠ Place.text (backup.destination between.working) := by
      rw [hworking]
      simpa using ⟨hdraft, hpath⟩
    exact (hsaved.read hkept hcopy).trans hcurrent.symm

end SettingsFile

/-! ## Loading again -/

namespace LoadReport

/-- Loaded settings are loaded again as they are saved, if their text is read as it was written. -/
theorem reportOn_indented {text : String} {r : LoadReport}
    (h : SettingsFile.reportOn text = .ok r)
    (hprinted : Json.parse r.settings.toJson.indented = .ok r.settings.toJson.sorted) :
    SettingsFile.reportOn r.settings.toJson.indented = .ok ⟨r.settings, [], []⟩ := by
  have hstable : ∀ e ∈ r.settings.entries, e.IsStable Pattern.faultOf := by
    unfold SettingsFile.reportOn at h
    split at h
    · cases h
    · rename_i raw hraw
      split at h
      · cases h
      · rename_i found hfound
        cases h
        exact isStable_of_ofJson (Json.isOrdered_of_parse hraw) hfound
  rw [SettingsFile.reportOn, hprinted]
  simp only [ofJson_of_isStable hstable]
  rfl

end LoadReport

namespace CommandLine

/-! ## Checks -/

section

variable {around : Surroundings} {path : Path} {write : Bool} {desk : Desk} {text : String}
  {report : LoadReport}

/-- What a check does behind its report. -/
def saveIfNeeded (around : Surroundings) (path : Path) (write : Bool) (report : LoadReport) :
    Steps Unit := do
  if report.needsMigration then
    if write then
      let backup ← keep ((SettingsFile.beside path).backUp around.now migrationNote)
      keep ((SettingsFile.beside path).save report.settings)
      tell .success ("Saved migrated settings (backup " ++ backup ++ ").")
    else tell .info "Run again with --write to save the migrated forms."

theorem runAt_checkSettings (h : desk.files.read path = .ok text)
    (hreport : SettingsFile.reportOn text = .ok report) :
    runAt (checkSettings around path write) desk = runAt (saveIfNeeded around path write report)
      ⟨desk.files, desk.said ++ reportSayings path report⟩ := by
  unfold checkSettings
  rw [runAt_bind_of_ok (runAt_existingSettings h), runAt_bind_of_ok (runAt_keep_load h hreport),
    runAt_bind_of_ok (runAt_say _)]
  rfl

theorem files_of_not_saving (h : write = false ∨ report.needsMigration = false) :
    (runAt (saveIfNeeded around path write report) desk).2.files = desk.files := by
  unfold saveIfNeeded
  split
  · split
    · simp_all
    · rfl
  · rfl

/-- Where something is saved, a backup was taken first. -/
theorem exists_of_saving (hneeds : report.needsMigration = true) {desk' : Desk}
    (h : runAt (saveIfNeeded around path true report) desk = (.ok (), desk')) :
    ∃ backup between,
      runIn ((SettingsFile.beside path).backUp around.now migrationNote) desk.files
          = (.ok backup, between)
        ∧ runIn ((SettingsFile.beside path).save report.settings) between
          = (.ok (), desk'.files) := by
  unfold saveIfNeeded at h
  rw [if_pos hneeds, if_pos rfl] at h
  obtain ⟨backup, between, hbackUp, h⟩ := runAt_bind_eq_ok_iff.1 h
  obtain ⟨_, after, hsave, htell⟩ := runAt_bind_eq_ok_iff.1 h
  cases htell
  exact ⟨backup, between.files, (runAt_keep_eq_ok_iff.1 hbackUp).1,
    (runAt_keep_eq_ok_iff.1 hsave).1⟩

/-- What a check that saves leaves behind: a backup of the text, and the settings that were loaded
from it, which load as they are. -/
structure Upkept (path backup : Path) (text : String) (settings : Settings)
    (fs fs' : FileSystem) : Prop where
  only : fs.OnlyAt [path.destination fs.working, backup.destination fs.working] fs'
  backup : fs'.read backup = .ok text
  loads : ∃ report, runIn (SettingsFile.beside path).load fs' = (.ok report, fs')
    ∧ report.settings = settings ∧ report.invalid = [] ∧ report.migrated = []
    ∧ report.needsMigration = false

theorem files_of_check (desk : Desk) (h : desk.files.read path = .ok text)
    (hreport : SettingsFile.reportOn text = .ok report)
    (hsaving : write = false ∨ report.needsMigration = false) :
    (runAt (checkSettings around path write) desk).2.files = desk.files := by
  rw [runAt_checkSettings h hreport, files_of_not_saving hsaving]

theorem upkept_of_check (desk : Desk) (h : desk.files.read path = .ok text)
    (hreport : SettingsFile.reportOn text = .ok report) (hneeds : report.needsMigration = true)
    (hprinted : Json.parse report.settings.toJson.indented = .ok report.settings.toJson.sorted)
    (hfree : desk.files.file? (path.draft.destination desk.files.working) = none) {desk' : Desk}
    (hcheck : runAt (checkSettings around path true) desk = (.ok (), desk')) :
    Upkept path ((SettingsFile.beside path).backups.join (backupName around.now migrationNote)) text
        report.settings desk.files desk'.files
      ∧ ∀ later said, (runAt (checkSettings later path true) ⟨desk'.files, said⟩).2.files
        = desk'.files := by
  rw [runAt_checkSettings h hreport] at hcheck
  obtain ⟨backup, between, hbackUp, hsave⟩ := exists_of_saving hneeds hcheck
  obtain ⟨honly, hcopy, hsaved⟩ := SettingsFile.read_of_backUp_save hfree hbackUp hsave
  have hagain := LoadReport.reportOn_indented hreport hprinted
  constructor
  · refine ⟨honly, hcopy.trans h, ⟨report.settings, [], []⟩, ?_, rfl, rfl, rfl, rfl⟩
    rw [SettingsFile.runIn_load_of_read (s := .beside path) hsaved, hagain]
  · intro later said
    exact files_of_check ⟨desk'.files, said⟩ hsaved hagain (.inr rfl)

end

/-- A check changes nothing unless it is to write and finds something to save.  Then it changes the
settings and one backup, which holds what the settings held, and another check changes nothing more,
whenever it is made.  Printed settings are taken to be read as they were written, and no draft to be
left from before. -/
theorem check_upkeep {files : FileSystem} {path : Path} {text : String} {report : LoadReport}
    (h : files.read path = .ok text) (hreport : SettingsFile.reportOn text = .ok report)
    (around : Surroundings) (isPlain isQuiet canColor : Bool) :
    let check (write : Bool) (around : Surroundings) (files : FileSystem) : Run :=
      (Request.mk isPlain isQuiet (.check path write)).run around canColor files
    let backup := (SettingsFile.beside path).backups.join (backupName around.now migrationNote)
    (check false around files).files = files
      ∧ (report.needsMigration = false → (check true around files).files = files)
      ∧ (report.needsMigration = true →
        Json.parse report.settings.toJson.indented = .ok report.settings.toJson.sorted →
        files.file? (path.draft.destination files.working) = none →
        (check true around files).result = .ok () →
        Upkept path backup text report.settings files (check true around files).files
          ∧ ∀ later, (check true later (check true around files).files).files
            = (check true around files).files) := by
  intro check backup
  have hfiles : ∀ write around (files : FileSystem), (check write around files).files
      = (runAt (checkSettings around path write) ⟨files, []⟩).2.files := fun _ _ _ => rfl
  simp only [hfiles]
  refine ⟨files_of_check _ h hreport (.inl rfl), fun hcurrent =>
    files_of_check _ h hreport (.inr hcurrent), fun hneeds hprinted hfree hresult => ?_⟩
  obtain ⟨hkept, hlater⟩ := upkept_of_check ⟨files, []⟩ h hreport hneeds hprinted hfree
    (Prod.ext hresult rfl)
  exact ⟨hkept, fun later => hlater later []⟩

/-- A check that keeps a form that is in order, brings a stale one up to date and drops what is no
form, and another check a minute later. -/
theorem check_upkeep_stale_form :
    let text := "\x7b\"formDefinitions\":["
      ++ "\x7b\"title\":\"Note\",\"name\":\"note\",\"version\":\"1\",\"fields\":[]\x7d,"
      ++ "\x7b\"title\":\"Tea\",\"name\":\"tea\",\"fields\":[]\x7d,1]\x7d"
    let settings : Settings :=
      ⟨.right, [.usable ⟨"Note", "note", none, [], none⟩, .usable ⟨"Tea", "tea", none, [], none⟩]⟩
    let files : FileSystem := ⟨.ofList [("settings.json", .file text)], []⟩
    let path : Path := ⟨"settings.json"⟩
    let backup : Path := ⟨"backups/settings_20240102_0304_before-migration.json"⟩
    let around (minute : Nat) : Surroundings := ⟨⟨""⟩, ⟨2024, 1, 2, 3, minute⟩, none⟩
    let check (minute : Nat) (files : FileSystem) : Run :=
      (Request.mk false false (.check path true)).run (around minute) false files
    (check 4 files).result = .ok ()
      ∧ Upkept path backup text settings files (check 4 files).files
      ∧ (check 5 (check 4 files).files).files = (check 4 files).files := by
  intro text settings files path backup around check
  have hread : (files.read path).toOption = some text := by decide +kernel
  have hparsed : (Json.parse text).toOption = some (.obj [("formDefinitions", .arr [
      .obj [("fields", .arr []), ("name", .str "note"), ("title", .str "Note"),
        ("version", .str "1")],
      .obj [("fields", .arr []), ("name", .str "tea"), ("title", .str "Tea")],
      .num (.integer 1)])]) := by decide +kernel
  have hreport : ∃ dropped, SettingsFile.reportOn text = .ok ⟨settings, [dropped], ["tea"]⟩ := by
    rw [SettingsFile.reportOn, eq_ok_of_toOption hparsed]
    exact ⟨_, rfl⟩
  have hprinted : (Json.parse settings.toJson.indented).toOption = some settings.toJson.sorted := by
    decide +kernel
  obtain ⟨dropped, hreport⟩ := hreport
  have hfree : files.file? (path.draft.destination files.working) = none := by decide +kernel
  have hresult : (check 4 files).result.toOption = some () := by decide +kernel
  have hbackup : (SettingsFile.beside path).backups.join
      (backupName (around 4).now migrationNote) = backup := by decide +kernel
  have hsaved := (check_upkeep (eq_ok_of_toOption hread) hreport (around 4) false false false).2.2
    rfl (eq_ok_of_toOption hprinted) hfree (eq_ok_of_toOption hresult)
  rw [hbackup] at hsaved
  exact ⟨eq_ok_of_toOption hresult, hsaved.1, hsaved.2 (around 5)⟩

end CommandLine

end NoteForms
