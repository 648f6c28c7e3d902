import NoteForms.CommandLine.Run
import NoteForms.Proofs.FormsByName
import NoteForms.Proofs.Mishaps

/-!
# Commands step by step

What the steps of a command come to is said here once.  Then the two ways to find a form by its
name are compared.  A command takes the first entry of the name, and reports it if it needs a fix by
hand; `Settings.findForm?` passes over it.  So they differ just where a form that needs a fix stands
before a usable one of its name (`lookups_agree_iff`).
-/

namespace NoteForms.CommandLine

open Steps

variable {α β : Type}

/-! ## Running steps -/

/-- What comes of the steps of a command, and its desk as it is then. -/
def runAt (steps : Steps α) (desk : Desk) : Except CommandFault α × Desk := steps.run.run desk

section

variable {desk : Desk}

theorem runAt_get : runAt get desk = (.ok desk, desk) := rfl

theorem runAt_pure (a : α) : runAt (pure a) desk = (.ok a, desk) := rfl

theorem runAt_bind (x : Steps α) (f : α → Steps β) :
    runAt (x >>= f) desk = match runAt x desk with
      | (.ok a, desk) => runAt (f a) desk
      | (.error fault, desk) => (.error fault, desk) := by
  unfold runAt
  rw [ExceptT.run_bind, StateT.run_bind]
  cases x.run.run desk with
  | mk r desk => cases r <;> rfl

theorem runAt_bind_of_ok {x : Steps α} {f : α → Steps β} {a : α} {desk' : Desk}
    (h : runAt x desk = (.ok a, desk')) : runAt (x >>= f) desk = runAt (f a) desk' := by
  rw [runAt_bind, h]

theorem runAt_bind_eq_ok_iff {x : Steps α} {f : α → Steps β} {b : β} {desk' : Desk} :
    runAt (x >>= f) desk = (.ok b, desk')
      ↔ ∃ a between, runAt x desk = (.ok a, between) ∧ runAt (f a) between = (.ok b, desk') := by
  rw [runAt_bind]
  rcases runAt x desk with ⟨_ | _, _⟩ <;> simp

theorem runAt_say (sayings : List Saying) :
    runAt (say sayings) desk = (.ok (), { desk with said := desk.said ++ sayings }) := rfl

theorem runAt_keep (steps : Keeping α) :
    runAt (keep steps) desk = match runIn steps desk.files with
      | (.ok a, files) => (.ok a, { desk with files := files })
      | (.error fault, files) => (.error (.settings fault), { desk with files := files }) := rfl

theorem runAt_keep_eq_ok_iff {steps : Keeping α} {a : α} {desk' : Desk} :
    runAt (keep steps) desk = (.ok a, desk') ↔
      runIn steps desk.files = (.ok a, desk'.files) ∧ desk'.said = desk.said := by
  rw [runAt_keep]
  rcases runIn steps desk.files with ⟨_ | _, files⟩
  · simp
  · cases desk'
    simp only [Prod.mk.injEq, Except.ok.injEq, Desk.mk.injEq, and_assoc, eq_comm (a := desk.said)]

end

/-! ## Settings that are there -/

section

variable {desk : Desk} {path : Path} {text : String} {report : LoadReport}

theorem runAt_existingSettings (h : desk.files.read path = .ok text) :
    runAt (existingSettings path) desk = (.ok (.beside path), desk) := by
  unfold existingSettings
  rw [runAt_bind, runAt_get]
  simp only [SettingsFile.isThere_of_read (s := .beside path) h, if_true, runAt_pure]

theorem runAt_keep_load (h : desk.files.read path = .ok text)
    (hreport : SettingsFile.reportOn text = .ok report) :
    runAt (keep (SettingsFile.beside path).load) desk = (.ok report, desk) := by
  rw [runAt_keep, SettingsFile.runIn_load_of_read (s := .beside path) h, hreport]

/-- Settings that are read and loaded leave no trace but a warning. -/
theorem exists_runAt_loadSettings (h : desk.files.read path = .ok text)
    (hreport : SettingsFile.reportOn text = .ok report) :
    ∃ said, runAt (loadSettings path) desk = (.ok report.settings, ⟨desk.files, said⟩) := by
  unfold loadSettings
  rw [runAt_bind_of_ok (runAt_existingSettings h), runAt_bind_of_ok (runAt_keep_load h hreport)]
  split
  · exact ⟨_, by rw [runAt_bind, Steps.tell, runAt_say]; rfl⟩
  · exact ⟨_, rfl⟩

end

/-! ## Forms by name -/

section

variable {name : String} {entries : List Entry}

/-- A form that needs a fix by hand stands first among the entries of a name, and a usable one
behind it. -/
def IsShadowed (name : String) (entries : List Entry) : Prop :=
  ∃ before b after f, entries = before ++ .broken b :: after ∧ b.outline.name = name
    ∧ (∀ a ∈ before, a.name ≠ name) ∧ .usable f ∈ after ∧ f.name = name

theorem isShadowed_iff : IsShadowed name entries ↔
    (∃ b, firstOf? name entries = some (.broken b)) ∧ ∃ f, findForm? entries name = some f := by
  simp only [firstOf?_eq_some_iff, ← Option.isSome_iff_exists]
  constructor
  · rintro ⟨before, b, after, f, rfl, hb, hbefore, hf, hname⟩
    exact ⟨⟨b, hb, before, after, rfl, hbefore⟩,
      findForm?_isSome_iff.2 ⟨f, by simp [hf], hname⟩⟩
  · rintro ⟨⟨b, hb, before, after, rfl, hbefore⟩, hsome⟩
    rw [findForm?_append_of_ne hbefore] at hsome
    obtain ⟨f, hf, hname⟩ := findForm?_isSome_iff.1 hsome
    exact ⟨before, b, after, f, rfl, hb, hbefore, by simpa using hf, hname⟩

theorem not_isShadowed_of_nodup (h : (entries.map Entry.name).Nodup) :
    ¬IsShadowed name entries := by
  rintro ⟨before, b, after, f, rfl, hb, -, hf, hname⟩
  rw [List.map_append, List.map_cons, List.nodup_append, List.nodup_cons] at h
  exact h.2.1.1 (List.mem_map.2 ⟨_, hf, hname.trans hb.symm⟩)

end

theorem fst_runAt_loadForm {desk : Desk} {path : Path} {text : String} {report : LoadReport}
    (h : desk.files.read path = .ok text) (hreport : SettingsFile.reportOn text = .ok report)
    (name : String) : (runAt (loadForm path name) desk).1 =
      match firstOf? name report.settings.entries with
      | some (.usable form) => .ok form
      | some (.broken _) => .error (.brokenForm name)
      | none => .error (.unknownForm name) := by
  obtain ⟨said, hload⟩ := exists_runAt_loadSettings h hreport
  unfold loadForm
  rw [runAt_bind_of_ok hload, ← firstOf?]
  rcases firstOf? name report.settings.entries with _ | ⟨_ | _⟩ <;> rfl

/-- The lookup of the commands and that of the settings agree on a name unless it is shadowed, and
then the commands report a form that needs a fix. -/
theorem lookups_agree_iff {desk : Desk} {path : Path} {text : String} {report : LoadReport}
    (h : desk.files.read path = .ok text) (hreport : SettingsFile.reportOn text = .ok report)
    (name : String) :
    let entries := report.settings.entries
    let result := (runAt (loadForm path name) desk).1
    (((∀ f, result = .ok f ↔ findForm? entries name = some f)
        ∧ ((result = .error (.unknownForm name) ∨ result = .error (.brokenForm name))
          ↔ findForm? entries name = none))
      ↔ ¬IsShadowed name entries)
    ∧ (IsShadowed name entries → result = .error (.brokenForm name))
    ∧ ((entries.map Entry.name).Nodup → ¬IsShadowed name entries) := by
  intro entries result
  have hresult : result = _ := fst_runAt_loadForm h hreport name
  refine ⟨?_, fun hshadowed => ?_, not_isShadowed_of_nodup⟩
  · rw [isShadowed_iff, hresult]
    rcases hfirst : firstOf? name entries with _ | ⟨f | b⟩
    · simp [findForm?_of_first_none hfirst]
    · simp [findForm?_of_first_usable hfirst]
    · cases findForm? entries name <;> simp
  · obtain ⟨⟨b, hfirst⟩, -⟩ := isShadowed_iff.1 hshadowed
    rw [hresult, hfirst]

/-- The lookups agree on a form that stands before one of its name that needs a fix. -/
theorem lookups_agree_usable_first :
    let text := "\x7b\"formDefinitions\":["
      ++ "\x7b\"title\":\"Note\",\"name\":\"note\",\"version\":\"1\",\"fields\":[]\x7d,"
      ++ "\x7b\"title\":\" \",\"name\":\"note\",\"fields\":[]\x7d]\x7d"
    let desk : Desk := ⟨⟨.ofList [("settings.json", .file text)], []⟩, []⟩
    let path : Path := ⟨"settings.json"⟩
    ∃ report, SettingsFile.reportOn text = .ok report ∧ report.settings.entries.length = 2
      ∧ (((∀ f, (runAt (loadForm path "note") desk).1 = .ok f
            ↔ findForm? report.settings.entries "note" = some f)
          ∧ (((runAt (loadForm path "note") desk).1 = .error (.unknownForm "note")
              ∨ (runAt (loadForm path "note") desk).1 = .error (.brokenForm "note"))
            ↔ findForm? report.settings.entries "note" = none))
        ↔ ¬IsShadowed "note" report.settings.entries) := by
  intro text desk path
  have hlength : (SettingsFile.reportOn text).toOption.map (fun report =>
      report.settings.entries.length) = some 2 := by decide +kernel
  obtain ⟨report, hreport, hlength⟩ := Option.map_eq_some_iff.1 hlength
  have hread : (desk.files.read path).toOption = some text := by decide +kernel
  have hreport := eq_ok_of_toOption hreport
  exact ⟨report, hreport, hlength, (lookups_agree_iff (eq_ok_of_toOption hread) hreport "note").1⟩

/-- A form that needs a fix hides a usable one of its name from the commands. -/
theorem loadForm_shadowed :
    let text := "\x7b\"formDefinitions\":["
      ++ "\x7b\"title\":\" \",\"name\":\"note\",\"fields\":[]\x7d,"
      ++ "\x7b\"title\":\"Note\",\"name\":\"note\",\"version\":\"1\",\"fields\":[]\x7d]\x7d"
    let desk : Desk := ⟨⟨.ofList [("settings.json", .file text)], []⟩, []⟩
    let path : Path := ⟨"settings.json"⟩
    ∃ settings desk' f, runAt (loadSettings path) desk = (.ok settings, desk')
      ∧ settings.findForm? "note" = some f ∧ (runAt (loadForm path "note") desk).1 ≠ .ok f
      ∧ (runAt (loadForm path "note") desk).1 = .error (.brokenForm "note") := by
  intro text desk path
  have hread : (desk.files.read path).toOption = some text := by decide +kernel
  have hfound : (SettingsFile.reportOn text).toOption.bind (fun report =>
      (report.settings.findForm? "note").bind fun f =>
        ((firstOf? "note" report.settings.entries).bind Entry.broken?).map fun b =>
          (f.title, b.outline.title)) = some ("Note", " ") := by
    decide +kernel
  obtain ⟨report, hreport, hfound⟩ := Option.bind_eq_some_iff.1 hfound
  obtain ⟨f, hfind, hfound⟩ := Option.bind_eq_some_iff.1 hfound
  obtain ⟨b, hbroken, -⟩ := Option.map_eq_some_iff.1 hfound
  have hread := eq_ok_of_toOption hread
  have hreport := eq_ok_of_toOption hreport
  obtain ⟨said, hload⟩ := exists_runAt_loadSettings hread hreport
  have hresult := fst_runAt_loadForm hread hreport "note"
  obtain ⟨e, hfirst, he⟩ := Option.bind_eq_some_iff.1 hbroken
  cases e with
  | usable g => cases he
  | broken c =>
    rw [hfirst] at hresult
    exact ⟨report.settings, _, f, hload, hfind, by rw [hresult]; nofun, hresult⟩

end NoteForms.CommandLine
