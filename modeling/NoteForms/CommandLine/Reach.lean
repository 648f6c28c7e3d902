import NoteForms.CommandLine.Run

/-!
# The reach of a command

The paths that a command may look at or change.  Whoever carries out a command on real files needs
to know no others.
-/

namespace NoteForms.CommandLine

/-- The paths of settings, of which a backup with a note may be taken. -/
def settingsReach (around : Surroundings) (file : SettingsFile) (note : String) : List Path :=
  [file.path, file.path.draft, file.backups, file.backups.join (backupName around.now note)]

/-- The paths that a command may look at or change. -/
def Command.reach (around : Surroundings) : Command → List Path
  | .check settings _ => settingsReach around (.beside settings) migrationNote
  | .fill settings _ _ defaults => settings :: defaults.toList
  | .render settings _ data => [settings, data]
  | .template source form => (sourcePath? source).toList ++ (form.map (·.1)).toList
  | .init (some path) _ => settingsReach around (.beside path) initNote
  | .init none _ => settingsReach around (.within around.settingsDirectory) initNote

end NoteForms.CommandLine
