import NoteForms.Interview.Basic
import NoteForms.Storage.SettingsFile
import NoteForms.Template.Fault

/-!
# Faults of commands
-/

namespace NoteForms.CommandLine

/-- Why a command fails. -/
inductive CommandFault
  | files (fault : FileFault)
  | data (message : String)
  | settings (fault : SettingsFault)
  | template (fault : Template.SourceError)
  | noTerminal
  | unknownForm (name : String)
  | brokenForm (name : String)
  | noTemplate (formName : String)
  | noSettings (path : Path)
  | alreadyThere (path : Path)
  | stuck (formName : String)

/-- The words of a fault. -/
def CommandFault.message : CommandFault → String
  | .files fault => "IO error: " ++ fault.message
  | .data message => "Serialization error: " ++ message
  | .settings fault => "Settings error: " ++ fault.message
  | .template fault => "Template error: " ++ fault.message
  | .noTerminal => "Prompt error: IO error: not a terminal"
  | .unknownForm name => "Unknown form \"" ++ name ++ "\""
  | .brokenForm name => "Form \"" ++ name ++ "\" needs a manual fix before it can be used"
  | .noTemplate formName => "Form \"" ++ formName ++ "\" has no template"
  | .noSettings path => "No settings file at " ++ path.text
  | .alreadyThere path => path.text ++ " already exists; pass --force to replace it"
  | .stuck formName => stuckMessage formName

end NoteForms.CommandLine
