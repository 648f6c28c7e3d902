import NoteForms.CommandLine.Argument

/-!
# Usage

What is shown to someone who asks for help, or whose words are no request.
-/

namespace NoteForms.CommandLine

/-- The commands and their arguments. -/
def usageText : String :=
  String.intercalate "\n"
    ["Fill in and render note forms", "", "Commands:",
      "  check SETTINGS [--write]",
      "  fill SETTINGS FORM [--format FORMAT] [--defaults FILE]",
      "  render SETTINGS FORM DATA",
      "  template SOURCE [--settings SETTINGS --form FORM]",
      "  init [PATH] [--force]",
      "  help", "", "Formats: frontmatter, dataview, bullets, json, template",
      "Options: --plain, -q or --quiet, -h or --help, -V or --version", ""]

/-- The version of the program. -/
def versionText : String := "note_forms 0.1.0\n"

namespace UsageFault

/-- Whether the fault is that something other than a command was asked for. -/
def isAnswer : UsageFault → Bool
  | .helpAsked => true
  | .versionAsked => true
  | _ => false

/-- The words of a fault. -/
def message : UsageFault → String
  | .helpAsked => usageText
  | .versionAsked => versionText
  | .nothingAsked => usageText
  | .missingCommand => "error: a command is missing\n"
  | .unknownCommand => "error: no such command\n"
  | .missingArgument => "error: an argument is missing\n"
  | .unknownArgument => "error: unexpected argument\n"
  | .repeatedArgument => "error: an argument is given more than once\n"
  | .unexpectedValue => "error: a value for an option that has none\n"
  | .badValue => "error: invalid value\n"

end UsageFault

end NoteForms.CommandLine
