/-!
# Issues

An issue is one problem of a raw value: words, the path of keys that leads to the problem, and the
position of the field it belongs to if it was found in a list of fields.
-/

namespace NoteForms

/-- The keys and indices that lead from a value to a part of it. -/
abbrev KeyPath := List String

/-- A path as it is shown. -/
def KeyPath.text (path : KeyPath) : String := String.intercalate "." path

/-- One problem of a raw value. -/
structure Issue where
  path : KeyPath
  message : String
  index : Option Nat := none
  deriving DecidableEq

namespace Issue

/-- The issue as one of the field at an index. -/
def atIndex (index : Nat) (i : Issue) : Issue := { i with index := some index }

/-- The words of an issue, with its path in front unless that is empty. -/
def text (i : Issue) : String :=
  if i.path.text.isEmpty then i.message else i.path.text ++ ": " ++ i.message

end Issue

/-- Some issues in one line. -/
def summarize : List Issue → String
  | [] => "validation failed"
  | [only] => only.text
  | issues =>
    toString issues.length ++ " issues: " ++ String.intercalate "; " (issues.map Issue.text)

end NoteForms
