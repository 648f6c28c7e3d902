import NoteForms.Answer.Basic
import NoteForms.Input.Basic
import NoteForms.Text.Search

/-!
# Conditions

A condition shows a field only while the answer to another field passes a test.
-/

namespace NoteForms

/-- The kinds of test. -/
inductive TestKind
  | isSet
  | startsWith
  | contains
  | above
  | below
  | boolean
  deriving DecidableEq

/-- A test of an answer. -/
inductive Test
  | isSet
  | startsWith (start : String)
  | contains (needle : String)
  | above (bound : Bound)
  | below (bound : Bound)
  | boolean (expected : Bool)
  deriving DecidableEq

namespace TestKind

/-- Every kind of test. -/
def all : List TestKind := [.isSet, .startsWith, .contains, .above, .below, .boolean]

/-- The name of a kind. -/
def name : TestKind → String
  | .isSet => "isSet"
  | .startsWith => "startsWith"
  | .contains => "contains"
  | .above => "above"
  | .below => "below"
  | .boolean => "boolean"

/-- The kind of a name. -/
def ofName? (name : String) : Option TestKind := all.find? fun kind => kind.name == name

end TestKind

namespace Test

/-- The kind of a test. -/
def kind : Test → TestKind
  | .isSet => .isSet
  | .startsWith _ => .startsWith
  | .contains _ => .contains
  | .above _ => .above
  | .below _ => .below
  | .boolean _ => .boolean

/-- Whether an answer passes a test.  Texts are tested as texts, numbers as numbers and truth values
as truth values; what is of another type does not pass. -/
def passes : Test → Answer → Bool
  | .isSet, a => a != .text ""
  | .startsWith start, a => a.text?.any fun s => Text.startsWith s start
  | .contains needle, a => a.text?.any fun s => Text.contains s needle
  | .above bound, a => a.number?.any bound.isBelow
  | .below bound, a => a.number?.any bound.isAbove
  | .boolean expected, a => a.flag? == some expected

/-- Whether an answer that may be missing passes a test; a missing one never does. -/
def holds (t : Test) (a : Option Answer) : Bool := a.any t.passes

end Test

/-- A test of the answer to another field. -/
structure Condition where
  dependency : String
  test : Test
  deriving DecidableEq

/-- The tests that make sense of the answers to an input of some kind. -/
def InputKind.tests : InputKind → List TestKind
  | .basic .text => [.isSet, .startsWith, .contains]
  | .basic .textarea => [.isSet, .startsWith, .contains]
  | .basic .email => [.isSet, .startsWith, .contains]
  | .basic .tel => [.isSet, .startsWith, .contains]
  | .folder => [.isSet, .startsWith, .contains]
  | .note => [.isSet, .startsWith, .contains]
  | .basic .number => [.isSet, .above, .below]
  | .slider => [.isSet, .above, .below]
  | .basic .toggle => [.boolean]
  | .basic .date => [.isSet]
  | .basic .time => [.isSet]
  | .basic .datetime => [.isSet]
  | .tag => []
  | .dataview => []
  | .select => []
  | .multiselect => []
  | .documentBlock => []

end NoteForms
