import NoteForms.Condition.Basic
import NoteForms.Validation.Members

/-!
# Validating conditions
-/

namespace NoteForms.Condition

/-- The kind of a raw test. -/
def testKind (members : Members) (base : KeyPath) : Validated TestKind :=
  (members.text base "type").andThen fun name =>
    match TestKind.ofName? name with
    | some kind => .valid kind
    | none => .issueAt base "type" ("unknown condition type \"" ++ name ++ "\"")

/-- The truth value that a test compares with.  Here null is a value like any other. -/
def expectedFlag (members : Members) (base : KeyPath) : Validated Bool :=
  match lookup "value" members with
  | some (.bool b) => .valid b
  | some v => .issueAt base "value" (expectedMessage "a boolean" v)
  | none => .issueAt base "value" "is required"

/-- The raw test of some kind. -/
def testOf (members : Members) (base : KeyPath) : TestKind → Validated Test
  | .isSet => .valid .isSet
  | .startsWith => .startsWith <$> members.text base "value"
  | .contains => .contains <$> members.text base "value"
  | .above => (.above <| .finite ·) <$> members.number base "value"
  | .below => (.below <| .finite ·) <$> members.number base "value"
  | .boolean => .boolean <$> expectedFlag members base

/-- The condition that a raw value at a path stands for. -/
def validate (base : KeyPath) (raw : Json) : Validated Condition :=
  (Members.ofJson base raw).andThen fun members =>
    Condition.mk <$> members.nonBlankText base "dependencyName"
      <*> (testKind members base).andThen (testOf members base)

end NoteForms.Condition
