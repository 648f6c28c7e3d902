import NoteForms.Condition.Validation
import NoteForms.Field.Basic
import NoteForms.Input.Validation

/-!
# Validating fields

A raw field is checked key by key, and every issue is kept.  In a list of fields each field is
checked at its index, and a name may be used only once.
-/

namespace NoteForms

/-- Why a raw value is no field: its name, if it has a readable one, and the issues. -/
structure FieldError where
  name : Option String
  issues : List Issue

/-- The words of a field error. -/
def FieldError.message (e : FieldError) : String :=
  "Invalid field" ++ (e.name.map fun name => " \"" ++ name ++ "\"").getD "" ++ ": "
    ++ summarize e.issues

namespace Field

/-- The input of a raw field.  Here null is a value like any other. -/
def inputOf (faultOf : String → Option String) (members : Members) (base : KeyPath) :
    Validated Input :=
  match lookup "input" members with
  | none => .issueAt base "input" "is required"
  | some v =>
    match Input.validateAt faultOf (base ++ ["input"]) v with
    | .ok input => .valid input
    | .error e => .invalid (e.issuesUnder (base ++ ["input"]))

/-- The condition of a raw field, if it has one. -/
def conditionOf (members : Members) (base : KeyPath) : Validated (Option Condition) :=
  match members.present? "condition" with
  | none => .valid none
  | some v => some <$> Condition.validate (base ++ ["condition"]) v

/-- The description of a raw field, empty if it has none. -/
def descriptionOf (members : Members) (base : KeyPath) : Validated String :=
  (·.getD "") <$> members.optionalText base "description"

/-- A field with its parts in the order in which they are checked. -/
def ofParts (name : String) (label : Option String) (description : String) (required : Option Bool)
    (input : Input) (condition : Option Condition) : Field :=
  ⟨name, label, description, input, required, condition⟩

/-- The field that a raw value at a path stands for, or all its issues. -/
def check (faultOf : String → Option String) (base : KeyPath) (raw : Json) : Validated Field :=
  (Members.ofJson base raw).andThen fun members =>
    ofParts <$> members.nonBlankText base "name" <*> members.optionalText base "label"
      <*> descriptionOf members base <*> members.optionalFlag base "isRequired"
      <*> inputOf faultOf members base <*> conditionOf members base

/-- The name of a raw field, if it is a text and not blank. -/
def readableName? (raw : Json) : Option String :=
  ((Members.ofJson [] raw).andThen fun members => members.nonBlankText [] "name").value?

/-- The field that a raw value stands for. -/
def validate (faultOf : String → Option String) (raw : Json) : Except FieldError Field :=
  match check faultOf [] raw with
  | .valid field => .ok field
  | .invalid issues => .error ⟨readableName? raw, issues⟩

/-- The words for a name that an earlier field has. -/
def duplicateMessage (name : String) (first : Nat) : String :=
  "duplicate field name \"" ++ name ++ "\" (already used by field " ++ toString first ++ ")"

/-- The field at an index of a list, as it was found; `seen` holds the names of the fields before
it. -/
def distinctAt (path : KeyPath) (index : Nat) (seen : List (String × Nat))
    (found : Validated Field) : Validated Field :=
  (found.andThen fun field =>
    match lookup field.name seen with
    | some first => .issueAt path "name" (duplicateMessage field.name first)
    | none => .valid field).mapIssues (Issue.atIndex index)

/-- The names of the fields before an index with the one found at it, unless it is among them. -/
def addSeen (index : Nat) (seen : List (String × Nat)) : Validated Field → List (String × Nat)
  | .valid field =>
    if (lookup field.name seen).isSome then seen else (field.name, index) :: seen
  | .invalid _ => seen

/-- The fields of a list at a path, from an index on. -/
def checkFrom (faultOf : String → Option String) (base : KeyPath) (index : Nat)
    (seen : List (String × Nat)) : List Json → Validated (List Field)
  | [] => .valid []
  | raw :: raws =>
    let path := base ++ [toString index]
    let found := check faultOf path raw
    List.cons <$> distinctAt path index seen found
      <*> checkFrom faultOf base (index + 1) (addSeen index seen found) raws

/-- The fields of a list at a path. -/
def checkAllAt (faultOf : String → Option String) (base : KeyPath) (raws : List Json) :
    Validated (List Field) := checkFrom faultOf base 0 [] raws

/-- The fields of a list. -/
def checkAll (faultOf : String → Option String) (raws : List Json) : Validated (List Field) :=
  checkAllAt faultOf [] raws

end Field

end NoteForms
