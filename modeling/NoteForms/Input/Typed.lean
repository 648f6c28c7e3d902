import NoteForms.Answer.Basic
import NoteForms.Input.Basic
import NoteForms.Number.Typed
import NoteForms.Text.Ascii
import NoteForms.Text.Lines

/-!
# Typed answers

What a person types for an input becomes an answer, or is refused with a reason.
-/

namespace NoteForms

/-- Why a typed answer is refused. -/
inductive Refusal
  | notYesOrNo
  | notANumber (typed : String)
  | outOfRange (min max : Bound)
  | notAnOption (values : List String)
  | unknownOption (item : String)
  deriving DecidableEq

/-- The words of a refusal. -/
def Refusal.message : Refusal → String
  | .notYesOrNo => "expected yes or no"
  | .notANumber typed => "\"" ++ typed ++ "\" is not a number"
  | .outOfRange min max =>
    "expected a number between " ++ min.text ++ " and " ++ max.text
  | .notAnOption values => "expected one of: " ++ String.intercalate ", " values
  | .unknownOption item => "unknown option \"" ++ item ++ "\""

/-- The words for yes. -/
def yesWords : List String := ["y", "yes", "true", "1", "on"]

/-- The words for no. -/
def noWords : List String := ["n", "no", "false", "0", "off"]

/-- The truth value of a typed word, in upper or lower case. -/
def typedFlag (typed : String) : Except Refusal Bool :=
  let word := Text.lowerAscii (Text.trim typed)
  if yesWords.contains word then .ok true
  else if noWords.contains word then .ok false
  else .error .notYesOrNo

/-- The number that is typed, between any blanks. -/
def typedNumber (typed : String) : Except Refusal Binary64 :=
  match readTyped? (Text.trimChars typed.toList) with
  | some x => .ok x
  | none => .error (.notANumber (Text.trim typed))

/-- A typed number between two bounds, which may be given in either order. -/
def typedBounded (min max : Bound) (typed : String) : Except Refusal Binary64 := do
  let x ← typedNumber typed
  if (min.least max).isAbove x || (min.greatest max).isBelow x then throw (.outOfRange min max)
  return x

/-- The items of a typed list: what stands between the commas, but for blanks. -/
def typedItems (typed : String) : List String :=
  ((Text.splitChars ',' typed.toList).map Text.trimChars).filterMap fun item =>
    if item.isEmpty then none else some (String.ofList item)

/-- Whether a typed text names an option, by its value or as it is shown. -/
def SelectOption.isNamed (typed : String) (o : SelectOption) : Bool :=
  o.value == typed || Text.sameIgnoringCase o.display typed

/-- The value of the first option that a typed text names. -/
def typedOption (options : List SelectOption) (typed : String) : Except Refusal String :=
  match options.find? (SelectOption.isNamed (Text.trim typed)) with
  | some o => .ok o.value
  | none => .error (.notAnOption (options.map (·.value)))

namespace Input

/-- The first item that an input does not offer and does not take either. -/
def unknownItem? (input : Input) (items : List String) : Option String :=
  match input with
  | .multiselect (.fixed options false) => items.find? fun item => !options.contains item
  | _ => none

/-- The answer that some items are.  Where no list is expected, they are joined by commas. -/
def answerItems (input : Input) (items : List String) : Except Refusal Answer :=
  match input.unknownItem? items with
  | some item => .error (.unknownOption item)
  | none =>
    if input.kind.isList then .ok (.list items)
    else .ok (.text (String.intercalate "," items))

/-- The answer that a typed text is. -/
def answerTyped (input : Input) (typed : String) : Except Refusal Answer :=
  if input.kind.isList then input.answerItems (typedItems typed)
  else
    match input with
    | .basic .toggle _ => (typedFlag typed).map .flag
    | .basic .number _ => (typedNumber typed).map .number
    | .slider min max => (typedBounded min max typed).map .number
    | .select (.fixed options) =>
      if options.isEmpty then .ok (.text typed) else (typedOption options typed).map .text
    | _ => .ok (.text typed)

end Input

end NoteForms
