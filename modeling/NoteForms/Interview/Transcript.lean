import NoteForms.Console.Message
import NoteForms.Interview.Basic

/-!
# What an interview shows

The remarks of an interview as messages, for an interview whose answers are the lines of a script,
and for one that a person is to answer at a terminal.
-/

namespace NoteForms

namespace Question

/-- The place of a question among the fields, and its label. -/
def prompt (q : Question) : String :=
  "[" ++ toString (q.index + 1) ++ "/" ++ toString q.total ++ "] " ++ q.label

/-- What is explained before a person answers: the description of the field, and what stands
against its last answer. -/
def explanation (q : Question) : List Saying :=
  (if Text.isBlankText q.field.description then [] else [.message .info q.field.description])
    ++ q.errors.map (.message .warning)

end Question

/-- Why a response was rejected, and by which field. -/
def Field.rejection (field : Field) (reason : Refusal) : Saying :=
  .message .warning (field.display ++ ": " ++ reason.message)

namespace Remark

/-- The remarks that are shown whoever responds. -/
def sayings : Remark → List Saying
  | .notice text => [.message .info text]
  | .trouble reason => [.message .warning reason]
  | .asked _ => []
  | .rejected _ _ => []
  | .review _ => []

/-- What a remark shows in front of the line of a script. -/
def scripted : Remark → List Saying
  | .asked q => [.message .prompt q.prompt]
  | .rejected field reason => [field.rejection reason]
  | r => r.sayings

/-- What a remark shows at a terminal. -/
def atTerminal : Remark → List Saying
  | .asked q => q.explanation
  | .rejected field reason => [field.rejection reason]
  | .review summary => .message .heading "Review" :: summary.map (.message .info)
  | r => r.sayings

end Remark

/-! ## Scripts -/

/-- What a person types to give up a form. -/
def cancelWord : String := ":cancel"

/-- The response that a line is: blank lines skip a field. -/
def Response.ofLine (line : String) : Response :=
  let word := Text.trim line
  if word == cancelWord then .cancel else if word.isEmpty then .skip else .typed line

/-- The characters of a line without the characters that end it. -/
def dropLineEnd (line : List Char) : List Char :=
  (line.reverse.dropWhile fun c => c = '\r' || c = '\n').reverse

/-- The lines of some bytes, each with the line feed that ends it. -/
def byteLines : List UInt8 → List (List UInt8)
  | [] => []
  | b :: bs =>
    if b = 10 then [b] :: byteLines bs
    else
      match byteLines bs with
      | [] => [[b]]
      | line :: lines => (b :: line) :: lines

/-- The response that the bytes of a line are, unless they are no text. -/
def Response.ofBytes? (line : List UInt8) : Option Response :=
  (String.fromUTF8? ⟨line.toArray⟩).map fun s =>
    .ofLine (String.ofList (dropLineEnd s.toList))

/-- A respondent who answers from the lines of a script, and confirms every review.  What is no text
is answered with a failure. -/
def Respondent.ofScript {φ : Type} (failure : φ) (script : ByteArray) : Respondent φ where
  responses := (byteLines script.toList).map fun line =>
    match Response.ofBytes? line with
    | some response => .ok response
    | none => .error failure
  confirmations := []

/-- A respondent who fails at whatever comes first. -/
def Respondent.absent {φ : Type} (failure : φ) : Respondent φ :=
  ⟨[.error failure], [.error failure]⟩

end NoteForms
