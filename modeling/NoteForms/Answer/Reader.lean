import NoteForms.Answer.Encoding
import NoteForms.Json.Reader

/-!
# Reading answers

Answers are read from a JSON text value by value.  The first fault in the text is the one that is
reported, whether it is one of the text or of a value that is no answer.
-/

namespace NoteForms.Answers

/-- What is wrong with the text of some answers. -/
inductive Problem
  | text (p : Json.Problem)
  | value (e : Json.DecodeError)

/-- The words of a problem. -/
def Problem.message : Problem → String
  | .text p => p.message
  | .value e => e.message

open Json

/-- The characters behind the end of an empty object, or those on which it does not end. -/
def dropObjectEnd (cs : List Char) : List Char :=
  match skipSpace cs with
  | '}' :: rest => rest
  | rest => rest

/-- A fault at a value that is none of those expected, behind which the fault is found unless it is
a list or an object. -/
def refuse (expected : String) (cs : List Char) : Reading Problem (Parsed α) :=
  match skipSpace cs with
  | '[' :: rest => faultHere (.value (.mismatch (.arr []) expected)) ('[' :: rest)
  | '{' :: rest => faultHere (.value (.mismatch (.obj []) expected)) ('{' :: rest)
  | rest => do
    let (v, rest) ← mapProblem .text (readValue 0 rest)
    faultHere (.value (.mismatch v expected)) rest

/-- A text in a list. -/
def readText (cs : List Char) : Reading Problem (Parsed String) :=
  match skipSpace cs with
  | '"' :: rest => mapProblem .text (readString rest)
  | rest => refuse "a string" rest

/-- The answer that a value is, unless it is a list. -/
def readSingle (cs : List Char) : Reading Problem (Parsed Answer) := do
  let (v, rest) ← mapProblem .text (readValue 0 cs)
  match Answer.decode v with
  | .ok a => return (a, rest)
  | .error e => faultHere (.value e) rest

/-- An answer. -/
def readAnswer (cs : List Char) : Reading Problem (Parsed Answer) :=
  match skipSpace cs with
  | '[' :: rest => do
    let (items, rest) ← readItems .text readText (rest.length + 1) true rest
    return (.list items, rest)
  | '{' :: rest =>
    match Answer.decode (.obj []) with
    | .ok a => .ok (a, dropObjectEnd rest)
    | .error e => faultHere (.value e) (dropObjectEnd rest)
  | rest => readSingle rest

/-- Answers, and the end of the text. -/
def readDocument (cs : List Char) : Reading Problem Answers := do
  match skipSpace cs with
  | '{' :: rest => do
    let (entries, rest) ← readMembers .text readAnswer (rest.length + 1) true [] rest
    mapProblem .text (readEnd rest)
    return Table.ofList entries
  | rest => do
    let ((), _) ← refuse "a map" rest
    return ∅

/-- The answers of a text, or what is wrong with it and where. -/
def parse (text : String) : Except String Answers :=
  match readDocument text.toList with
  | .ok a => .ok a
  | .error f => .error (locatedMessage f.problem.message (f.place.locate text.toList))

end NoteForms.Answers
