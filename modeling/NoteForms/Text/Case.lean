import NoteForms.Text.CaseTable

/-!
# Upper and lower case

Case mapping follows the full Unicode tables: a character may map to several, and a capital sigma
at the end of a word becomes the final form of the small one.
-/

namespace NoteForms.Text

/-- Whether a run covers a code point. -/
def CaseRun.covers (r : CaseRun) (n : Nat) : Bool :=
  r.first ≤ n && n ≤ r.last && (n - r.first) % r.step == 0

/-- The mapping of one character by its runs and sequences; a character of neither is kept. -/
def mapCase (runs : List CaseRun) (sequences : List (Nat × List Nat)) (c : Char) : List Char :=
  match sequences.find? fun s => s.1 == c.toNat with
  | some s => s.2.map Char.ofNat
  | none =>
    match runs.find? fun r => r.covers c.toNat with
    | some r => [Char.ofNat (c.toNat + r.shift).toNat]
    | none => [c]

/-- The upper case of one character. -/
def upperChar (c : Char) : List Char :=
  if c.toNat < 128 then [c.toUpper] else mapCase upperRuns upperSequences c

/-- The lower case of one character, outside of any word. -/
def lowerChar (c : Char) : List Char :=
  if c.toNat < 128 then [c.toLower] else mapCase lowerRuns lowerSequences c

/-- Whether the first character that case rules do not ignore has a case. -/
def nextIsCased (cs : List Char) : Bool :=
  match cs.dropWhile (inRanges caseIgnorableRanges) with
  | c :: _ => inRanges casedRanges c
  | [] => false

/-- The lower case of a text, read after the characters `before` (last one first).  A capital sigma
ends a word if a cased character comes before it and none after it. -/
def lowerChars (before : List Char) : List Char → List Char
  | [] => []
  | c :: cs =>
    (if c = 'Σ' then
      if nextIsCased before && !nextIsCased cs then ['ς'] else ['σ']
    else lowerChar c) ++ lowerChars (c :: before) cs

/-- A text in upper case. -/
def toUpper (s : String) : String := String.ofList (s.toList.flatMap upperChar)

/-- A text in lower case. -/
def toLower (s : String) : String := String.ofList (lowerChars [] s.toList)

end NoteForms.Text
