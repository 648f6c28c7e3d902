import NoteForms.Json.Basic
import NoteForms.Json.Fault

/-!
# Reading JSON

Each reader takes the characters from its value on and returns the value with the characters left.
Values may be nested 127 deep.  Objects come out with their members in order of name, the last value
of a repeated name standing.

A real number is read in steps that each round: the digits that fit 64 bits, then one power of ten.
-/

namespace NoteForms.Json

/-- The blanks of JSON. -/
def isSpace (c : Char) : Bool := c = ' ' || c = '\n' || c = '\t' || c = '\r'

/-- The characters from the next one on that is not a blank. -/
def skipSpace (cs : List Char) : List Char := cs.dropWhile isSpace

/-- The value of a decimal digit. -/
def digitValue (c : Char) : Nat := c.toNat - 48

/-! ## Numbers -/

/-- The greatest number of 64 bits. -/
def wordMax : Nat := Nat.pow 2 64 - 1

/-- Digits as a number of 64 bits: the significand, and how many digits did not fit. -/
def scanDigits (digits : List Char) : Nat × Nat :=
  digits.foldl
    (fun (sig, dropped) c =>
      if dropped = 0 ∧ sig * 10 + digitValue c ≤ wordMax then (sig * 10 + digitValue c, 0)
      else (sig, dropped + 1))
    (0, 0)

/-- A significand continued by the digits of a fraction until one does not fit: the significand, and
how many digits were taken. -/
def scanFraction (sig taken : Nat) : List Char → Nat × Nat
  | [] => (sig, taken)
  | c :: cs =>
    if sig * 10 + digitValue c ≤ wordMax then scanFraction (sig * 10 + digitValue c) (taken + 1) cs
    else (sig, taken)

/-- The magnitude of a power of ten, rounded. -/
def powerOfTen (n : Nat) : Nat := Binary64.nearestMagnitude (Nat.pow 10 n * unitsPerOne) 1

/-- A magnitude times a power of ten, each step rounded; none when it overflows. -/
def scale (m : Nat) (exponent : Int) : Option Nat :=
  if 0 ≤ exponent then
    if exponent ≤ 308 then
      let product := Binary64.nearestMagnitude (m * powerOfTen exponent.toNat) unitsPerOne
      if product < Binary64.limit then some product else none
    else if m = 0 then some 0 else none
  else if -308 ≤ exponent then
    some (Binary64.nearestMagnitude (m * unitsPerOne) (powerOfTen (-exponent).toNat))
  else if m = 0 then some 0
  else scale (Binary64.nearestMagnitude (m * unitsPerOne) (powerOfTen 308)) (exponent + 308)
termination_by (-exponent).toNat
decreasing_by omega

/-- The number with this sign and magnitude, a negative zero being a case of its own. -/
def signedReal (negative : Bool) (m : Nat) : Option Number :=
  if m = 0 ∧ negative then some .negativeZero
  else (Binary64.ofMagnitude? negative m).map .real

/-- The real number with these parts, or a fault at the end of its text. -/
def realNumber (negative : Bool) (sig : Nat) (exponent : Int) (rest : List Char) :
    Reading Problem (Parsed Number) :=
  let m := Binary64.nearestMagnitude (sig * unitsPerOne) 1
  match (scale m exponent).bind (signedReal negative) with
  | some n => .ok (n, rest)
  | none => faultHere .numberOutOfRange rest

/-- The greatest exponent that is added up; a greater one stops the reading. -/
def exponentMax : Nat := Nat.pow 2 31 - 1

/-- The digits of an exponent: their value, or the rest after the digit that made it too great. -/
def scanExponent (value : Nat) : List Char → Except (List Char) (Nat × List Char)
  | [] => .ok (value, [])
  | c :: cs =>
    if c.isDigit then
      if value * 10 + digitValue c ≤ exponentMax then scanExponent (value * 10 + digitValue c) cs
      else .error cs
    else .ok (value, c :: cs)

/-- The exponent behind its mark, and the number it completes. -/
def readExponent (negative : Bool) (sig : Nat) (start : Int) (cs : List Char) :
    Reading Problem (Parsed Number) :=
  let (minus, digits) :=
    match cs with
    | '+' :: r => (false, r)
    | '-' :: r => (true, r)
    | r => (false, r)
  match digits with
  | [] => faultHere .endInValue []
  | c :: _ =>
    if c.isDigit then
      match scanExponent 0 digits with
      | .ok (e, rest) => realNumber negative sig (if minus then start - e else start + e) rest
      | .error rest =>
        if sig ≠ 0 ∧ !minus then faultHere .numberOutOfRange rest
        else realNumber negative 0 0 (rest.dropWhile Char.isDigit)
    else faultNext .invalidNumber digits

/-- The digits behind the point, and the number they belong to. -/
def readFraction (negative : Bool) (sig dropped : Nat) (cs : List Char) :
    Reading Problem (Parsed Number) :=
  let digits := cs.takeWhile Char.isDigit
  let rest := cs.dropWhile Char.isDigit
  if digits.isEmpty then
    if rest.isEmpty then faultHere .endInValue rest else faultNext .invalidNumber rest
  else
    let (sig, taken) := scanFraction sig 0 digits
    let exponent := (dropped : Int) - taken
    match rest with
    | 'e' :: r => readExponent negative sig exponent r
    | 'E' :: r => readExponent negative sig exponent r
    | _ => realNumber negative sig exponent rest

/-- What follows the whole digits of a number. -/
def readNumberEnd (negative : Bool) (sig dropped : Nat) :
    List Char → Reading Problem (Parsed Number)
  | '.' :: r => readFraction negative sig dropped r
  | 'e' :: r => readExponent negative sig dropped r
  | 'E' :: r => readExponent negative sig dropped r
  | rest =>
    if dropped ≠ 0 then realNumber negative sig dropped rest
    else if !negative then .ok (.integer sig, rest)
    else if sig = 0 then .ok (.negativeZero, rest)
    else if sig ≤ Nat.pow 2 63 then .ok (.integer (-sig), rest)
    else realNumber true sig 0 rest

/-- A number behind its sign. -/
def readNumber (negative : Bool) : List Char → Reading Problem (Parsed Number)
  | [] => faultHere .endInValue []
  | '0' :: c :: cs =>
    if c.isDigit then faultNext .invalidNumber (c :: cs)
    else readNumberEnd negative 0 0 (c :: cs)
  | c :: cs =>
    if c.isDigit then
      let (sig, dropped) := scanDigits ((c :: cs).takeWhile Char.isDigit)
      readNumberEnd negative sig dropped ((c :: cs).dropWhile Char.isDigit)
    else faultNext .invalidNumber (c :: cs)

/-! ## Strings -/

/-- The value of a hexadecimal digit. -/
def hexValue? (c : Char) : Option Nat :=
  if c.isDigit then some (c.toNat - 48)
  else if 'a' ≤ c ∧ c ≤ 'f' then some (c.toNat - 87)
  else if 'A' ≤ c ∧ c ≤ 'F' then some (c.toNat - 55)
  else none

/-- The four hexadecimal digits of an escape.  Four bytes are taken even when they are none. -/
def readHex : List Char → Reading Problem (Parsed Nat)
  | cs =>
    if Text.utf8Length (cs.take 4) < 4 then faultHere .endInString []
    else
      match cs with
      | a :: b :: c :: d :: rest =>
        match hexValue? a, hexValue? b, hexValue? c, hexValue? d with
        | some a, some b, some c, some d => .ok (((a * 16 + b) * 16 + c) * 16 + d, rest)
        | _, _, _, _ => .error ⟨.invalidEscape, ⟨cs, 4⟩⟩
      | _ => .error ⟨.invalidEscape, ⟨cs, 4⟩⟩

/-- The escape of the second half of a surrogate pair, after the first half `high`. -/
def readLowSurrogate (high : Nat) : List Char → Reading Problem (Parsed Char)
  | '\\' :: 'u' :: cs => do
    let (low, rest) ← readHex cs
    if 0xdc00 ≤ low ∧ low ≤ 0xdfff then
      return (Char.ofNat ((high - 0xd800) * 0x400 + (low - 0xdc00) + 0x10000), rest)
    else faultHere .loneSurrogate rest
  | '\\' :: [] => faultHere .endInString []
  | '\\' :: cs => faultNext .endOfSurrogatePair cs
  | [] => faultHere .endInString []
  | cs => faultNext .endOfSurrogatePair cs

/-- An escape behind its backslash. -/
def readEscape : List Char → Reading Problem (Parsed Char)
  | [] => faultHere .endInString []
  | c :: cs =>
    match c with
    | '"' => .ok ('"', cs)
    | '\\' => .ok ('\\', cs)
    | '/' => .ok ('/', cs)
    | 'b' => .ok ('\x08', cs)
    | 'f' => .ok ('\x0c', cs)
    | 'n' => .ok ('\n', cs)
    | 'r' => .ok ('\r', cs)
    | 't' => .ok ('\t', cs)
    | 'u' => do
      let (n, rest) ← readHex cs
      if 0xdc00 ≤ n ∧ n ≤ 0xdfff then faultHere .loneSurrogate rest
      else if 0xd800 ≤ n ∧ n ≤ 0xdbff then readLowSurrogate n rest
      else return (Char.ofNat n, rest)
    | _ => faultNext .invalidEscape (c :: cs)

/-- The rest of a string behind its opening quote; `fuel` bounds the characters. -/
def readStringBody : Nat → List Char → Reading Problem (Parsed (List Char))
  | 0, cs => faultHere .endInString cs
  | _, [] => faultHere .endInString []
  | fuel + 1, c :: cs =>
    if c = '"' then .ok ([], cs)
    else if c = '\\' then do
      let (d, rest) ← readEscape cs
      let (ds, rest) ← readStringBody fuel rest
      return (d :: ds, rest)
    else if c.toNat < 32 then faultNext .controlCharacter (c :: cs)
    else do
      let (ds, rest) ← readStringBody fuel cs
      return (c :: ds, rest)

/-- A string behind its opening quote. -/
def readString (cs : List Char) : Reading Problem (Parsed String) := do
  let (ds, rest) ← readStringBody (cs.length + 1) cs
  return (String.ofList ds, rest)

/-! ## Values -/

/-- The remaining letters of `null`, `true` or `false`. -/
def readWord (value : α) : List Char → List Char → Reading Problem (Parsed α)
  | [], cs => .ok (value, cs)
  | _ :: _, [] => faultHere .endInValue []
  | w :: ws, c :: cs => if c = w then readWord value ws cs else faultNext .expectedWord (c :: cs)

/-- Before an item of a list: the characters from the item on, or none and what follows the list. -/
def readItemStart (first : Bool) (cs : List Char) : Reading Problem (Parsed Bool) :=
  match skipSpace cs with
  | [] => faultHere .endInList []
  | ']' :: rest => .ok (false, rest)
  | c :: rest =>
    if first then .ok (true, c :: rest)
    else if c = ',' then
      match skipSpace rest with
      | [] => faultHere .endInValue []
      | ']' :: r => faultNext .trailingComma (']' :: r)
      | r => .ok (true, r)
    else faultNext .expectedListCommaOrEnd (c :: rest)

/-- Before a member of an object: the characters from its name on, behind the quote, or none and
what follows the object. -/
def readMemberStart (first : Bool) (cs : List Char) : Reading Problem (Parsed Bool) :=
  match skipSpace cs with
  | [] => faultHere .endInObject []
  | '}' :: rest => .ok (false, rest)
  | c :: rest =>
    if first then
      if c = '"' then .ok (true, rest) else faultNext .nameNotString (c :: rest)
    else if c = ',' then
      match skipSpace rest with
      | [] => faultHere .endInValue []
      | '"' :: r => .ok (true, r)
      | '}' :: r => faultNext .trailingComma ('}' :: r)
      | r => faultNext .nameNotString r
    else faultNext .expectedObjectCommaOrEnd (c :: rest)

/-- The colon between a name and its value. -/
def readColon (cs : List Char) : Reading Problem (Parsed Unit) :=
  match skipSpace cs with
  | [] => faultHere .endInObject []
  | ':' :: rest => .ok ((), rest)
  | rest => faultNext .expectedColon rest

/-- The items of a list behind its bracket, each read by `item`; `embed` puts problems of the list
among those of its items, and `fuel` bounds their number. -/
def readItems (embed : Problem → ε) (item : List Char → Reading ε (Parsed α)) :
    Nat → Bool → List Char → Reading ε (Parsed (List α))
  | 0, _, cs => faultHere (embed .endInList) cs
  | fuel + 1, first, cs => do
    let (more, rest) ← mapProblem embed (readItemStart first cs)
    if more then
      let (v, rest) ← item rest
      let (vs, rest) ← readItems embed item fuel false rest
      return (v :: vs, rest)
    else return ([], rest)

/-- The name of a member behind its quote, and the colon. -/
def readName (cs : List Char) : Reading Problem (Parsed String) := do
  let (name, rest) ← readString cs
  let ((), rest) ← readColon rest
  return (name, rest)

/-- The members of an object behind its brace, added to those before. -/
def readMembers (embed : Problem → ε) (item : List Char → Reading ε (Parsed α)) :
    Nat → Bool → List (String × α) → List Char → Reading ε (Parsed (List (String × α)))
  | 0, _, _, cs => faultHere (embed .endInObject) cs
  | fuel + 1, first, members, cs => do
    let (more, rest) ← mapProblem embed (readMemberStart first cs)
    if more then
      let (name, rest) ← mapProblem embed (readName rest)
      let (v, rest) ← item rest
      readMembers embed item fuel false (insertEntry name v members) rest
    else return (members, rest)

/-- How deep values may be nested. -/
def maxDepth : Nat := 127

/-- A value, in which lists and objects may be nested `depth` deep. -/
def readValue : Nat → List Char → Reading Problem (Parsed Json)
  | depth, cs =>
    match skipSpace cs with
    | [] => faultHere .endInValue []
    | 'n' :: rest => readWord .null ['u', 'l', 'l'] rest
    | 't' :: rest => readWord (.bool true) ['r', 'u', 'e'] rest
    | 'f' :: rest => readWord (.bool false) ['a', 'l', 's', 'e'] rest
    | '"' :: rest => do
      let (s, rest) ← readString rest
      return (.str s, rest)
    | '[' :: rest =>
      match depth with
      | 0 => faultNext .tooDeep ('[' :: rest)
      | depth + 1 => do
        let (vs, rest) ← readItems id (readValue depth) (rest.length + 1) true rest
        return (.arr vs, rest)
    | '{' :: rest =>
      match depth with
      | 0 => faultNext .tooDeep ('{' :: rest)
      | depth + 1 => do
        let (ms, rest) ← readMembers id (readValue depth) (rest.length + 1) true [] rest
        return (.obj ms, rest)
    | '-' :: rest => do
      let (n, rest) ← readNumber true rest
      return (.num n, rest)
    | c :: rest =>
      if c.isDigit then do
        let (n, rest) ← readNumber false (c :: rest)
        return (.num n, rest)
      else faultNext .expectedValue (c :: rest)

/-- Nothing but blanks may follow a value. -/
def readEnd (cs : List Char) : Reading Problem Unit :=
  match skipSpace cs with
  | [] => .ok ()
  | rest => faultNext .trailingCharacters rest

/-- The value of a text. -/
def readDocument (cs : List Char) : Reading Problem Json := do
  let (v, rest) ← readValue maxDepth cs
  readEnd rest
  return v

/-- The value of a text, or what is wrong with it and where. -/
def parse (text : String) : Except String Json :=
  match readDocument text.toList with
  | .ok v => .ok v
  | .error f => .error (locatedMessage f.problem.message (f.place.locate text.toList))

end NoteForms.Json
