import NoteForms.Number.Typed
import NoteForms.Text.Blank

/-!
# Stamps

A stamp is a minute of the calendar.  It is written as year, month and day, an underscore, hour and
minute, and read back leniently: blanks may stand before each part, and a year may have a sign.
-/

namespace NoteForms

/-- A minute of the calendar. -/
structure Stamp where
  year : Int
  month : Nat
  day : Nat
  hour : Nat
  minute : Nat
  deriving DecidableEq

namespace Stamp

/-- Whether a year has a 29th of February. -/
def isLeapYear (year : Int) : Bool := year % 4 = 0 && (year % 100 ≠ 0 || year % 400 = 0)

/-- The number of days of a month. -/
def daysOf (year : Int) (month : Nat) : Nat :=
  if month = 2 then if isLeapYear year then 29 else 28
  else if month = 4 ∨ month = 6 ∨ month = 9 ∨ month = 11 then 30
  else 31

/-- Whether the parts name a minute that the calendar has. -/
def isValid (s : Stamp) : Bool :=
  1 ≤ s.month && s.month ≤ 12 && 1 ≤ s.day && s.day ≤ daysOf s.year s.month && s.hour < 24
    && s.minute < 60

/-- The parts, the greatest first, by which stamps are compared. -/
def parts (s : Stamp) : List Int := [s.year, s.month, s.day, s.hour, s.minute]

/-! ## Writing -/

/-- A number with zeros in front up to a number of digits. -/
def padded (width n : Nat) : List Char :=
  let digits := Nat.toDigits 10 n
  List.replicate (width - digits.length) '0' ++ digits

/-- A stamp as text. -/
def text (s : Stamp) : String :=
  String.ofList (padded 4 s.year.toNat ++ padded 2 s.month ++ padded 2 s.day ++ '_'
    :: padded 2 s.hour ++ padded 2 s.minute)

/-! ## Reading -/

/-- The number at the start of some characters, of at most so many digits. -/
def scan? (width : Nat) (cs : List Char) : Option (Nat × List Char) :=
  let digits := (cs.take width).takeWhile Char.isDigit
  if digits.isEmpty then none else some (digitsValue digits, cs.drop digits.length)

/-- The year at the start of some characters: of four digits, or of any number behind a sign. -/
def scanYear? (cs : List Char) : Option (Int × List Char) :=
  match Text.dropBlanks cs with
  | '-' :: rest => (scan? rest.length rest).map fun r => (-(r.1 : Int), r.2)
  | '+' :: rest => (scan? rest.length rest).map fun r => ((r.1 : Int), r.2)
  | rest => (scan? 4 rest).map fun r => ((r.1 : Int), r.2)

/-- A part of two digits. -/
def scanPart? (cs : List Char) : Option (Nat × List Char) := scan? 2 (Text.dropBlanks cs)

/-- The stamp that some characters spell without an underscore. -/
def ofChars? (cs : List Char) : Option Stamp := do
  let (year, cs) ← scanYear? cs
  let (month, cs) ← scanPart? cs
  let (day, cs) ← scanPart? cs
  let (hour, cs) ← scanPart? cs
  let (minute, cs) ← scanPart? cs
  let s : Stamp := ⟨year, month, day, hour, minute⟩
  if cs.isEmpty && s.isValid then some s else none

/-! ## Counting -/

/-- The date of a day, counted from the first of March of the year 0. -/
def dateOfDay (day : Nat) : Nat × Nat × Nat :=
  let era := day / 146097
  let ofEra := day % 146097
  let year := (ofEra - ofEra / 1460 + ofEra / 36524 - ofEra / 146096) / 365
  let ofYear := ofEra - (365 * year + year / 4 - year / 100)
  let index := (5 * ofYear + 2) / 153
  let month := if index < 10 then index + 3 else index - 9
  (year + era * 400 + (if month ≤ 2 then 1 else 0), month, ofYear - (153 * index + 2) / 5 + 1)

/-- The minute that so many seconds after the start of 1970 fall in. -/
def ofSeconds (seconds : Nat) : Stamp :=
  let (year, month, day) := dateOfDay (seconds / 86400 + 719468)
  ⟨year, month, day, seconds % 86400 / 3600, seconds % 3600 / 60⟩

end Stamp

end NoteForms
