import NoteForms.Json.Basic

/-!
# JSON text

The compact form has no blanks; the indented form puts every item and member on a line of its own,
two blanks deeper than what holds it.
-/

namespace NoteForms.Json

/-- The hexadecimal digit of a number below 16. -/
def hexDigit (n : Nat) : Char := if n < 10 then Char.ofNat (48 + n) else Char.ofNat (87 + n)

/-- A character inside a string: quotes, backslashes and control characters are escaped. -/
def escapeChar (c : Char) : List Char :=
  if c = '"' then ['\\', '"']
  else if c = '\\' then ['\\', '\\']
  else if c.toNat = 8 then ['\\', 'b']
  else if c.toNat = 9 then ['\\', 't']
  else if c.toNat = 10 then ['\\', 'n']
  else if c.toNat = 12 then ['\\', 'f']
  else if c.toNat = 13 then ['\\', 'r']
  else if c.toNat < 32 then
    ['\\', 'u', '0', '0', hexDigit (c.toNat / 16), hexDigit (c.toNat % 16)]
  else [c]

/-- A text as a JSON string. -/
def quote (s : String) : List Char := '"' :: s.toList.flatMap escapeChar ++ ['"']

/-- A number of a JSON text, which keeps a fraction if it is not an integer. -/
def Number.write : Number → List Char
  | .integer n => writeInt n
  | .real x => NumberLayout.json.writeReal x
  | .negativeZero => ['-', '0', '.', '0']

mutual

/-- A value without blanks. -/
def write : Json → List Char
  | .null => ['n', 'u', 'l', 'l']
  | .bool true => ['t', 'r', 'u', 'e']
  | .bool false => ['f', 'a', 'l', 's', 'e']
  | .num n => n.write
  | .str s => quote s
  | .arr [] => ['[', ']']
  | .arr (v :: vs) => '[' :: write v ++ writeItems vs ++ [']']
  | .obj [] => ['{', '}']
  | .obj ((k, v) :: ms) => '{' :: quote k ++ ':' :: write v ++ writeMembers ms ++ ['}']

/-- The items after the first. -/
def writeItems : List Json → List Char
  | [] => []
  | v :: vs => ',' :: write v ++ writeItems vs

/-- The members after the first. -/
def writeMembers : List (String × Json) → List Char
  | [] => []
  | (k, v) :: ms => ',' :: quote k ++ ':' :: write v ++ writeMembers ms

end

/-- The compact text of a value. -/
def compact (v : Json) : String := String.ofList v.write

/-- The start of a line at some depth. -/
def newLine (depth : Nat) : List Char := '\n' :: List.replicate (2 * depth) ' '

mutual

/-- A value with its items and members on lines of their own. -/
def writeIndented (depth : Nat) : Json → List Char
  | .arr (v :: vs) =>
    '[' :: newLine (depth + 1) ++ writeIndented (depth + 1) v ++ writeIndentedItems (depth + 1) vs
      ++ newLine depth ++ [']']
  | .obj ((k, v) :: ms) =>
    '{' :: newLine (depth + 1) ++ quote k ++ ':' :: ' ' :: writeIndented (depth + 1) v
      ++ writeIndentedMembers (depth + 1) ms ++ newLine depth ++ ['}']
  | v => write v

/-- The items after the first. -/
def writeIndentedItems (depth : Nat) : List Json → List Char
  | [] => []
  | v :: vs => ',' :: newLine depth ++ writeIndented depth v ++ writeIndentedItems depth vs

/-- The members after the first. -/
def writeIndentedMembers (depth : Nat) : List (String × Json) → List Char
  | [] => []
  | (k, v) :: ms =>
    ',' :: newLine depth ++ quote k ++ ':' :: ' ' :: writeIndented depth v
      ++ writeIndentedMembers depth ms

end

/-- The indented text of a value. -/
def indented (v : Json) : String := String.ofList (v.writeIndented 0)

end NoteForms.Json
