import NoteForms.Text.Printable

/-!
# Quoted texts

A text shown in a message stands between double quotes, with the quotes, backslashes and all
characters that do not print escaped, so that what is shown can be told apart from what is around
it.
-/

namespace NoteForms.Text

/-- The lower case hexadecimal digits of a number, without leading zeros. -/
def hexText (n : Nat) : List Char := Nat.toDigits 16 n

/-- A character of a quoted text. -/
def quotedChar (c : Char) : List Char :=
  if c = '"' then ['\\', '"']
  else if c = '\\' then ['\\', '\\']
  else if c = '\n' then ['\\', 'n']
  else if c = '\r' then ['\\', 'r']
  else if c = '\t' then ['\\', 't']
  else if c.toNat = 0 then ['\\', '0']
  else if isExtending c || !isPrintable c then '\\' :: 'u' :: '{' :: hexText c.toNat ++ ['}']
  else [c]

/-- A text between quotes. -/
def quoted (s : String) : String :=
  String.ofList ('"' :: s.toList.flatMap quotedChar ++ ['"'])

end NoteForms.Text
