import ApiGateway.Text.Printable
import ApiGateway.Json.Text

/-
Texts in quotes, for messages and listings: unprintable characters are written by their number.
-/

namespace ApiGateway.Text

/-- The digits of a number in base sixteen. -/
def hexChars (n : Nat) : List Char := Nat.toDigits 16 n

/-- One character within quotes. -/
def quoteChar (c : Char) : List Char :=
  if c = '"' then ['\\', '"']
  else if c = '\\' then ['\\', '\\']
  else if c = '\n' then ['\\', 'n']
  else if c = '\r' then ['\\', 'r']
  else if c = '\t' then ['\\', 't']
  else if c.toNat = 0 then ['\\', '0']
  else if isPrintable c then [c]
  else ['\\', 'u', '{'] ++ hexChars c.toNat ++ ['}']

/-- The text in double quotes. -/
def quoted (s : String) : String := String.ofList ('"' :: s.toList.flatMap quoteChar ++ ['"'])

end ApiGateway.Text
