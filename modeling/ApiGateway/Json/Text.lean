import ApiGateway.Json.Basic
import ApiGateway.Double.Notation

/-
JSON values as text.

* `Json.text` - the compact text: no blanks, entries in stored order, control characters escaped.
* `Json.prettyText` - one item or entry a line, two blanks for each level.
-/

namespace ApiGateway.Json

/-- The lower-case digit of a number below sixteen. -/
def hexDigit (n : Nat) : Char := if n < 10 then Char.ofNat (48 + n) else Char.ofNat (87 + n)

/-- One character inside a JSON text: the quote, the backslash and the control characters are
escaped, by their short escape where there is one. -/
def escapeChar (c : Char) : List Char :=
  if c = '"' then ['\\', '"']
  else if c = '\\' then ['\\', '\\']
  else if c.toNat = 8 then ['\\', 'b']
  else if c.toNat = 9 then ['\\', 't']
  else if c.toNat = 10 then ['\\', 'n']
  else if c.toNat = 12 then ['\\', 'f']
  else if c.toNat = 13 then ['\\', 'r']
  else if c.toNat < 32 then
    ['\\', 'u', '0', '0', hexDigit (c.toNat / 16), hexDigit (c.toNat % 16)]
  else [c]

/-- A text in quotes. -/
def quoteChars (s : String) : List Char := '"' :: s.toList.flatMap escapeChar ++ ['"']

/-- The digits of an integer, with a minus if it is negative. -/
def intChars : Int → List Char
  | .ofNat n => Nat.toDigits 10 n
  | .negSucc n => '-' :: Nat.toDigits 10 (n + 1)

def Number.chars : Number → List Char
  | .int i => intChars i
  | .float x => x.jsonText

/-- A number as text. -/
def Number.text (n : Number) : String := String.ofList n.chars

mutual
/-- The compact text of a value. -/
def chars : Json → List Char
  | .null => ['n', 'u', 'l', 'l']
  | .bool true => ['t', 'r', 'u', 'e']
  | .bool false => ['f', 'a', 'l', 's', 'e']
  | .number n => n.chars
  | .string s => quoteChars s
  | .array [] => ['[', ']']
  | .array (v :: vs) => '[' :: chars v ++ itemsChars vs
  | .object [] => ['{', '}']
  | .object ((k, v) :: es) => '{' :: quoteChars k ++ ':' :: chars v ++ entriesChars es

def itemsChars : List Json → List Char
  | [] => [']']
  | v :: vs => ',' :: chars v ++ itemsChars vs

def entriesChars : List (String × Json) → List Char
  | [] => ['}']
  | (k, v) :: es => ',' :: quoteChars k ++ ':' :: chars v ++ entriesChars es
end

/-- The compact text of a value. -/
def text (v : Json) : String := String.ofList v.chars

/-- A new line at a level. -/
def lineBreak (level : Nat) : List Char := '\n' :: List.replicate (2 * level) ' '

mutual
/-- The text of a value with one item or entry a line. -/
def prettyChars (level : Nat) : Json → List Char
  | .array (v :: vs) =>
    '[' :: lineBreak (level + 1) ++ prettyChars (level + 1) v ++ prettyItems level vs
  | .object ((k, v) :: es) =>
    '{' :: lineBreak (level + 1) ++ quoteChars k ++ ':' :: ' ' :: prettyChars (level + 1) v ++
      prettyEntries level es
  | .array [] => ['[', ']']
  | .object [] => ['{', '}']
  | .null => chars .null
  | .bool b => chars (.bool b)
  | .number n => n.chars
  | .string s => quoteChars s

def prettyItems (level : Nat) : List Json → List Char
  | [] => lineBreak level ++ [']']
  | v :: vs => ',' :: lineBreak (level + 1) ++ prettyChars (level + 1) v ++ prettyItems level vs

def prettyEntries (level : Nat) : List (String × Json) → List Char
  | [] => lineBreak level ++ ['}']
  | (k, v) :: es =>
    ',' :: lineBreak (level + 1) ++ quoteChars k ++ ':' :: ' ' :: prettyChars (level + 1) v ++
      prettyEntries level es
end

/-- The text of a value with one item or entry a line. -/
def prettyText (v : Json) : String := String.ofList (prettyChars 0 v)

end ApiGateway.Json
