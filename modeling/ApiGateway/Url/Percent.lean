import ApiGateway.Text.Utf8

/-
Percent encoding: the characters that each part of a url cannot hold are written as bytes in
hexadecimal.

* `encodeSet` - the characters of each part that are encoded; those outside ASCII always are.
* `encodeChars`, `decodeBytes` - encoding and decoding.
-/

namespace ApiGateway.Url

/-- The parts of a url that are encoded. -/
inductive Part where
  | control
  | fragment
  | query
  | specialQuery
  | path
  | userinfo
deriving DecidableEq

/-- The ASCII characters that are encoded in a part, control characters apart. -/
def Part.characters : Part → List Char
  | .control => []
  | .fragment => [' ', '"', '<', '>', '\x60']
  | .query => [' ', '"', '#', '<', '>']
  | .specialQuery => [' ', '"', '#', '<', '>', '\'']
  | .path => [' ', '"', '<', '>', '\x60', '#', '?', '{', '}']
  | .userinfo => [' ', '"', '<', '>', '\x60', '#', '?', '{', '}', '/', ':', ';', '=', '@', '[',
      '\\', ']', '^', '|']

/-- The character is encoded in a part. -/
def Part.encodes (part : Part) (c : Char) : Bool :=
  c.toNat < 0x20 || 0x7E < c.toNat || part.characters.contains c

/-- The capital digit of a number below sixteen. -/
def hexDigit (n : Nat) : Char := if n < 10 then Char.ofNat (48 + n) else Char.ofNat (55 + n)

def encodeByte (b : UInt8) : List Char := ['%', hexDigit (b.toNat / 16), hexDigit (b.toNat % 16)]

/-- A text with the characters that a part cannot hold encoded. -/
def encodeChars (part : Part) (cs : List Char) : List Char :=
  cs.flatMap fun c =>
    if part.encodes c then (Text.encode c.toString).flatMap encodeByte else [c]

/-- The value of a hexadecimal digit. -/
def hexValue? (c : Char) : Option Nat :=
  if c.isDigit then some (c.toNat - 48)
  else if 'a' ≤ c && c ≤ 'f' then some (c.toNat - 87)
  else if 'A' ≤ c && c ≤ 'F' then some (c.toNat - 55)
  else none

/-- The byte of two hexadecimal digits. -/
def encodedByte? (a b : Char) : Option UInt8 := do
  return UInt8.ofNat ((← hexValue? a) * 16 + (← hexValue? b))

/-- The bytes of a text, encoded ones decoded; a percent sign without digits stays. -/
def decodeBytes : List Char → Bytes
  | '%' :: a :: b :: cs =>
    match encodedByte? a b with
    | some byte => byte :: decodeBytes cs
    | none => 0x25 :: decodeBytes (a :: b :: cs)
  | c :: cs => Text.encode c.toString ++ decodeBytes cs
  | [] => []

end ApiGateway.Url
