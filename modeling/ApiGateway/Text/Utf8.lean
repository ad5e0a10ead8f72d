/-
Texts as bytes. A byte string is a list, so that its laws are those of lists.

* `encode` - the UTF-8 bytes of a text.
* `decode?` - the text whose UTF-8 bytes these are, if there is one.
* `decodeLossy` - the text with every broken sequence replaced by the replacement character.
-/

namespace ApiGateway

/-- A string of bytes. -/
abbrev Bytes := List UInt8

namespace Text

/-- The UTF-8 bytes of a text. -/
def encode (s : String) : Bytes := s.toByteArray.data.toList

/-- The text with these UTF-8 bytes; `none` when they are not valid UTF-8. -/
def decode? (bs : Bytes) : Option String := String.fromUTF8? ⟨bs.toArray⟩

/-- How many bytes follow a lead byte, and the range of the first of them; `none` for a byte that
opens no sequence. -/
def continuation? (b : UInt8) : Option (Nat × UInt8 × UInt8) :=
  if b < 0x80 then some (0, 0x80, 0xBF)
  else if b < 0xC2 then none
  else if b < 0xE0 then some (1, 0x80, 0xBF)
  else if b == 0xE0 then some (2, 0xA0, 0xBF)
  else if b == 0xED then some (2, 0x80, 0x9F)
  else if b < 0xF0 then some (2, 0x80, 0xBF)
  else if b == 0xF0 then some (3, 0x90, 0xBF)
  else if b < 0xF4 then some (3, 0x80, 0xBF)
  else if b == 0xF4 then some (3, 0x80, 0x8F)
  else none

/-- The length of the longest prefix that could still grow into `n` continuation bytes, the first
of them in the given range. -/
def continued (n : Nat) (lo hi : UInt8) : Bytes → Nat
  | [] => 0
  | b :: bs =>
    match n with
    | 0 => 0
    | n + 1 => if lo ≤ b && b ≤ hi then 1 + continued n 0x80 0xBF bs else 0

/-- Splits a byte string into valid sequences and broken ones; a broken one is the longest prefix
that could have opened a valid sequence, and at least one byte. -/
def sequences : Nat → Bytes → List Bytes
  | 0, _ => []
  | _, [] => []
  | fuel + 1, b :: bs =>
    let n := match continuation? b with
      | some (n, lo, hi) => continued n lo hi bs
      | none => 0
    (b :: bs.take n) :: sequences fuel (bs.drop n)

/-- The text with each broken sequence replaced by U+FFFD. -/
def decodeLossy (bs : Bytes) : String :=
  String.join ((sequences bs.length bs).map fun s => (decode? s).getD "\uFFFD")

end Text

end ApiGateway
