import ApiGateway.Text.Composition.Pairs
import ApiGateway.Text.Composition.Classes

/-
Texts in composed form: a letter and its accents are one character where there is one, and accents
stand in a fixed order.

* `decompose` - a text with all characters taken apart and the combining ones in order.
* `compose` - the composed form of a text.
-/

namespace ApiGateway.Text

/-! ### Syllables of Hangul -/

/-- The syllables, in the order of their first, middle and last sounds. -/
def isSyllable (c : Char) : Bool := 0xAC00 ≤ c.toNat && c.toNat < 0xAC00 + 11172

/-- The sounds of a syllable. -/
def sounds (c : Char) : List Char :=
  let n := c.toNat - 0xAC00
  let ending := n % 28
  Char.ofNat (0x1100 + n / 588) :: Char.ofNat (0x1161 + n % 588 / 28) ::
    if ending = 0 then [] else [Char.ofNat (0x11A7 + ending)]

/-- The syllable of a first and a middle sound, or of an open syllable and a last sound. -/
def syllable? (a b : Char) : Option Char :=
  let first := a.toNat - 0x1100
  let middle := b.toNat - 0x1161
  let opened := a.toNat - 0xAC00
  let ending := b.toNat - 0x11A7
  if 0x1100 ≤ a.toNat && first < 19 && 0x1161 ≤ b.toNat && middle < 21 then
    some (Char.ofNat (0xAC00 + (first * 21 + middle) * 28))
  else if isSyllable a && opened % 28 == 0 && 0x11A7 < b.toNat && ending < 28 then
    some (Char.ofNat (a.toNat + ending))
  else none

/-! ### Taking apart -/

/-- The characters that compose one. The first of them may be composed in turn, four deep. -/
def parts : Nat → Char → List Char
  | 0, c => [c]
  | depth + 1, c =>
    if c.toNat < 0xC0 then [c]
    else if isSyllable c then sounds c
    else match (pairs.find? c).map (·.value) with
      | some [a, b] => parts depth (Char.ofNat a) ++ [Char.ofNat b]
      | _ => [c]

/-- Puts a character before a text, behind those combining characters that come first. -/
def insertOrdered (c : Char) : List Char → List Char
  | [] => [c]
  | d :: ds =>
    if combiningClass d ≠ 0 && combiningClass d < combiningClass c then d :: insertOrdered c ds
    else c :: d :: ds

/-- A text taken apart; combining characters are ordered by their class. -/
def decompose (cs : List Char) : List Char := (cs.flatMap (parts 4)).foldr insertOrdered []

/-! ### Putting together -/

/-- The character that two compose. -/
def composed? (a b : Char) : Option Char :=
  match syllable? a b with
  | some c => some c
  | none =>
    if b.toNat < 0x300 then none
    else (List.find? (·.value == [a.toNat, b.toNat]) pairs).map fun row => Char.ofNat row.first

/-- The composed form of a text that follows a character. `held` are the combining characters in
between, the last one first: one of them keeps those of its class and below from the character. -/
def composeAfter (base : Char) (held : List Char) : List Char → List Char
  | [] => base :: held.reverse
  | c :: cs =>
    let blocked := held.head?.any fun d => combiningClass c ≤ combiningClass d
    match if blocked then none else composed? base c with
    | some b => composeAfter b held cs
    | none =>
      if combiningClass c = 0 then base :: held.reverse ++ composeAfter c [] cs
      else composeAfter base (c :: held) cs

/-- The composed form of a text. Combining characters at its front stay as they are. -/
def compose (cs : List Char) : List Char :=
  let cs := decompose cs
  cs.takeWhile (combiningClass · ≠ 0) ++
    match cs.dropWhile (combiningClass · ≠ 0) with
    | [] => []
    | c :: cs => composeAfter c [] cs

end ApiGateway.Text
