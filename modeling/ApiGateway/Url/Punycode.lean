/-
Labels with characters outside ASCII, written by their basic characters and the differences of the
others.

* `Punycode.encode` - a label in ASCII.
* `Punycode.decode?` - the label of its ASCII form.
-/

namespace ApiGateway.Url

namespace Punycode

/-- The digit of a number below 36: letters, then figures. -/
def digitChar (d : Nat) : Char := if d < 26 then Char.ofNat (97 + d) else Char.ofNat (22 + d)

def digitValue? (c : Char) : Option Nat :=
  if c.isLower then some (c.toNat - 97)
  else if c.isUpper then some (c.toNat - 65)
  else if c.isDigit then some (c.toNat - 22)
  else none

/-- The threshold of the digit at a position that is a multiple of 36. -/
def threshold (position bias : Nat) : Nat :=
  if position ≤ bias then 1 else if bias + 26 ≤ position then 26 else position - bias

/-- Divides a difference until it is small; counts the divisions. The fuel bounds their number. -/
def settle : Nat → Nat → Nat → Nat × Nat
  | 0, delta, k => (delta, k)
  | fuel + 1, delta, k => if 455 < delta then settle fuel (delta / 35) (k + 36) else (delta, k)

/-- The bias after a difference, given the number of characters then there. -/
def adapt (delta count : Nat) (first : Bool) : Nat :=
  let delta := if first then delta / 700 else delta / 2
  let (delta, k) := settle 16 (delta + delta / count) 0
  k + 36 * delta / (delta + 38)

/-- A difference as digits. The fuel bounds their number. -/
def encodeNumber (bias : Nat) : Nat → Nat → Nat → List Char
  | 0, _, _ => []
  | fuel + 1, position, q =>
    let t := threshold position bias
    if q < t then [digitChar q]
    else digitChar (t + (q - t) % (36 - t)) ::
      encodeNumber bias fuel (position + 36) ((q - t) / (36 - t))

structure State where
  output : List Char
  delta : Nat
  bias : Nat
  handled : Nat

/-- One character of the label while the characters with a code are put in. -/
def encodeChar (basic code : Nat) (s : State) (c : Char) : State :=
  if c.toNat < code then { s with delta := s.delta + 1 }
  else if c.toNat == code then
    { output := s.output ++ encodeNumber s.bias 32 36 s.delta
      delta := 0
      bias := adapt s.delta (s.handled + 1) (s.handled == basic)
      handled := s.handled + 1 }
  else s

/-- Puts in the characters of each code in turn, in ascending order. -/
def encodeCodes (label : List Char) (basic : Nat) : Nat → List Nat → State → State
  | _, [], s => s
  | next, code :: codes, s =>
    let s := { s with delta := s.delta + (code - next) * (s.handled + 1) }
    let s := label.foldl (encodeChar basic code) s
    encodeCodes label basic (code + 1) codes { s with delta := s.delta + 1 }

/-- Puts a number into an ascending list without repetition. -/
def insertCode (n : Nat) : List Nat → List Nat
  | [] => [n]
  | m :: ms => if n < m then n :: m :: ms else if n = m then m :: ms else m :: insertCode n ms

/-- A label as its basic characters, a hyphen if there are any, and the differences. -/
def encode (label : List Char) : List Char :=
  let basic := label.filter (·.toNat < 128)
  let codes := ((label.filter (128 ≤ ·.toNat)).map Char.toNat).foldr insertCode []
  let s := encodeCodes label basic.length 128 codes ⟨[], 0, 72, basic.length⟩
  basic ++ (if basic.isEmpty then [] else ['-']) ++ s.output

/-- The difference at the front of a text, and the rest. The weight of a digit fits into 32 bits. -/
def decodeNumber? (bias : Nat) : List Char → Nat → Nat → Nat → Option (Nat × List Char)
  | [], _, _, _ => none
  | c :: cs, position, weight, value => do
    let d ← digitValue? c
    let value := value + d * weight
    let t := threshold position bias
    if d < t then some (value, cs)
    else if Nat.pow 2 32 ≤ weight * (36 - t) then none
    else decodeNumber? bias cs (position + 36) (weight * (36 - t)) value

/-- Puts in the characters that differences tell, from a position on. The fuel is more than the
length of the text. -/
def decodeCodes? : Nat → List Char → Nat → Nat → Nat → List Char → Option (List Char)
  | 0, _, _, _, _, _ => none
  | _ + 1, [], _, _, _, output => some output
  | fuel + 1, cs, code, position, bias, output => do
    let (delta, rest) ← decodeNumber? bias cs 36 1 0
    let count := output.length + 1
    let code := code + (position + delta) / count
    let place := (position + delta) % count
    let bias := adapt delta count (position == 0)
    if 0x10FFFF < code || (0xD800 ≤ code && code < 0xE000) then none else
      let output := output.take place ++ Char.ofNat code :: output.drop place
      decodeCodes? fuel rest code (place + 1) bias output

/-- The label of an encoded one. A hyphen at the front ends no basic characters. -/
def decode? (cs : List Char) : Option (List Char) :=
  let tail := (cs.reverse.takeWhile (· ≠ '-')).reverse
  let basic := cs.take (cs.length - tail.length - 1)
  let tail := if basic.isEmpty then cs else tail
  decodeCodes? (tail.length + 1) tail 128 0 72 basic

end Punycode

end ApiGateway.Url
