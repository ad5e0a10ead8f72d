/-
Finite binary64 numbers as integers, so that order, rounding and conversion are statements about
natural numbers.

* `Double` - a sign and a magnitude word; the magnitude words of the finite numbers are exactly
  those below `Double.infinityWord`, in the order of the numbers they stand for.
* `Double.fraction` - the absolute value as a quotient of natural numbers.
* `Double.nearest` - the magnitude word nearest to a quotient, a tie going to the even word.
* `Double.compare` - the order of the numbers; the two zeros are equal.
* `Double.ofInt`, `Double.truncate` - to and from integers.
-/

namespace ApiGateway

/-- The first magnitude word that stands for no finite number. -/
def Double.infinityWord : Nat := 0x7FF0000000000000

/-- A finite binary64 number: sign and magnitude word. -/
structure Double where
  negative : Bool
  word : Nat
  finite : word < Double.infinityWord
deriving DecidableEq

namespace Double

/-- The zero of the given sign. -/
def zero (negative : Bool) : Double := ⟨negative, 0, by decide⟩

instance : Inhabited Double := ⟨zero false⟩

/-- The biased exponent; words of exponent zero share the exponent one. -/
def scale (x : Double) : Nat := max 1 (x.word / Nat.pow 2 52)

/-- The integer significand: `|x| = significand * 2 ^ (scale - 1075)`. -/
def significand (x : Double) : Nat :=
  if x.word < Nat.pow 2 52 then x.word else x.word % Nat.pow 2 52 + Nat.pow 2 52

/-- The absolute value as numerator and positive denominator. -/
def fraction (x : Double) : Nat × Nat :=
  if 1075 ≤ x.scale then (x.significand * Nat.pow 2 (x.scale - 1075), 1)
  else (x.significand, Nat.pow 2 (1075 - x.scale))

/-- The integer nearest to a quotient, a tie going to the even one. -/
def roundQuotient (num den : Nat) : Nat :=
  let q := num / den
  let r := 2 * (num % den)
  if den < r || (r == den && q % 2 == 1) then q + 1 else q

/-- A quotient in units of the last place at the given scale. -/
def inUnits (num den scale : Nat) : Nat × Nat :=
  if scale ≤ 1075 then (num * Nat.pow 2 (1075 - scale), den)
  else (num, den * Nat.pow 2 (scale - 1075))

/-- The scale at which a quotient has a significand of 53 bits, or the least one. -/
def scaleOf (num den : Nat) : Nat :=
  let s := max 1 (1023 + num.log2 - den.log2 - 1)
  let (n, d) := inUnits num den s
  if Nat.pow 2 53 ≤ n / d then s + 1 else s

/-- The magnitude word nearest to a quotient, a tie going to the even word. Words past the last
finite one are kept, so that overflow can be seen. -/
def nearest (num den : Nat) : Nat :=
  if num = 0 then 0 else
    let s := scaleOf num den
    let (n, d) := inUnits num den s
    (s - 1) * Nat.pow 2 52 + roundQuotient n d

/-- The number with a magnitude word; `none` past the last finite one. -/
def ofWord? (negative : Bool) (word : Nat) : Option Double :=
  if h : word < infinityWord then some ⟨negative, word, h⟩ else none

/-- The number nearest to a signed quotient; `none` when it overflows. -/
def ofFraction? (negative : Bool) (num den : Nat) : Option Double :=
  ofWord? negative (nearest num den)

/-- The product, rounded; `none` when it overflows. -/
def mul? (x y : Double) : Option Double :=
  let (a, b) := x.fraction
  let (c, d) := y.fraction
  ofFraction? (x.negative != y.negative) (a * c) (b * d)

/-- The quotient by a number other than zero, rounded; `none` when it overflows. -/
def div? (x y : Double) : Option Double :=
  let (a, b) := x.fraction
  let (c, d) := y.fraction
  ofFraction? (x.negative != y.negative) (a * d) (b * c)

/-- The number of the other sign. -/
def neg (x : Double) : Double := { x with negative := !x.negative }

def isZero (x : Double) : Bool := x.word == 0

/-- The magnitude word with its sign, as an integer: the order key of the finite numbers. -/
def key (x : Double) : Int := if x.negative then -(x.word : Int) else x.word

/-- The order of the numbers; the two zeros are equal. -/
protected def compare (x y : Double) : Ordering := compareOfLessAndEq x.key y.key

/-- The integer part, toward zero. -/
def truncate (x : Double) : Int :=
  let (n, d) := x.fraction
  if x.negative then -((n / d : Nat) : Int) else ((n / d : Nat) : Int)

/-- The number is an integer. -/
def isIntegral (x : Double) : Bool :=
  let (n, d) := x.fraction
  n % d == 0

/-- The number nearest to an integer of at most 64 bits, which never overflows. -/
def ofInt (i : Int) : Double := (ofFraction? (i < 0) i.natAbs 1).getD (zero false)

end Double

end ApiGateway
