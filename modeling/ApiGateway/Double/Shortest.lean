import ApiGateway.Double.Basic

/-
The fewest decimal digits that read back as the same number.

A finite number stands for the reals that round to it: the interval `Double.Covers`, closed when
the significand is even. Among the decimals in that interval `shortest` takes one with the fewest
digits, and of those the nearest to the number.
-/

namespace ApiGateway.Double

/-- A decimal `digits * 10 ^ exponent`. -/
structure Decimal where
  digits : Nat
  exponent : Int
deriving DecidableEq, Repr

namespace Decimal

/-- Numerator and denominator of `10 ^ e`. -/
def power (e : Int) : Nat × Nat :=
  if 0 ≤ e then (Nat.pow 10 e.toNat, 1) else (1, Nat.pow 10 (-e).toNat)

/-- The same decimal without trailing zeros; the fuel bounds the number of digits. -/
def stripZeros : Nat → Decimal → Decimal
  | 0, d => d
  | fuel + 1, d =>
    if d.digits % 10 == 0 && d.digits != 0 then stripZeros fuel ⟨d.digits / 10, d.exponent + 1⟩
    else d

end Decimal

/-- The ends of the interval of reals that round to a nonzero number, in quarters of the last
place, over the common denominator of the second component. -/
def bounds (x : Double) : (Nat × Nat) × Nat :=
  let m := x.significand
  let low := if m = Nat.pow 2 52 ∧ 1 < x.scale then 4 * m - 1 else 4 * m - 2
  let high := 4 * m + 2
  if 1075 ≤ x.scale then
    let u := Nat.pow 2 (x.scale - 1075)
    ((low * u, high * u), 4)
  else ((low, high), 4 * Nat.pow 2 (1075 - x.scale))

/-- The decimal rounds to the number. -/
def covers (x : Double) (d : Decimal) : Bool :=
  let ((low, high), den) := x.bounds
  let (p, q) := Decimal.power d.exponent
  let v := d.digits * p * den
  if x.significand % 2 == 0 then low * q ≤ v && v ≤ high * q else low * q < v && v < high * q

/-- The decimal exponent of the first digit: `10 ^ (k - 1) ≤ |x| < 10 ^ k`. The fuel bounds the
number of leading zeros. -/
def leading (num den : Nat) : Nat → Int
  | 0 => 0
  | fuel + 1 => if den ≤ num then (Nat.toDigits 10 (num / den)).length
      else leading (num * 10) den fuel - 1

/-- The better of the two neighbours of the number on the grid of step `10 ^ e` among those that
read back. -/
def onGrid (x : Double) (e : Int) : Option Decimal :=
  let (n, d) := x.fraction
  let (p, q) := Decimal.power e
  let num := n * q
  let den := d * p
  let below : Decimal := ⟨num / den, e⟩
  let above : Decimal := ⟨num / den + 1, e⟩
  let r := 2 * (num % den)
  let nearer := if r < den || (r == den && below.digits % 2 == 0) then (below, above)
    else (above, below)
  if x.covers nearer.1 then some nearer.1 else if x.covers nearer.2 then some nearer.2 else none

/-- The fewest digits that read back, the nearest such; zero is `0`. -/
def shortest (x : Double) : Decimal :=
  if x.isZero then ⟨0, 0⟩ else
    let (n, d) := x.fraction
    let k := leading n d 400
    let found := (List.range 17).findSome? fun i => x.onGrid (k - (i + 1 : Nat))
    (found.getD ⟨0, 0⟩).stripZeros 20

end ApiGateway.Double
