import ApiGateway.Double.Basic

/-
Decimal texts as binary64 numbers.

* `ofDecimal?` - the number nearest to a decimal, for numbers that arrive as text.
* `ofScaled?` - a significand times a power of ten, each step rounded: how JSON numbers are read.
* `parse?` - the numbers a text can denote: sign, digits, point, exponent.
-/

namespace ApiGateway.Double

/-- The value of a decimal digit. -/
def digitValue (c : Char) : Nat := c.toNat - 48

/-- The natural number with these decimal digits. -/
def digitsValue (ds : List Char) : Nat := ds.foldl (fun n c => 10 * n + digitValue c) 0

/-- The number nearest to `digits * 10 ^ exponent`; `none` when it overflows. The exponent is
looked at first, so that no power of ten far outside the range is computed. -/
def ofDecimal? (negative : Bool) (digits : Nat) (exponent : Int) : Option Double :=
  if digits = 0 then some (zero negative) else
    let k : Int := (Nat.toDigits 10 digits).length + exponent
    if 310 < k then none
    else if k < -330 then some (zero negative)
    else if 0 ≤ exponent then ofFraction? negative (digits * Nat.pow 10 exponent.toNat) 1
    else ofFraction? negative digits (Nat.pow 10 (-exponent).toNat)

/-- The number nearest to a power of ten of at most 308. -/
def powerOfTen (e : Nat) : Double := (ofFraction? false (Nat.pow 10 e) 1).getD (zero false)

/-- Multiplies or divides by a power of ten, rounding once for each factor of at most `10 ^ 308`;
`none` on overflow. The fuel bounds the number of divisions, after which nothing is left. -/
def scaleBy : Nat → Double → Int → Option Double
  | 0, x, _ => some x
  | fuel + 1, x, e =>
    if e.natAbs ≤ 308 then
      if 0 ≤ e then x.mul? (powerOfTen e.natAbs) else x.div? (powerOfTen e.natAbs)
    else if x.isZero then some x
    else if 0 ≤ e then none
    else match x.div? (powerOfTen 308) with
      | some y => scaleBy fuel y (e + 308)
      | none => none

/-- `significand * 10 ^ exponent`, rounded at the significand and at each factor. -/
def ofScaled? (negative : Bool) (significand : Nat) (exponent : Int) : Option Double := do
  let x ← scaleBy 8 (ofInt significand) exponent
  return { x with negative }

/-- The parts of an unsigned decimal: integer digits, digits after the point, exponent. -/
structure Parts where
  whole : List Char
  fraction : List Char
  exponent : Int
deriving Repr

/-- The exponent of a text that follows the mantissa: nothing, or a letter, a sign and digits. -/
def exponent? : List Char → Option Int
  | [] => some 0
  | c :: cs =>
    if c == 'e' || c == 'E' then
      let (negative, ds) := match cs with
        | '-' :: ds => (true, ds)
        | '+' :: ds => (false, ds)
        | ds => (false, ds)
      if ds.isEmpty || !ds.all Char.isDigit then none
      else some (if negative then -(digitsValue ds : Int) else digitsValue ds)
    else none

/-- The parts of an unsigned decimal with at least one digit. -/
def parts? (cs : List Char) : Option Parts := do
  let whole := cs.takeWhile Char.isDigit
  let rest := cs.dropWhile Char.isDigit
  let (fraction, rest) := match rest with
    | '.' :: ds => (ds.takeWhile Char.isDigit, ds.dropWhile Char.isDigit)
    | rest => ([], rest)
  if whole.isEmpty && fraction.isEmpty then none else
    return ⟨whole, fraction, ← exponent? rest⟩

/-- The finite number that a decimal text denotes: an optional sign, digits with an optional
point, an optional exponent. -/
def parse? (cs : List Char) : Option Double := do
  let (negative, cs) := match cs with
    | '-' :: cs => (true, cs)
    | '+' :: cs => (false, cs)
    | cs => (false, cs)
  let p ← parts? cs
  ofDecimal? negative (digitsValue (p.whole ++ p.fraction)) (p.exponent - p.fraction.length)

end ApiGateway.Double
