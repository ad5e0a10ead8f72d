import ApiGateway.Double.Shortest

/-
The three texts of a number.

* `jsonText` - in JSON: always a point or an exponent, positional from `1e-5` to below `1e16`.
* `plainText` - in comparisons: positional throughout, no point for an integer.
* `fixedText` - in formats: a fixed number of places, a half going to the even neighbour.
-/

namespace ApiGateway.Double

/-- The sign as it is written: only a minus. -/
def signText (x : Double) : List Char := if x.negative then ['-'] else []

def digitChars (n : Nat) : List Char := Nat.toDigits 10 n

def zeros (n : Nat) : List Char := List.replicate n '0'

/-- Digits with the point after the first `k`; `k` is at least one and less than their number. -/
def pointed (ds : List Char) (k : Nat) : List Char := ds.take k ++ '.' :: ds.drop k

/-- A decimal in positional notation; `whole` follows the digits of an integer. -/
def positional (d : Decimal) (whole : List Char) : List Char :=
  let ds := digitChars d.digits
  let k : Int := ds.length + d.exponent
  if 0 ≤ d.exponent then ds ++ zeros d.exponent.toNat ++ whole
  else if 0 < k then pointed ds k.toNat
  else '0' :: '.' :: zeros (-k).toNat ++ ds

/-- A decimal with one digit before the point and a signed exponent. -/
def scientific (d : Decimal) : List Char :=
  let ds := digitChars d.digits
  let e : Int := ds.length + d.exponent - 1
  let mantissa := if ds.length ≤ 1 then ds else pointed ds 1
  mantissa ++ 'e' :: (if e < 0 then '-' else '+') :: digitChars e.natAbs

/-- The number as JSON: positional when the first digit stands from five places after the point
to sixteen before it. -/
def jsonText (x : Double) : List Char :=
  let d := x.shortest
  let k : Int := (digitChars d.digits).length + d.exponent
  x.signText ++ if -5 < k ∧ k ≤ 16 then positional d ['.', '0'] else scientific d

/-- The number in positional notation, without a point for an integer. -/
def plainText (x : Double) : List Char := x.signText ++ positional x.shortest []

/-- The number with a fixed number of places, a half going to the even neighbour. -/
def fixedText (places : Nat) (x : Double) : List Char :=
  let (n, d) := x.fraction
  let units := digitChars (roundQuotient (n * Nat.pow 10 places) d)
  let padded := zeros (places + 1 - units.length) ++ units
  x.signText ++ pointed padded (padded.length - places)

end ApiGateway.Double
