import ApiGateway.Double.Basic
import Mathlib.Algebra.Order.Field.Rat
import Mathlib.Order.Monotone.Basic
import Mathlib.Tactic.FieldSimp
import Mathlib.Tactic.Linarith

/-
The order of the finite numbers.

All finite numbers are multiples of the least positive one, `2 ^ -1074`, and a greater magnitude
word stands for a greater multiple. So the words, with their signs, are in the order of the numbers.

* `Double.value` - the rational number that a finite number is.
* `Double.multiple` - the multiple that a magnitude word stands for, `Double.multiple_strictMono`.
* `Double.compare_eq` - numbers are ordered by their values.
-/

namespace ApiGateway.Double

/-- The rational number that a finite number is. -/
def value (x : Double) : ℚ :=
  if x.negative then -((x.fraction.1 : ℚ) / x.fraction.2) else (x.fraction.1 : ℚ) / x.fraction.2

/-! ### Magnitude words -/

/-- The multiple of `2 ^ -1074` that a magnitude word stands for. -/
def multiple (word : Nat) : Nat :=
  (if word < 2 ^ 52 then word else word % 2 ^ 52 + 2 ^ 52) * 2 ^ (max 1 (word / 2 ^ 52) - 1)

theorem multiple_zero : multiple 0 = 0 := by decide

/-- Words of the biased exponents zero and one count on; from there on each exponent doubles. -/
theorem multiple_eq {exponent rest : Nat} (below : rest < 2 ^ 52) :
    multiple (2 ^ 52 * exponent + rest) =
      if exponent = 0 then rest else (rest + 2 ^ 52) * 2 ^ (exponent - 1) := by
  have quotient : (2 ^ 52 * exponent + rest) / 2 ^ 52 = exponent := by omega
  have remainder : (2 ^ 52 * exponent + rest) % 2 ^ 52 = rest := by omega
  rw [multiple, quotient, remainder]
  by_cases least : exponent = 0
  · subst least
    have small : 2 ^ 52 * 0 + rest < 2 ^ 52 := by omega
    rw [if_pos small, if_pos rfl]
    simp
  · have large : ¬ 2 ^ 52 * exponent + rest < 2 ^ 52 := by omega
    have scale : max 1 exponent = exponent := by omega
    rw [if_neg large, if_neg least, scale]

theorem multiple_lt_succ (word : Nat) : multiple word < multiple (word + 1) := by
  obtain ⟨exponent, rest, below, rfl⟩ : ∃ exponent rest, rest < 2 ^ 52 ∧
      word = 2 ^ 52 * exponent + rest :=
    ⟨word / 2 ^ 52, word % 2 ^ 52, Nat.mod_lt _ (by decide), (Nat.div_add_mod _ _).symm⟩
  by_cases full : rest + 1 = 2 ^ 52
  · -- The next word has the next exponent and the least significand of it.
    have next : 2 ^ 52 * exponent + rest + 1 = 2 ^ 52 * (exponent + 1) + 0 := by omega
    rw [next, multiple_eq below, multiple_eq (by decide), if_neg (Nat.succ_ne_zero exponent)]
    split
    · next least =>
      subst least
      omega
    · next other =>
      obtain ⟨e, rfl⟩ := Nat.exists_eq_succ_of_ne_zero other
      have double : (0 + 2 ^ 52) * 2 ^ (e + 1 + 1 - 1) = 2 ^ 53 * 2 ^ e := by
        rw [Nat.add_sub_cancel, Nat.pow_succ 2 e]
        omega
      rw [double, Nat.succ_sub_one]
      exact Nat.mul_lt_mul_of_pos_right (by omega) (Nat.two_pow_pos e)
  · have within : rest + 1 < 2 ^ 52 := by omega
    rw [Nat.add_assoc, multiple_eq below, multiple_eq within]
    split
    · exact Nat.lt_succ_self rest
    · exact Nat.mul_lt_mul_of_pos_right (by omega) (Nat.two_pow_pos _)

theorem multiple_strictMono : StrictMono multiple := strictMono_nat_of_lt_succ multiple_lt_succ

/-! ### Numbers -/

/-- The absolute value is the multiple of the magnitude word. -/
theorem fraction_eq (x : Double) :
    (x.fraction.1 : ℚ) / x.fraction.2 = multiple x.word / 2 ^ 1074 := by
  have multiple : multiple x.word = x.significand * 2 ^ (x.scale - 1) := by
    simp only [multiple, significand, scale, Nat.pow_eq]
  have positive : 1 ≤ x.scale := Nat.le_max_left _ _
  have cross : x.fraction.2 ≠ 0 ∧
      x.fraction.1 * 2 ^ 1074 = x.significand * 2 ^ (x.scale - 1) * x.fraction.2 := by
    rw [fraction]
    split
    · have sum : x.scale - 1075 + 1074 = x.scale - 1 := by omega
      refine ⟨Nat.one_ne_zero, ?_⟩
      dsimp only
      rw [Nat.mul_one, Nat.mul_assoc, Nat.pow_eq, ← Nat.pow_add, sum]
    · have sum : x.scale - 1 + (1075 - x.scale) = 1074 := by omega
      refine ⟨(Nat.two_pow_pos _).ne', ?_⟩
      dsimp only
      rw [Nat.mul_assoc, Nat.pow_eq, ← Nat.pow_add, sum]
  have denominator : (x.fraction.2 : ℚ) ≠ 0 := Nat.cast_ne_zero.mpr cross.1
  rw [multiple, div_eq_div_iff denominator (by positivity)]
  have cast := congrArg (Nat.cast (R := ℚ)) cross.2
  simpa only [Nat.cast_mul, Nat.cast_pow, Nat.cast_ofNat] using cast

/-- The multiple for an order key. -/
def signedMultiple (key : Int) : Int :=
  if key < 0 then -(multiple key.natAbs : Int) else multiple key.natAbs

theorem signedMultiple_lt {a b : Int} (less : a < b) : signedMultiple a < signedMultiple b := by
  have grows : ∀ {m n : Nat}, m < n → multiple m < multiple n := fun less =>
    multiple_strictMono less
  unfold signedMultiple
  split
  · next negative =>
    have positive := grows (m := 0) (n := a.natAbs) (by omega)
    rw [multiple_zero] at positive
    split
    · have more := grows (m := b.natAbs) (n := a.natAbs) (by omega)
      omega
    · omega
  · have more := grows (m := a.natAbs) (n := b.natAbs) (by omega)
    split <;> omega

theorem signedMultiple_lt_iff {a b : Int} : signedMultiple a < signedMultiple b ↔ a < b :=
  StrictMono.lt_iff_lt fun _ _ => signedMultiple_lt

theorem signedMultiple_inj {a b : Int} : signedMultiple a = signedMultiple b ↔ a = b :=
  (StrictMono.injective fun _ _ => signedMultiple_lt).eq_iff

theorem value_eq (x : Double) : x.value = signedMultiple x.key / 2 ^ 1074 := by
  rw [value, fraction_eq, key, signedMultiple]
  cases x.negative with
  | false => simp
  | true =>
    -- The two zeros have one key.
    by_cases zero : x.word = 0
    · simp [zero, multiple_zero]
    · simp [Nat.pos_of_ne_zero zero, neg_div]

theorem value_lt_iff {x y : Double} : x.value < y.value ↔ x.key < y.key := by
  rw [value_eq, value_eq, div_lt_div_iff_of_pos_right (by positivity), Int.cast_lt,
    signedMultiple_lt_iff]

theorem value_inj {x y : Double} : x.value = y.value ↔ x.key = y.key := by
  rw [value_eq, value_eq, div_left_inj' (by positivity), Int.cast_inj,
    signedMultiple_inj]

/-- Numbers are ordered by their values. -/
theorem compare_eq (x y : Double) : x.compare y = compareOfLessAndEq x.value y.value := by
  unfold Double.compare compareOfLessAndEq
  exact if_congr value_lt_iff.symm rfl (if_congr value_inj.symm rfl rfl)

end ApiGateway.Double
