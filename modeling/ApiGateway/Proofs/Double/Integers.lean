import ApiGateway.Double.Basic

/-
Large integers as numbers of 53 bits.

An integer of 64 bits that a signed word cannot hold is rounded in units of `2 ^ 11`.

* `Double.scaleOf_large`, `Double.nearest_large` - its scale, and the magnitude words that it is
  rounded between.
* `Double.le_truncate_ofInt` - it is not rounded to an integer that a signed word can hold.
-/

namespace ApiGateway.Double

variable {n : Nat}

theorem roundQuotient_bounds (num den : Nat) :
    num / den ≤ roundQuotient num den ∧ roundQuotient num den ≤ num / den + 1 := by
  unfold roundQuotient
  dsimp only
  split <;> omega

theorem scaleOf_large (low : 0x8000000000000000 ≤ n) (high : n < 0x10000000000000000) :
    scaleOf n 1 = 1086 := by
  have digits : n.log2 = 63 := (Nat.log2_eq_iff (by omega)).mpr ⟨low, high⟩
  have one : Nat.log2 1 = 0 := by decide
  have wide : 0x20000000000000 ≤ n / 1024 := by omega
  simpa [scaleOf, inUnits, digits, one] using wide

/-- The significand has 53 bits, or its rounding reaches the next scale. -/
theorem nearest_large (low : 0x8000000000000000 ≤ n) (high : n < 0x10000000000000000) :
    0x43E0000000000000 ≤ nearest n 1 ∧ nearest n 1 ≤ 0x43F0000000000000 := by
  have positive : n ≠ 0 := by omega
  have rounded := roundQuotient_bounds n 2048
  have word : nearest n 1 = 0x43D0000000000000 + roundQuotient n 2048 := by
    simp [nearest, positive, scaleOf_large low high, inUnits]
  omega

/-- From the word of `2 ^ 63` on a number without a sign is as large. -/
theorem le_truncate {x : Double} (positive : x.negative = false)
    (large : 0x43E0000000000000 ≤ x.word) : 0x8000000000000000 ≤ x.truncate := by
  have scale : 1086 ≤ x.scale := by
    simp only [Double.scale, Nat.pow_eq]
    omega
  have significand : 0x10000000000000 ≤ x.significand := by
    simp only [Double.significand, Nat.pow_eq]
    split <;> omega
  have room : 11 ≤ x.scale - 1075 := by omega
  have unit : Nat.pow 2 11 ≤ Nat.pow 2 (x.scale - 1075) := Nat.pow_le_pow_right (by decide) room
  have product : 0x10000000000000 * 2048 ≤ x.significand * Nat.pow 2 (x.scale - 1075) :=
    Nat.mul_le_mul significand unit
  have whole : x.truncate = (x.significand * Nat.pow 2 (x.scale - 1075) : Nat) := by
    have units : 1075 ≤ x.scale := by omega
    simp only [truncate, fraction, units, positive, if_true, Bool.false_eq_true, if_false,
      Nat.div_one]
  rw [whole]
  omega

/-- An integer that no signed word holds is not rounded to one that it holds. -/
theorem le_truncate_ofInt {i : Int} (low : 0x8000000000000000 ≤ i)
    (high : i < 0x10000000000000000) : 0x8000000000000000 ≤ (ofInt i).truncate := by
  obtain ⟨n, rfl⟩ := Int.eq_ofNat_of_zero_le (by omega : 0 ≤ i)
  obtain ⟨large, bound⟩ := nearest_large (n := n) (by omega) (by omega)
  have finite : nearest n 1 < infinityWord := by
    rw [infinityWord]
    omega
  have whole : ofInt n = ⟨false, nearest n 1, finite⟩ := by
    simp [ofInt, ofFraction?, ofWord?, finite]
  rw [whole]
  exact le_truncate rfl large

end ApiGateway.Double
