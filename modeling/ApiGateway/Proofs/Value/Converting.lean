import ApiGateway.Proofs.Double.Ordering
import ApiGateway.Proofs.Json.Parts
import ApiGateway.Proofs.Text.Cutting
import ApiGateway.Value.Convert

/-
Integers out of values.

A number is an integer or none, and a text between its blanks is the numeral of one integer or of
none. Where there is one, and a signed word of 64 bits holds it, the value is converted to it;
nothing is cut, rounded or wrapped around on the way.

* `Text.Digits`, `Text.Numeral` - the natural number that digits denote, and the integer that they
  denote behind an optional sign.
* `Json.integerText?_eq_some_iff`, `Json.integerNumber?_eq_some_iff` - the integer of a text, and
  that of a number.
* `Json.numeral_intChars` - an integer is written as its numeral.
* `Json.exact_toInteger` - what numbers and texts are converted to, and that an integer and its text
  are converted alike.
-/

namespace ApiGateway

/-- A text without blanks stays as it is. -/
theorem Text.trim_eq_self {cs : List Char} (visible : ∀ c ∈ cs, isBlank c = false) :
    trim cs = cs := by
  have start : ∀ {ds : List Char}, (∀ c ∈ ds, isBlank c = false) → ds.dropWhile isBlank = ds := by
    intro ds visible
    cases ds with
    | nil => rfl
    | cons c ds => rw [List.dropWhile_cons_of_neg (by simp [visible c])]
  rw [trim, trimStart, start visible, trimEnd, start (by simpa using visible), List.reverse_reverse]

/-! ### Numerals -/

namespace Text

/-- The natural number that digits denote. One more digit behind them is that of the ones. -/
inductive Digits : List Char → Nat → Prop where
  | one {d : Nat} : d < 10 → Digits [d.digitChar] d
  | snoc {ds : List Char} {n d : Nat} : Digits ds n → d < 10 →
    Digits (ds ++ [d.digitChar]) (10 * n + d)

/-- The integer that digits denote, with a sign in front of them or without. -/
inductive Numeral : List Char → Int → Prop where
  | unsigned {ds : List Char} {n : Nat} : Digits ds n → Numeral ds n
  | plus {ds : List Char} {n : Nat} : Digits ds n → Numeral ('+' :: ds) n
  | minus {ds : List Char} {n : Nat} : Digits ds n → Numeral ('-' :: ds) (-n)

variable {cs ds : List Char} {n : Nat} {i : Int}

theorem digitChar_digitValue {c : Char} (digit : c.isDigit = true) :
    Double.digitValue c < 10 ∧ (Double.digitValue c).digitChar = c := by
  obtain ⟨low, high⟩ : 48 ≤ c.toNat ∧ c.toNat ≤ 57 := Char.isDigit_iff_toNat.mp digit
  have small : Double.digitValue c < 10 := by
    unfold Double.digitValue
    omega
  refine ⟨small, Char.toNat_inj.mp ?_⟩
  rw [Nat.toNat_digitChar_of_lt_ten small]
  unfold Double.digitValue
  omega

theorem digitValue_digitChar {d : Nat} (small : d < 10) : Double.digitValue d.digitChar = d :=
  Nat.toNat_digitChar_sub_48_of_lt_ten small

theorem digitsValue_snoc (ds : List Char) (c : Char) :
    Double.digitsValue (ds ++ [c]) = 10 * Double.digitsValue ds + Double.digitValue c := by
  simp [Double.digitsValue]

theorem digits_of_isDigit (some : ds ≠ []) (all : ∀ c ∈ ds, c.isDigit = true) :
    Digits ds (Double.digitsValue ds) := by
  induction ds using List.reverseRecOn with
  | nil => exact absurd rfl some
  | append_singleton ds c ih =>
    obtain ⟨small, same⟩ := digitChar_digitValue (all c (by simp))
    rw [digitsValue_snoc]
    by_cases first : ds = []
    · subst first
      simpa [Double.digitsValue, same] using Digits.one small
    · have before := ih first fun c' there => all c' (List.mem_append_left _ there)
      simpa [same] using before.snoc small

theorem Digits.isDigit (digits : Digits ds n) :
    ds ≠ [] ∧ (∀ c ∈ ds, c.isDigit = true) ∧ Double.digitsValue ds = n := by
  induction digits with
  | one small =>
    refine ⟨by simp, ?_, ?_⟩
    · simp [Nat.isDigit_digitChar, small]
    · simp [Double.digitsValue, digitValue_digitChar small]
  | snoc _ small ih =>
    obtain ⟨-, all, value⟩ := ih
    refine ⟨by simp, ?_, ?_⟩
    · intro c there
      rcases List.mem_append.mp there with before | last
      · exact all c before
      · rw [List.mem_singleton.mp last, Nat.isDigit_digitChar]
        exact decide_eq_true small
    · rw [digitsValue_snoc, value, digitValue_digitChar small]

theorem not_digits_cons {c : Char} (other : c.isDigit = false) : ¬Digits (c :: ds) n := by
  intro digits
  have digit := digits.isDigit.2.1 c List.mem_cons_self
  rw [digit] at other
  cases other

theorem numeral_iff : Numeral cs i ↔ (∃ n : Nat, Digits cs n ∧ n = i) ∨
    (∃ ds, ∃ n : Nat, cs = '+' :: ds ∧ Digits ds n ∧ n = i) ∨
    ∃ ds, ∃ n : Nat, cs = '-' :: ds ∧ Digits ds n ∧ -(n : Int) = i := by
  constructor
  · intro numeral
    cases numeral with
    | unsigned digits => exact .inl ⟨_, digits, rfl⟩
    | plus digits => exact .inr (.inl ⟨_, _, rfl, digits, rfl⟩)
    | minus digits => exact .inr (.inr ⟨_, _, rfl, digits, rfl⟩)
  · rintro (⟨n, digits, rfl⟩ | ⟨ds, n, rfl, digits, rfl⟩ | ⟨ds, n, rfl, digits, rfl⟩)
    · exact .unsigned digits
    · exact .plus digits
    · exact .minus digits

theorem Digits.unique {m : Nat} (hn : Digits ds n) (hm : Digits ds m) : n = m :=
  hn.isDigit.2.2.symm.trans hm.isDigit.2.2

theorem Numeral.unique {j : Int} (hi : Numeral cs i) (hj : Numeral cs j) : i = j := by
  have plus : ∀ ds n, ¬Digits ('+' :: ds) n := fun ds n => not_digits_cons (by decide)
  have minus : ∀ ds n, ¬Digits ('-' :: ds) n := fun ds n => not_digits_cons (by decide)
  cases hi with
  | unsigned digits =>
    cases hj with
    | unsigned digits' => rw [digits.unique digits']
    | plus => exact absurd digits (plus _ _)
    | minus => exact absurd digits (minus _ _)
  | plus digits =>
    cases hj with
    | unsigned digits' => exact absurd digits' (plus _ _)
    | plus digits' => rw [digits.unique digits']
  | minus digits =>
    cases hj with
    | unsigned digits' => exact absurd digits' (minus _ _)
    | minus digits' => rw [digits.unique digits']

/-- Nothing of a numeral is trimmed. -/
theorem Numeral.trim (numeral : Numeral cs i) : Text.trim cs = cs := by
  have digit : ∀ {ds n}, Digits ds n → ∀ c ∈ ds, isBlank c = false := by
    intro ds n digits c there
    obtain ⟨low, high⟩ : 48 ≤ c.toNat ∧ c.toNat ≤ 57 :=
      Char.isDigit_iff_toNat.mp (digits.isDigit.2.1 c there)
    simp only [isBlank, Bool.or_eq_false_iff, Bool.and_eq_false_iff, decide_eq_false_iff_not,
      beq_eq_false_iff_ne]
    omega
  apply trim_eq_self
  cases numeral with
  | unsigned digits => exact digit digits
  | plus digits => exact List.forall_mem_cons.mpr ⟨by decide, digit digits⟩
  | minus digits => exact List.forall_mem_cons.mpr ⟨by decide, digit digits⟩

/-- A number is written as its digits. -/
theorem digits_toDigits (n : Nat) : Digits (Nat.toDigits 10 n) n := by
  have all : ∀ c ∈ Nat.toDigits 10 n, c.isDigit = true := fun c there =>
    Nat.isDigit_of_mem_toDigits (by decide) (by decide) there
  have digits := digits_of_isDigit Nat.toDigits_ne_nil all
  have value : Double.digitsValue (Nat.toDigits 10 n) = n := Nat.ofDigitChars_ten_toDigits
  rwa [value] at digits

end Text

namespace Double

theorem cast_div_eq_int_iff {n d : Nat} (positive : 0 < d) {i : Int} :
    (n : ℚ) / d = i ↔ n % d = 0 ∧ ((n / d : Nat) : Int) = i := by
  have nonzero : (d : ℚ) ≠ 0 := by exact_mod_cast positive.ne'
  rw [div_eq_iff nonzero]
  constructor
  · intro product
    have product : (n : Int) = i * d := by exact_mod_cast product
    constructor
    · have rest : (n : Int) % d = 0 := by rw [product, Int.mul_emod_left]
      exact_mod_cast rest
    · rw [Int.natCast_div, product, Int.mul_ediv_cancel i (by omega)]
  · rintro ⟨rest, rfl⟩
    have product : n = n / d * d := (Nat.div_mul_cancel (Nat.dvd_of_mod_eq_zero rest)).symm
    exact_mod_cast product

/-- A number is an integer if nothing is left when its numerator is divided by its denominator. -/
theorem value_eq_int_iff {x : Double} {i : Int} :
    x.value = i ↔ x.isIntegral = true ∧ x.truncate = i := by
  have positive : 0 < x.fraction.2 := by
    unfold fraction
    split
    · exact Nat.one_pos
    · exact Nat.two_pow_pos _
  have whole := fun i => cast_div_eq_int_iff (n := x.fraction.1) positive (i := i)
  unfold value isIntegral truncate
  dsimp only
  rw [beq_iff_eq]
  split
  · rw [neg_eq_iff_eq_neg, neg_eq_iff_eq_neg, ← Int.cast_neg]
    exact whole (-i)
  · exact whole i

end Double

namespace Json

open Text (Digits Numeral)

variable {cs ds : List Char} {i j : Int} {n : Nat}

theorem inSigned64_iff : Number.inSigned64 i = true ↔ -2 ^ 63 ≤ i ∧ i < 2 ^ 63 := by
  simp [Number.inSigned64]

theorem digits?_eq_some_iff : digits? ds = some n ↔ Digits ds n := by
  unfold digits?
  constructor
  · intro read
    obtain ⟨digits, value⟩ := Option.ite_none_left_eq_some.mp read
    cases value
    simp only [Bool.or_eq_true, List.isEmpty_iff, Bool.not_eq_true', not_or,
      Bool.not_eq_false, List.all_eq_true] at digits
    exact Text.digits_of_isDigit digits.1 digits.2
  · intro digits
    obtain ⟨some, all, rfl⟩ := digits.isDigit
    have read : (ds.isEmpty || !ds.all Char.isDigit) = false := by
      simp [some, List.all_eq_true.mpr all]
    rw [read, if_neg Bool.false_ne_true]

theorem sign_digits?_eq_some_iff (sign : Int → Int) :
    ((do let n ← digits? ds; pure (n : Int)) : Option Int).map sign = some i ↔
      ∃ n : Nat, Digits ds n ∧ sign n = i := by
  simp only [← digits?_eq_some_iff]
  cases digits? ds <;> simp

theorem inRange_eq_some_iff {read : Option Int} :
    (read.bind fun j => if Number.inSigned64 j then some j else none) = some i ↔
      read = some i ∧ -2 ^ 63 ≤ i ∧ i < 2 ^ 63 := by
  rw [Option.bind_eq_some_iff, ← inSigned64_iff]
  constructor
  · rintro ⟨j, read, rest⟩
    obtain ⟨fits, same⟩ := Option.ite_none_right_eq_some.mp rest
    cases same
    exact ⟨read, fits⟩
  · rintro ⟨read, fits⟩
    exact ⟨i, read, if_pos fits⟩

/-- A text is read as the integer whose numeral it is, if that is in range. -/
theorem integerText?_eq_some_iff :
    integerText? cs = some i ↔ Numeral cs i ∧ -2 ^ 63 ≤ i ∧ i < 2 ^ 63 := by
  rw [Text.numeral_iff]
  unfold integerText?
  dsimp only
  split
  next ds =>
    have minus : ∀ n, ¬Digits ('-' :: ds) n := fun n => Text.not_digits_cons (by decide)
    refine inRange_eq_some_iff.trans (and_congr_left' ?_)
    rw [sign_digits?_eq_some_iff fun n => -n]
    simp [minus]
  next ds =>
    have plus : ∀ n, ¬Digits ('+' :: ds) n := fun n => Text.not_digits_cons (by decide)
    refine inRange_eq_some_iff.trans (and_congr_left' ?_)
    rw [sign_digits?_eq_some_iff fun n => n]
    simp [plus]
  next minus plus =>
    refine inRange_eq_some_iff.trans (and_congr_left' ?_)
    rw [sign_digits?_eq_some_iff fun n => n]
    constructor
    · exact .inl
    · rintro (unsigned | ⟨ds, n, same, -⟩ | ⟨ds, n, same, -⟩)
      · exact unsigned
      · exact (plus ds same).elim
      · exact (minus ds same).elim

/-! ### Numbers -/

/-- The rational number that a number is. -/
def Number.value : Number → ℚ
  | .int i => i
  | .float x => x.value

/-- A number is read as the integer that it is, if that is in range. -/
theorem integerNumber?_eq_some_iff {x : Number} :
    integerNumber? x = some i ↔ x.value = i ∧ -2 ^ 63 ≤ i ∧ i < 2 ^ 63 := by
  rw [← inSigned64_iff]
  cases x with
  | int j =>
    rw [integerNumber?, Option.ite_none_right_eq_some, Option.some_inj, Number.value, Int.cast_inj]
    constructor
    · rintro ⟨fits, rfl⟩
      exact ⟨rfl, fits⟩
    · rintro ⟨rfl, fits⟩
      exact ⟨fits, rfl⟩
  | float x =>
    rw [integerNumber?, Option.ite_none_right_eq_some, Option.some_inj, Number.value,
      Double.value_eq_int_iff, Bool.and_eq_true]
    constructor
    · rintro ⟨⟨integral, fits⟩, rfl⟩
      exact ⟨⟨integral, rfl⟩, fits⟩
    · rintro ⟨⟨integral, rfl⟩, fits⟩
      exact ⟨⟨integral, fits⟩, rfl⟩

/-! ### Integers as texts -/

/-- An integer is written as its numeral. -/
theorem numeral_intChars (i : Int) : Numeral (intChars i) i := by
  cases i with
  | ofNat n => exact .unsigned (Text.digits_toDigits n)
  | negSucc n => exact .minus (Text.digits_toDigits (n + 1))

/-! ### Conversion -/

theorem toInteger_eq_ok_iff {v : Json} : v.toInteger = .ok i ↔ v.integerValue? = some i := by
  unfold toInteger convert
  cases v.integerValue? <;> simp

/-- The text of an integer is read as the integer, if that is in range. -/
theorem integerValue?_text (n : Int) :
    integerValue? (.string (Number.int n).text) = some i ↔ n = i ∧ -2 ^ 63 ≤ i ∧ i < 2 ^ 63 := by
  have numeral := numeral_intChars n
  rw [integerValue?, Number.text, String.toList_ofList, Number.chars, numeral.trim,
    integerText?_eq_some_iff]
  refine and_congr_left' ⟨fun same => numeral.unique same, ?_⟩
  rintro rfl
  exact numeral

/-- **Values are converted to the integers that they are.** A number is converted if it is an
integer in range, and a text if it is the numeral of one between blanks. So an integer and its text
are converted alike. -/
theorem exact_toInteger :
    (∀ (x : Number) (i : Int), (Json.number x).toInteger = .ok i ↔
      x.value = i ∧ -2 ^ 63 ≤ i ∧ i < 2 ^ 63) ∧
    (∀ (s : String) (i : Int), (Json.string s).toInteger = .ok i ↔
      Numeral (Text.trim s.toList) i ∧ -2 ^ 63 ≤ i ∧ i < 2 ^ 63) ∧
    (∀ n : Int, ∃ s, (int n).toStringValue = .ok s ∧
      ∀ i, (Json.string s).toInteger = .ok i ↔ (int n).toInteger = .ok i) ∧
    (∀ i : Int, -2 ^ 63 ≤ i → i < 2 ^ 63 → ∃ s, (int i).toStringValue = .ok s ∧
      (Json.string s).toInteger = .ok i) := by
  refine ⟨fun x i => ?_, fun s i => ?_, fun n => ?_, fun i low high => ?_⟩
  · exact toInteger_eq_ok_iff.trans integerNumber?_eq_some_iff
  · exact toInteger_eq_ok_iff.trans integerText?_eq_some_iff
  · refine ⟨(Number.int n).text, rfl, fun i => ?_⟩
    have itself : (int n).integerValue? = some i ↔
        (Number.int n).value = i ∧ -2 ^ 63 ≤ i ∧ i < 2 ^ 63 :=
      integerNumber?_eq_some_iff (x := .int n)
    rw [toInteger_eq_ok_iff, toInteger_eq_ok_iff, integerValue?_text, itself, Number.value,
      Int.cast_inj]
  · refine ⟨(Number.int i).text, rfl, ?_⟩
    rw [toInteger_eq_ok_iff, integerValue?_text]
    exact ⟨rfl, low, high⟩

/-- The double nearest to the greatest integer in range is out of range; the integer itself is
converted, and so is its text. -/
theorem exact_toInteger_greatest :
    (∀ i, (Json.number (.float ⟨false, 0x43E0000000000000, by decide⟩)).toInteger ≠ .ok i) ∧
    ∃ s, (int 9223372036854775807).toStringValue = .ok s ∧
      (Json.string s).toInteger = .ok 9223372036854775807 := by
  obtain ⟨number, -, -, written⟩ := exact_toInteger
  refine ⟨fun i converted => ?_, written 9223372036854775807 (by decide) (by decide)⟩
  obtain ⟨same, -, high⟩ := (number _ i).mp converted
  obtain ⟨-, whole⟩ := Double.value_eq_int_iff.mp same
  have power : Double.truncate ⟨false, 0x43E0000000000000, by decide⟩ = 2 ^ 63 := by decide
  omega

-- A sign and blanks may stand around the digits, and the least double in range is converted.
example : (Json.string " +9223372036854775807 ").integerValue? = some 9223372036854775807 ∧
    (Json.number (.float ⟨true, 0x43E0000000000000, by decide⟩)).integerValue? =
      some (-9223372036854775808) := by decide

end Json

end ApiGateway
