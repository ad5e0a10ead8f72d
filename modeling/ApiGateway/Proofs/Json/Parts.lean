import ApiGateway.Proofs.Json.Entries

/-
What stands inside a value.

A value satisfies a condition on its numbers or on its objects when all values inside it do
(`Json.integral_array`, `Json.sorted_object` and the like).

* `Json.parts` - a value and all values inside it; `Json.depth` - how deep it is nested.
* `Json.Integral` - all numbers are integers of 64 bits.
* `Json.Measured` - all integers are of 64 bits; `Json.Floatless` - no number is anything else.
* `Json.Sorted` - all objects have their keys in ascending order.
-/

namespace ApiGateway.Json

/-! ### Inside a value -/

section Induction

variable {P : Json → Prop}

mutual
/-- What passes from the items and entries of a value to the value holds of all values. -/
theorem within_induction (step : ∀ v : Json, (∀ vs, v = .array vs → ∀ w ∈ vs, P w) →
    (∀ es, v = .object es → ∀ e ∈ es, P e.2) → P v) (v : Json) : P v := by
  refine step v ?_ ?_
  · rintro vs rfl
    exact within_items step vs
  · rintro es rfl
    exact within_entries step es

theorem within_items (step : ∀ v : Json, (∀ vs, v = .array vs → ∀ w ∈ vs, P w) →
    (∀ es, v = .object es → ∀ e ∈ es, P e.2) → P v) (vs : List Json) : ∀ w ∈ vs, P w := by
  cases vs with
  | nil => exact nofun
  | cons v vs => exact List.forall_mem_cons.mpr ⟨within_induction step v, within_items step vs⟩

theorem within_entries (step : ∀ v : Json, (∀ vs, v = .array vs → ∀ w ∈ vs, P w) →
    (∀ es, v = .object es → ∀ e ∈ es, P e.2) → P v) (es : List (String × Json)) :
    ∀ e ∈ es, P e.2 := by
  cases es with
  | nil => exact nofun
  | cons e es =>
    obtain ⟨k, v⟩ := e
    exact List.forall_mem_cons.mpr ⟨within_induction step v, within_entries step es⟩
end

end Induction

mutual
/-- A value and all values inside it. -/
def parts : Json → List Json
  | .array items => .array items :: partsOfItems items
  | .object entries => .object entries :: partsOfEntries entries
  | v => [v]

def partsOfItems : List Json → List Json
  | [] => []
  | v :: vs => parts v ++ partsOfItems vs

def partsOfEntries : List (String × Json) → List Json
  | [] => []
  | (_, v) :: es => parts v ++ partsOfEntries es
end

mutual
/-- How deep arrays and objects are nested. -/
def depth : Json → Nat
  | .array items => depthOfItems items + 1
  | .object entries => depthOfEntries entries + 1
  | _ => 0

def depthOfItems : List Json → Nat
  | [] => 0
  | v :: vs => max (depth v) (depthOfItems vs)

def depthOfEntries : List (String × Json) → Nat
  | [] => 0
  | (_, v) :: es => max (depth v) (depthOfEntries es)
end

/-- An integer that fits a word of 64 bits, signed or unsigned. -/
def Number.Fits (i : Int) : Prop := Number.inSigned64 i = true ∨ Number.inUnsigned64 i = true

instance (i : Int) : Decidable (Number.Fits i) :=
  inferInstanceAs (Decidable (Number.inSigned64 i = true ∨ Number.inUnsigned64 i = true))

/-- The number is an integer of 64 bits. -/
def Number.IsWord : Number → Prop
  | .int i => Number.Fits i
  | .float _ => False

/-- All numbers are integers of 64 bits. -/
def Integral (v : Json) : Prop := ∀ n, .number n ∈ v.parts → n.IsWord

theorem Number.Fits.bounds {i : Int} (fits : Number.Fits i) :
    -0x8000000000000000 ≤ i ∧ i < 0x10000000000000000 := by
  simp only [Number.Fits, Number.inSigned64, Number.inUnsigned64, Bool.and_eq_true,
    decide_eq_true_eq] at fits
  omega

/-- All integers take at most 64 bits. -/
def Measured (v : Json) : Prop := ∀ i, .number (.int i) ∈ v.parts → Number.Fits i

/-- All numbers are integers. -/
def Floatless (v : Json) : Prop := ∀ x, .number (.float x) ∉ v.parts

/-- All objects have their keys in ascending order. -/
def Sorted (v : Json) : Prop := ∀ es, .object es ∈ v.parts → Ascending es

theorem mem_partsOfItems {p : Json} {vs : List Json} :
    p ∈ partsOfItems vs ↔ ∃ v ∈ vs, p ∈ v.parts := by
  induction vs with
  | nil => simp [partsOfItems]
  | cons v vs ih => simp [partsOfItems, ih]

theorem mem_partsOfEntries {p : Json} {es : List (String × Json)} :
    p ∈ partsOfEntries es ↔ ∃ e ∈ es, p ∈ e.2.parts := by
  induction es with
  | nil => simp [partsOfEntries]
  | cons e es ih => simp [partsOfEntries, ih]

theorem mem_parts_array {p : Json} {vs : List Json} :
    p ∈ (Json.array vs).parts ↔ p = .array vs ∨ ∃ v ∈ vs, p ∈ v.parts := by
  rw [parts, List.mem_cons, mem_partsOfItems]

theorem mem_parts_object {p : Json} {es : List (String × Json)} :
    p ∈ (Json.object es).parts ↔ p = .object es ∨ ∃ e ∈ es, p ∈ e.2.parts := by
  rw [parts, List.mem_cons, mem_partsOfEntries]

/-- Integers that are all of 64 bits, and nothing but integers. -/
theorem Measured.integral {v : Json} (measured : v.Measured) (floatless : v.Floatless) :
    v.Integral := by
  intro n there
  cases n with
  | int i => exact measured i there
  | float x => exact floatless x there

section

variable {vs : List Json} {es : List (String × Json)}

@[simp] theorem integral_string (s : String) : (Json.string s).Integral := by
  simp [Integral, parts]

@[simp] theorem integral_bool (b : Bool) : (Json.bool b).Integral := by
  simp [Integral, parts]

@[simp] theorem integral_int {i : Int} : (Json.int i).Integral ↔ Number.Fits i := by
  simp [Integral, int, parts, Number.IsWord]

@[simp] theorem integral_nat {n : Nat} : (Json.nat n).Integral ↔ n < 2 ^ 64 := by
  refine integral_int.trans ?_
  simp only [Number.Fits, Number.inSigned64, Number.inUnsigned64, Bool.and_eq_true,
    decide_eq_true_eq]
  omega

@[simp] theorem integral_array : (Json.array vs).Integral ↔ ∀ v ∈ vs, v.Integral := by
  simp only [Integral, mem_parts_array, reduceCtorEq, false_or, forall_exists_index, and_imp]
  exact ⟨fun all v there n => all n v there, fun all n v there => all v there n⟩

@[simp] theorem integral_object : (Json.object es).Integral ↔ ∀ e ∈ es, e.2.Integral := by
  simp only [Integral, mem_parts_object, reduceCtorEq, false_or, forall_exists_index, and_imp]
  exact ⟨fun all e there n => all n e there, fun all n e there => all e there n⟩

theorem measured_array : (Json.array vs).Measured ↔ ∀ v ∈ vs, v.Measured := by
  simp only [Measured, mem_parts_array, reduceCtorEq, false_or, forall_exists_index, and_imp]
  exact ⟨fun all v there n => all n v there, fun all n v there => all v there n⟩

theorem measured_object : (Json.object es).Measured ↔ ∀ e ∈ es, e.2.Measured := by
  simp only [Measured, mem_parts_object, reduceCtorEq, false_or, forall_exists_index, and_imp]
  exact ⟨fun all e there n => all n e there, fun all n e there => all e there n⟩

theorem sorted_array : (Json.array vs).Sorted ↔ ∀ v ∈ vs, v.Sorted := by
  simp only [Sorted, mem_parts_array, reduceCtorEq, false_or, forall_exists_index, and_imp]
  exact ⟨fun all v there n => all n v there, fun all n v there => all v there n⟩

theorem sorted_object :
    (Json.object es).Sorted ↔ Ascending es ∧ ∀ e ∈ es, e.2.Sorted := by
  simp only [Sorted, mem_parts_object]
  constructor
  · exact fun all => ⟨all es (.inl rfl), fun e there es' inside => all es' (.inr ⟨e, there, inside⟩)⟩
  · rintro ⟨whole, each⟩ es' (same | ⟨e, there, inside⟩)
    · cases same
      exact whole
    · exact each e there es' inside

end

end ApiGateway.Json
