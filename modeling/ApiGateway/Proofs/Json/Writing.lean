import ApiGateway.Proofs.Json.Parts
import ApiGateway.Proofs.Json.Quoting

/-
Values written and read back.

The compact text of a value is read as the tree of the value, whatever follows it, as long as no
more of a number follows (`Json.Node.scanValue_chars`). So the text of a value says the value
(`Json.Node.parse?_chars`). Two things are asked of the value: its numbers are integers of 64 bits,
and it is nested no deeper than a reader follows. What is nested deeper has a tree all the same
(`Json.Node.tree?_chars`), of which a reader gets nothing (`Json.Node.value?_cut_of_deep`).

* `Json.Node.ofJson` - the tree that the text of a value is read as.
* `Json.Node.tree?` - the tree of a text, however deep it is nested.
-/

namespace ApiGateway.Json

namespace Node

/-! ### Trees of values -/

mutual
/-- The tree of a value. -/
def ofJson : Json → Node
  | .null => .null
  | .bool b => .bool b
  | .number n => .number (some n)
  | .string s => .string (some s)
  | .array items => .array (ofItems items)
  | .object entries => .object (ofEntries entries)

def ofItems : List Json → List Node
  | [] => []
  | v :: vs => ofJson v :: ofItems vs

def ofEntries : List (String × Json) → List (Option String × Node)
  | [] => []
  | (k, v) :: es => (some k, ofJson v) :: ofEntries es
end

mutual
/-- A value that is not nested too deep is not cut. -/
theorem cut_ofJson (v : Json) (level : Nat) (shallow : v.depth ≤ level) :
    (ofJson v).cut level = ofJson v := by
  cases v with
  | null | bool | number | string => cases level <;> rfl
  | array items =>
    rw [depth] at shallow
    obtain ⟨level, rfl⟩ := Nat.exists_eq_succ_of_ne_zero (Nat.ne_of_gt (Nat.lt_of_lt_of_le
      (Nat.succ_pos _) shallow))
    rw [ofJson, cut, cut_ofItems items level (Nat.le_of_succ_le_succ shallow)]
  | object entries =>
    rw [depth] at shallow
    obtain ⟨level, rfl⟩ := Nat.exists_eq_succ_of_ne_zero (Nat.ne_of_gt (Nat.lt_of_lt_of_le
      (Nat.succ_pos _) shallow))
    rw [ofJson, cut, cut_ofEntries entries level (Nat.le_of_succ_le_succ shallow)]

theorem cut_ofItems (items : List Json) (level : Nat) (shallow : depthOfItems items ≤ level) :
    cutItems level (ofItems items) = ofItems items := by
  cases items with
  | nil => rfl
  | cons v vs =>
    rw [depthOfItems, Nat.max_le] at shallow
    rw [ofItems, cutItems, cut_ofJson v level shallow.1, cut_ofItems vs level shallow.2]

theorem cut_ofEntries (entries : List (String × Json)) (level : Nat)
    (shallow : depthOfEntries entries ≤ level) :
    cutEntries level (ofEntries entries) = ofEntries entries := by
  cases entries with
  | nil => rfl
  | cons e es =>
    obtain ⟨k, v⟩ := e
    rw [depthOfEntries, Nat.max_le] at shallow
    rw [ofEntries, cutEntries, cut_ofJson v level shallow.1, cut_ofEntries es level shallow.2]
end

mutual
/-- Of a value that is nested too deep nothing is left when it is cut. -/
theorem value?_cut_of_deep (v : Json) (level : Nat) (deep : level < v.depth) :
    ((ofJson v).cut level).value? = none := by
  cases v with
  | null | bool | number | string => exact absurd deep (Nat.not_lt_zero level)
  | array items =>
    cases level with
    | zero => rfl
    | succ level =>
      rw [depth] at deep
      rw [ofJson, cut, value?, valueItems?_cut_of_deep items level (Nat.lt_of_succ_lt_succ deep),
        Option.map_none]
  | object entries =>
    cases level with
    | zero => rfl
    | succ level =>
      rw [depth] at deep
      rw [ofJson, cut, value?, valueEntries?_cut_of_deep entries level (Nat.lt_of_succ_lt_succ deep),
        Option.map_none]

theorem valueItems?_cut_of_deep (items : List Json) (level : Nat)
    (deep : level < depthOfItems items) : valueItems? (cutItems level (ofItems items)) = none := by
  cases items with
  | nil => exact absurd deep (Nat.not_lt_zero level)
  | cons v vs =>
    rw [ofItems, cutItems, valueItems?]
    rcases lt_max_iff.mp deep with first | later
    · rw [value?_cut_of_deep v level first]
      rfl
    · rw [valueItems?_cut_of_deep vs level later]
      cases value? (cut level (ofJson v)) <;> rfl

theorem valueEntries?_cut_of_deep (entries : List (String × Json)) (level : Nat)
    (deep : level < depthOfEntries entries) :
    valueEntries? (cutEntries level (ofEntries entries)) = none := by
  cases entries with
  | nil => exact absurd deep (Nat.not_lt_zero level)
  | cons e es =>
    obtain ⟨k, v⟩ := e
    rw [ofEntries, cutEntries, valueEntries?]
    rcases lt_max_iff.mp deep with first | later
    · rw [value?_cut_of_deep v level first]
      rfl
    · rw [valueEntries?_cut_of_deep es level later]
      cases value? (cut level (ofJson v)) <;> rfl
end

theorem ofItems_eq (items : List Json) : ofItems items = items.map ofJson := by
  induction items with
  | nil => rfl
  | cons v vs ih => rw [ofItems, ih, List.map_cons]

theorem ofEntries_eq (entries : List (String × Json)) :
    ofEntries entries = entries.map fun e => (some e.1, ofJson e.2) := by
  induction entries with
  | nil => rfl
  | cons e es ih => rw [ofEntries, ih, List.map_cons]

mutual
/-- The tree of a value has the value, if the objects of the value are sorted. -/
theorem value?_ofJson (v : Json) (sorted : v.Sorted) : value? (ofJson v) = some v := by
  cases v with
  | null | bool | number | string => rfl
  | array items =>
    rw [ofJson, value?, valueItems?_ofItems items (sorted_array.mp sorted), Option.map_some]
  | object entries =>
    obtain ⟨ascending, each⟩ := sorted_object.mp sorted
    rw [ofJson, value?, valueEntries?_ofEntries entries each, Option.map_some, Json.ofEntries,
      sortEntries_of_sorted ascending]

theorem valueItems?_ofItems (items : List Json) (sorted : ∀ v ∈ items, v.Sorted) :
    valueItems? (ofItems items) = some items := by
  cases items with
  | nil => rfl
  | cons v vs =>
    rw [List.forall_mem_cons] at sorted
    rw [ofItems, valueItems?, value?_ofJson v sorted.1, valueItems?_ofItems vs sorted.2]
    rfl

theorem valueEntries?_ofEntries (entries : List (String × Json))
    (sorted : ∀ e ∈ entries, e.2.Sorted) : valueEntries? (ofEntries entries) = some entries := by
  cases entries with
  | nil => rfl
  | cons e es =>
    obtain ⟨k, v⟩ := e
    rw [List.forall_mem_cons] at sorted
    rw [ofEntries, valueEntries?, value?_ofJson v sorted.1, valueEntries?_ofEntries es sorted.2]
    rfl
end

/-! ### Numbers -/

/-- What can follow a value in a compact text: nothing, or what ends or continues a list or an
object. -/
inductive Closes : List Char → Prop where
  | nil : Closes []
  | comma (cs : List Char) : Closes (',' :: cs)
  | bracket (cs : List Char) : Closes (']' :: cs)
  | brace (cs : List Char) : Closes ('}' :: cs)

theorem Closes.no_digit {rest : List Char} (closes : Closes rest) :
    rest.takeWhile Char.isDigit = [] ∧ rest.dropWhile Char.isDigit = rest := by
  cases closes <;> exact ⟨rfl, rfl⟩

theorem Closes.scanFraction {rest : List Char} (closes : Closes rest) :
    scanFraction rest = some (none, rest) := by
  cases closes <;> rfl

theorem Closes.scanExponent {rest : List Char} (closes : Closes rest) :
    scanExponent rest = some (none, rest) := by
  cases closes <;> rfl

theorem le_ofDigitChars (ds : List Char) (n : Nat) : n ≤ Nat.ofDigitChars 10 ds n := by
  induction ds generalizing n with
  | nil => exact Nat.le_refl n
  | cons c ds ih =>
    have first := ih (10 * n + (c.toNat - '0'.toNat))
    rw [Nat.ofDigitChars_cons]
    omega

/-- Digits of a word of 64 bits all fit. -/
theorem accumulate_of_lt {ds : List Char} {n : Nat} (fits : Nat.ofDigitChars 10 ds n < 2 ^ 64) :
    accumulate n ds = (Nat.ofDigitChars 10 ds n, 0) := by
  induction ds generalizing n with
  | nil => rfl
  | cons c ds ih =>
    have next : n * 10 + Double.digitValue c = 10 * n + (c.toNat - '0'.toNat) := by
      rw [Nat.mul_comm]
      rfl
    rw [Nat.ofDigitChars_cons] at fits ⊢
    have below := Nat.lt_of_le_of_lt (le_ofDigitChars ds _) fits
    rw [accumulate, next]
    exact (if_pos below).trans (ih fits)

theorem accumulate_toDigits {n : Nat} (fits : n < 2 ^ 64) :
    accumulate 0 (Nat.toDigits 10 n) = (n, 0) := by
  have value : Nat.ofDigitChars 10 (Nat.toDigits 10 n) 0 = n := Nat.ofDigitChars_ten_toDigits
  rw [accumulate_of_lt (by rw [value]; exact fits), value]

theorem digitChar_ne_zero : ∀ n < 10, n ≠ 0 → Nat.digitChar n ≠ '0' := by decide

/-- Only zero is written with a zero in front. -/
theorem head?_toDigits {n : Nat} (positive : n ≠ 0) : (Nat.toDigits 10 n).head? ≠ some '0' := by
  induction n using Nat.strongRecOn with
  | ind n ih =>
    by_cases small : n < 10
    · rw [Nat.toDigits_of_lt_base small, List.head?_cons]
      exact fun same => digitChar_ne_zero n small positive (Option.some.inj same)
    · have shorter := ih (n / 10) (by omega) (by omega)
      have whole := Nat.toDigits_of_base_le (by decide : 1 < 10) (Nat.not_lt.mp small)
      rw [whole, List.head?_append, Option.or_of_isSome (by simp [Nat.toDigits_ne_nil])]
      exact shorter

theorem takeWhile_toDigits (n : Nat) {rest : List Char} (closes : Closes rest) :
    (Nat.toDigits 10 n ++ rest).takeWhile Char.isDigit = Nat.toDigits 10 n ∧
      (Nat.toDigits 10 n ++ rest).dropWhile Char.isDigit = rest := by
  have digits : ∀ c ∈ Nat.toDigits 10 n, c.isDigit = true := fun c mem =>
    Nat.isDigit_of_mem_toDigits (by decide) (by decide) mem
  obtain ⟨took, dropped⟩ := closes.no_digit
  rw [List.takeWhile_append_of_pos digits, List.dropWhile_append_of_pos digits, took, dropped]
  exact ⟨List.append_nil _, rfl⟩

/-- Digits with a minus or without are a number without fraction and exponent. -/
theorem scanNumber_digits (negative : Bool) (n : Nat) {rest : List Char} (closes : Closes rest) :
    scanNumber ((if negative then ['-'] else []) ++ (Nat.toDigits 10 n ++ rest)) =
      some (.number (numberValue negative (Nat.toDigits 10 n) none none), rest) := by
  obtain ⟨took, dropped⟩ := takeWhile_toDigits n closes
  have some_digit : (Nat.toDigits 10 n).isEmpty = false :=
    List.isEmpty_eq_false_iff.mpr Nat.toDigits_ne_nil
  have unpadded : ((Nat.toDigits 10 n).head? == some '0' &&
      decide (1 < (Nat.toDigits 10 n).length)) = false := by
    by_cases zero : n = 0
    · subst zero
      rfl
    · simp [head?_toDigits zero]
  have unsigned : ∀ cs, Nat.toDigits 10 n ++ rest ≠ '-' :: cs := by
    intro cs minus
    have digits := Nat.isDigit_of_mem_toDigits (n := n) (c := '-') (b := 10) (by decide) (by decide)
    cases shown : Nat.toDigits 10 n with
    | nil => exact absurd shown Nat.toDigits_ne_nil
    | cons c ds =>
      rw [shown] at minus digits
      obtain ⟨rfl, -⟩ := List.cons.inj minus
      exact absurd (digits List.mem_cons_self) (by decide)
  unfold scanNumber
  split
  next sign cs signed =>
    have split : sign = negative ∧ cs = Nat.toDigits 10 n ++ rest := by
      cases negative with
      | true =>
        rw [if_pos rfl, List.singleton_append] at signed
        obtain ⟨rfl, rfl⟩ := Prod.mk.inj signed
        exact ⟨rfl, rfl⟩
      | false =>
        rw [if_neg Bool.false_ne_true, List.nil_append] at signed
        split at signed
        next cs minus => exact absurd minus (unsigned cs)
        next =>
          obtain ⟨rfl, rfl⟩ := Prod.mk.inj signed
          exact ⟨rfl, rfl⟩
    obtain ⟨rfl, rfl⟩ := split
    rw [took, dropped]
    dsimp only
    rw [some_digit, unpadded]
    simp [closes.scanFraction, closes.scanExponent]

/-- An integer of 64 bits is read as it was written. -/
theorem scanNumber_intChars {i : Int} (fits : Number.Fits i) {rest : List Char}
    (closes : Closes rest) :
    scanNumber (intChars i ++ rest) = some (.number (some (.int i)), rest) := by
  obtain ⟨lowest, highest⟩ := fits.bounds
  cases i with
  | ofNat n =>
    rw [Int.ofNat_eq_natCast] at highest
    have word : n < 2 ^ 64 := by omega
    have scanned := scanNumber_digits false n closes
    rw [if_neg Bool.false_ne_true, List.nil_append] at scanned
    rw [intChars, scanned, numberValue, accumulate_toDigits word]
    rfl
  | negSucc n =>
    have word : n + 1 ≤ 2 ^ 63 := by omega
    have scanned := scanNumber_digits true (n + 1) closes
    rw [if_pos rfl, List.singleton_append] at scanned
    have positive : (decide (0 < n + 1) && decide (n + 1 ≤ Nat.pow 2 63)) = true := by
      rw [Bool.and_eq_true, decide_eq_true_eq, decide_eq_true_eq]
      exact ⟨Nat.succ_pos n, word⟩
    rw [intChars, List.cons_append, scanned, numberValue,
      accumulate_toDigits (Nat.lt_of_le_of_lt word (by decide))]
    dsimp only
    rw [if_neg (by decide), if_neg (by decide), if_pos positive]
    rfl

/-- What a number starts with starts nothing else. -/
theorem scanValue_number (fuel : Nat) {c : Char} (leads : c = '-' ∨ c.isDigit = true)
    (cs : List Char) : scanValue (fuel + 1) (c :: cs) = scanNumber (c :: cs) := by
  have other : ∀ c' : Char, c' ≠ '-' → c'.isDigit = false → c ≠ c' := by
    rintro c' unsigned undigit rfl
    rcases leads with rfl | digit
    · exact unsigned rfl
    · rw [digit] at undigit
      cases undigit
  have visible : isSpace c = false := by
    simp [isSpace, other ' ', other '\n', other '\t', other '\r']
  rw [scanValue, skipSpace_of_visible visible]
  simp [other '"', other '[', other '{', other 'n', other 't', other 'f']

/-! ### Values -/

theorem intChars_cons (i : Int) :
    ∃ c cs, intChars i = c :: cs ∧ (c = '-' ∨ c.isDigit = true) := by
  cases i with
  | negSucc n => exact ⟨'-', _, rfl, .inl rfl⟩
  | ofNat n =>
    have digits := fun c => Nat.isDigit_of_mem_toDigits (n := n) (c := c) (b := 10) (by decide)
      (by decide)
    cases shown : Nat.toDigits 10 n with
    | nil => exact absurd shown Nat.toDigits_ne_nil
    | cons c cs => exact ⟨c, cs, shown, .inr (digits c (shown ▸ List.mem_cons_self))⟩

/-- A value starts with no blank, and with nothing that ends a list. -/
theorem chars_cons (v : Json) (integral : v.Integral) :
    ∃ c cs, v.chars = c :: cs ∧ isSpace c = false ∧ c ≠ ']' := by
  cases v with
  | null => exact ⟨_, _, rfl, by decide, by decide⟩
  | bool b => cases b <;> exact ⟨_, _, rfl, by decide, by decide⟩
  | string s => exact ⟨_, _, rfl, by decide, by decide⟩
  | array items =>
    cases items with
    | nil => exact ⟨_, _, rfl, by decide, by decide⟩
    | cons v vs => exact ⟨_, _, by rw [chars, List.cons_append], by decide, by decide⟩
  | object entries =>
    rcases entries with _ | ⟨⟨k, v⟩, es⟩
    · exact ⟨_, _, rfl, by decide, by decide⟩
    · exact ⟨_, _, by rw [chars, List.cons_append, List.cons_append], by decide, by decide⟩
  | number n =>
    cases n with
    | float x => exact (integral (.float x) List.mem_cons_self).elim
    | int i =>
      obtain ⟨c, cs, written, leads⟩ := intChars_cons i
      refine ⟨c, cs, written, ?_, ?_⟩
      · rcases leads with rfl | digit
        · decide
        · refine Bool.eq_false_iff.mpr fun blank => ?_
          simp only [isSpace, Bool.or_eq_true, beq_iff_eq] at blank
          rcases blank with ((rfl | rfl) | rfl) | rfl <;> cases digit
      · rcases leads with rfl | digit
        · decide
        · rintro rfl
          cases digit

theorem closes_itemsChars (vs : List Json) (rest : List Char) : Closes (itemsChars vs ++ rest) := by
  cases vs with
  | nil => exact .bracket rest
  | cons v vs =>
    rw [itemsChars]
    exact .comma _

theorem closes_entriesChars (es : List (String × Json)) (rest : List Char) :
    Closes (entriesChars es ++ rest) := by
  cases es with
  | nil => exact .brace rest
  | cons e es =>
    obtain ⟨k, v⟩ := e
    rw [entriesChars]
    exact .comma _

/-- A list that has an item has what its items are read as. -/
theorem scanValue_array (fuel : Nat) {c : Char} {cs : List Char} (visible : isSpace c = false)
    (opens : c ≠ ']') :
    scanValue (fuel + 1) ('[' :: c :: cs) =
      (scanItems fuel (c :: cs)).map fun (vs, rest) => (.array vs, rest) := by
  rw [scanValue, skipSpace_of_visible (by decide)]
  dsimp only
  rw [if_neg (by decide), if_pos (by decide), skipSpace_of_visible visible]
  split
  next rest bracket => exact absurd (List.cons.inj bracket).1 opens
  next => cases scanItems fuel (c :: cs) <;> rfl

variable {fuel : Nat} {v : Node} {cs rest : List Char}

/-- An item before a comma is followed by others. -/
theorem scanItems_comma (value : scanValue fuel cs = some (v, ',' :: rest)) :
    scanItems (fuel + 1) cs = (scanItems fuel rest).map fun (vs, rest) => (v :: vs, rest) := by
  rw [scanItems]
  simp only [value, Option.bind_eq_bind, Option.bind_some, skipSpace_of_visible (c := ',') (by decide)]
  cases scanItems fuel rest <;> rfl

/-- An item before a bracket is the last. -/
theorem scanItems_bracket (value : scanValue fuel cs = some (v, ']' :: rest)) :
    scanItems (fuel + 1) cs = some ([v], rest) := by
  rw [scanItems]
  simp only [value, Option.bind_eq_bind, Option.bind_some, skipSpace_of_visible (c := ']') (by decide),
    Option.pure_def]

mutual
/-- A value is read as its tree, and reading stops behind it. -/
theorem scanValue_chars (v : Json) (fuel : Nat) (rest : List Char)
    (enough : v.chars.length ≤ fuel) (integral : v.Integral) (closes : Closes rest) :
    scanValue fuel (v.chars ++ rest) = some (ofJson v, rest) := by
  obtain ⟨c, cs, written, -, -⟩ := chars_cons v integral
  obtain ⟨fuel, rfl⟩ : ∃ f, fuel = f + 1 := by
    rw [written, List.length_cons] at enough
    exact ⟨fuel - 1, by omega⟩
  cases v with
  | null => rfl
  | bool b => cases b <;> rfl
  | string s => exact scanValue_string fuel s rest
  | number n =>
    cases n with
    | float x => exact (integral (.float x) List.mem_cons_self).elim
    | int i =>
      have fits : Number.Fits i := integral (.int i) List.mem_cons_self
      obtain ⟨c, cs, shown, leads⟩ := intChars_cons i
      have scanned := scanNumber_intChars fits closes
      rw [shown, List.cons_append] at scanned
      rw [chars, Number.chars, shown, List.cons_append, scanValue_number fuel leads, scanned]
      rfl
  | array items =>
    cases items with
    | nil => rfl
    | cons v vs =>
      have items : ∀ n, .number n ∈ partsOfItems (v :: vs) → n.IsWord := fun n there =>
        integral n (List.mem_cons_of_mem _ there)
      rw [chars, List.cons_append, List.length_cons, List.length_append] at enough
      have read := scanItems_chars v vs fuel rest (Nat.le_of_succ_le_succ enough) items
      obtain ⟨c, cs, opening, visible, opens⟩ := chars_cons v fun n there =>
        items n (List.mem_append_left _ there)
      rw [opening, List.cons_append] at read
      rw [chars, List.append_assoc, List.cons_append, opening, List.cons_append,
        scanValue_array fuel visible opens, read, ofJson, ofItems]
      rfl
  | object entries =>
    cases entries with
    | nil => rfl
    | cons e es =>
      cases e with
      | mk k v =>
        have entries : ∀ n, .number n ∈ partsOfEntries ((k, v) :: es) → n.IsWord := fun n there =>
          integral n (List.mem_cons_of_mem _ there)
        simp only [chars, List.cons_append, List.append_assoc, List.length_cons, List.length_append]
          at enough
        have read := scanEntries_chars k v es fuel rest (by omega) entries
        simp only [chars, List.cons_append, List.append_assoc]
        rw [scanValue_object, read, ofJson, ofEntries]
        rfl
termination_by sizeOf v

theorem scanItems_chars (v : Json) (vs : List Json) (fuel : Nat) (rest : List Char)
    (enough : v.chars.length + (itemsChars vs).length ≤ fuel)
    (integral : ∀ n, .number n ∈ partsOfItems (v :: vs) → n.IsWord) :
    scanItems fuel (v.chars ++ (itemsChars vs ++ rest)) = some (ofItems (v :: vs), rest) := by
  have closes := closes_itemsChars vs rest
  have first : v.Integral := fun n there => integral n (List.mem_append_left _ there)
  have later : ∀ n, .number n ∈ partsOfItems vs → n.IsWord := fun n there =>
    integral n (List.mem_append_right _ there)
  cases vs with
  | nil =>
    rw [itemsChars, List.length_singleton] at enough
    obtain ⟨fuel, rfl⟩ : ∃ f, fuel = f + 1 := ⟨fuel - 1, by omega⟩
    exact scanItems_bracket (scanValue_chars v fuel _ (Nat.le_of_succ_le_succ enough) first closes)
  | cons v' vs =>
    rw [itemsChars, List.cons_append, List.length_cons, List.length_append] at enough
    obtain ⟨fuel, rfl⟩ : ∃ f, fuel = f + 1 := ⟨fuel - 1, by omega⟩
    have value := scanValue_chars v fuel _ (by omega) first closes
    have read := scanItems_chars v' vs fuel rest (by omega) later
    rw [itemsChars, List.cons_append, List.cons_append, List.append_assoc] at value ⊢
    rw [scanItems_comma value, read, ofItems]
    rfl
termination_by 1 + sizeOf v + sizeOf vs

theorem scanEntries_chars (k : String) (v : Json) (es : List (String × Json)) (fuel : Nat)
    (rest : List Char) (enough : v.chars.length + (entriesChars es).length + 1 ≤ fuel)
    (integral : ∀ n, .number n ∈ partsOfEntries ((k, v) :: es) → n.IsWord) :
    scanEntries fuel (quoteChars k ++ ':' :: (v.chars ++ (entriesChars es ++ rest))) =
      some (ofEntries ((k, v) :: es), rest) := by
  have closes := closes_entriesChars es rest
  have first : v.Integral := fun n there => integral n (List.mem_append_left _ there)
  have later : ∀ n, .number n ∈ partsOfEntries es → n.IsWord := fun n there =>
    integral n (List.mem_append_right _ there)
  obtain ⟨fuel, rfl⟩ : ∃ f, fuel = f + 1 := ⟨fuel - 1, by omega⟩
  have value := scanValue_chars v fuel _ (by omega) first closes
  cases es with
  | nil => exact scanEntries_brace value
  | cons e es =>
    cases e with
    | mk k' v' =>
      simp only [entriesChars, List.cons_append, List.append_assoc, List.length_cons,
        List.length_append] at enough value ⊢
      have read := scanEntries_chars k' v' es fuel rest (by omega) later
      rw [scanEntries_comma value, read, ofEntries]
      rfl
termination_by 1 + sizeOf v + sizeOf es
end

/-! ### Whole texts -/

/-- The tree of a text that is one value between blanks, however deep it is nested. -/
def tree? (cs : List Char) : Option Node := do
  let (node, rest) ← scanValue (cs.length + 1) cs
  if (skipSpace rest).isEmpty then some node else none

/-- A reader follows the tree of a text to a limit. -/
theorem parse?_eq (cs : List Char) : parse? cs = (tree? cs).map (cut depthLimit) := by
  rw [parse?, tree?]
  cases scanValue (cs.length + 1) cs with
  | none => rfl
  | some scanned =>
    obtain ⟨node, rest⟩ := scanned
    simp only [Option.bind_eq_bind, Option.bind_some]
    split <;> rfl

theorem tree?_chars {v : Json} (integral : v.Integral) : tree? v.chars = some (ofJson v) := by
  have whole := scanValue_chars v _ [] (Nat.le_succ v.chars.length) integral .nil
  rw [List.append_nil] at whole
  rw [tree?, whole]
  rfl

/-- The compact text of a value is read as its tree. -/
theorem parse?_chars {v : Json} (integral : v.Integral) (shallow : v.depth ≤ depthLimit) :
    parse? v.chars = some (ofJson v) := by
  rw [parse?_eq, tree?_chars integral, Option.map_some, cut_ofJson v depthLimit shallow]

end Node

/-- The digits of an integer say the integer. -/
theorem intChars_inj {i j : Int} (hi : Number.Fits i) (hj : Number.Fits j) :
    intChars i = intChars j ↔ i = j := by
  constructor
  · intro same
    have read := Node.scanNumber_intChars hi .nil
    rw [same, Node.scanNumber_intChars hj .nil] at read
    simpa using read.symm
  · rintro rfl
    rfl

end ApiGateway.Json
