import ApiGateway.Expression.Condition
import ApiGateway.Proofs.Double.Ordering
import Mathlib.Data.String.Basic

/-
Comparing a field of a reply with a literal.

Values compare if they are literals of one kind. Texts, integers and floats have an order, in which
the six comparisons are what they are in any order; truth values are equal or not. Between values
of two kinds nothing is true, not even that they differ.

* `Literal.Reads` - the literal that a value is; null, lists, objects and larger integers are none.
  `Literal.Held` - the literal that a field of an object is.
* `Comparison.Relates`, `Comparison.Compares` - what a comparison says of two members of an order,
  and of two literals.
* `Comparison.Total`, `Comparison.Discrete` - how the comparisons hang together where there is an
  order, and where there is none.
* `Clause.compared_holds` - which clauses are true of an object.
-/

namespace ApiGateway

/-! ### Literals -/

namespace Literal

/-- The literal that a value is: a text, a truth value, a float, or an integer of 64 bits with a
sign. -/
inductive Reads : Json → Literal → Prop where
  | string (s : String) : Reads (.string s) (.string s)
  | int {i : Int} : -0x8000000000000000 ≤ i → i < 0x8000000000000000 →
    Reads (.number (.int i)) (.int i)
  | float (x : Double) : Reads (.number (.float x)) (.float x)
  | bool (b : Bool) : Reads (.bool b) (.bool b)

inductive Kind where
  | text
  | integer
  | decimal
  | truth
deriving DecidableEq, Repr

def kind : Literal → Kind
  | .string _ => .text
  | .int _ => .integer
  | .float _ => .decimal
  | .bool _ => .truth

/-- The field is there, and its value is a literal. -/
def Held (entries : List (String × Json)) (field : String) (a : Literal) : Prop :=
  ∃ v, entries.lookup field = some v ∧ Reads v a

variable {v : Json} {a b : Literal} {entries : List (String × Json)} {field : String}

theorem ofJson?_eq_some_iff : ofJson? v = some a ↔ Reads v a := by
  constructor
  · intro read
    unfold ofJson? at read
    split at read
    · cases read
      exact .string _
    · cases read
      exact .bool _
    · split at read
      · next word =>
        cases read
        simp only [Json.Number.inSigned64, Bool.and_eq_true, decide_eq_true_eq] at word
        exact .int word.1 word.2
      · cases read
    · cases read
      exact .float _
    · cases read
  · intro reads
    cases reads with
    | string | float | bool => rfl
    | int low high => simp [ofJson?, Json.Number.inSigned64, low, high]

theorem Reads.unique (ha : Reads v a) (hb : Reads v b) : a = b :=
  Option.some.inj ((ofJson?_eq_some_iff.mpr ha).symm.trans (ofJson?_eq_some_iff.mpr hb))

theorem field_eq_some_iff :
    ((Json.object entries).field? field).bind ofJson? = some a ↔ Held entries field a := by
  simp only [Option.bind_eq_some_iff, ofJson?_eq_some_iff]
  rfl

theorem Held.unique (ha : Held entries field a) (hb : Held entries field b) : a = b :=
  Option.some.inj ((field_eq_some_iff.mpr ha).symm.trans (field_eq_some_iff.mpr hb))

end Literal

/-! ### Comparisons -/

namespace Comparison

/-- The comparison is true of two members of an order. -/
def Relates {α : Type} [LinearOrder α] : Comparison → α → α → Prop
  | .eq, a, b => a = b
  | .neq, a, b => a ≠ b
  | .gt, a, b => b < a
  | .gte, a, b => b ≤ a
  | .lt, a, b => a < b
  | .lte, a, b => a ≤ b

/-- The comparison is true of two literals. Texts are in the order of their characters, numbers in
that of their values. -/
def Compares : Comparison → Literal → Literal → Prop
  | c, .string a, .string b => c.Relates a b
  | c, .int a, .int b => c.Relates a b
  | c, .float a, .float b => c.Relates a.value b.value
  | c, .bool a, .bool b => c = .eq ∧ a = b ∨ c = .neq ∧ a ≠ b
  | _, _, _ => False

/-- The comparisons of an order: one of before, equal and behind is true, and the others are said
by these. -/
structure Total (holds : Comparison → Prop) : Prop where
  one : ∃! c, c ∈ [.lt, .eq, .gt] ∧ holds c
  lte : holds .lte ↔ holds .lt ∨ holds .eq
  gte : holds .gte ↔ holds .gt ∨ holds .eq
  neq : holds .neq ↔ ¬ holds .eq

/-- The comparisons without an order: equal or not. -/
structure Discrete (holds : Comparison → Prop) : Prop where
  one : ∃! c, c ∈ [.eq, .neq] ∧ holds c
  none : ∀ c ∈ [.lt, .lte, .gt, .gte], ¬ holds c

section

variable {α : Type} [LinearOrder α]

theorem admits_iff (c : Comparison) (a b : α) :
    c.admits (compareOfLessAndEq a b) = true ↔ c.Relates a b := by
  unfold compareOfLessAndEq
  rcases lt_trichotomy a b with less | same | more
  · rw [if_pos less]
    cases c <;> simp [admits, Relates, less, less.ne, less.le]
  · subst same
    rw [if_neg (lt_irrefl a), if_pos rfl]
    cases c <;> simp [admits, Relates]
  · rw [if_neg more.not_gt, if_neg more.ne']
    cases c <;> simp [admits, Relates, more, more.ne', more.le]

theorem total_relates (a b : α) : Total fun c => c.Relates a b where
  one := by
    rcases lt_trichotomy a b with less | same | more
    · refine ⟨.lt, ⟨by simp, less⟩, ?_⟩
      rintro c ⟨among, holds⟩
      cases c <;> simp_all [Relates, less.ne, less.not_gt]
    · refine ⟨.eq, ⟨by simp, same⟩, ?_⟩
      rintro c ⟨among, holds⟩
      cases c <;> simp_all [Relates]
    · refine ⟨.gt, ⟨by simp, more⟩, ?_⟩
      rintro c ⟨among, holds⟩
      cases c <;> simp_all [Relates, more.ne', more.not_gt]
  lte := le_iff_lt_or_eq
  gte := by simp only [Relates, le_iff_lt_or_eq, eq_comm]
  neq := .rfl

end

variable {c : Comparison} {a b : Literal}

theorem Compares.kind_eq (compares : c.Compares a b) : a.kind = b.kind := by
  cases a <;> cases b
  case string.string | int.int | float.float | bool.bool => rfl
  all_goals cases compares

theorem total_compares (kinds : a.kind = b.kind) (ordered : a.kind ≠ .truth) :
    Total fun c => c.Compares a b := by
  cases a with
  | string a =>
    cases b with
    | string b => exact total_relates a b
    | _ => cases kinds
  | int a =>
    cases b with
    | int b => exact total_relates a b
    | _ => cases kinds
  | float a =>
    cases b with
    | float b => exact total_relates a.value b.value
    | _ => cases kinds
  | bool a => exact absurd rfl ordered

theorem discrete_compares (a b : Bool) : Discrete fun c => c.Compares (.bool a) (.bool b) where
  one := by
    by_cases same : a = b
    · refine ⟨.eq, ⟨by simp, .inl ⟨rfl, same⟩⟩, ?_⟩
      rintro c ⟨-, ⟨equal, -⟩ | ⟨-, differ⟩⟩
      · exact equal
      · exact absurd same differ
    · refine ⟨.neq, ⟨by simp, .inr ⟨rfl, same⟩⟩, ?_⟩
      rintro c ⟨-, ⟨-, equal⟩ | ⟨differ, -⟩⟩
      · exact absurd equal same
      · exact differ
  none := by simp [Compares]

/-- Two literals compare as a clause has them compared. -/
theorem compares_iff : (!(c.isOrdering && a.isBool) && (a.compare? b).any c.admits) = true ↔
    c.Compares a b := by
  cases a with
  | string a =>
    cases b with
    | string b => simp [Literal.compare?, Literal.isBool, Compares, admits_iff]
    | _ => simp [Literal.compare?, Compares]
  | int a =>
    cases b with
    | int b => simp [Literal.compare?, Literal.isBool, Compares, admits_iff]
    | _ => simp [Literal.compare?, Compares]
  | float a =>
    cases b with
    | float b =>
      simp [Literal.compare?, Literal.isBool, Compares, Double.compare_eq, admits_iff]
    | _ => simp [Literal.compare?, Compares]
  | bool a =>
    cases b with
    | bool b => cases c <;> cases a <;> cases b <;> simp [Compares] <;> decide
    | _ => simp [Literal.compare?, Compares]

end Comparison

/-! ### Clauses -/

namespace Clause

open Literal (Held)

/-- The clause with a comparison is true of the object. -/
def TrueOf (entries : List (String × Json)) (field : String) (literal : Literal)
    (c : Comparison) : Prop :=
  holds ⟨field, c, literal⟩ (.object entries) = true

variable {entries : List (String × Json)} {field : String} {c : Comparison} {literal : Literal}

theorem trueOf_iff : TrueOf entries field literal c ↔
    ∃ a, Held entries field a ∧ c.Compares a literal := by
  simp only [← Literal.field_eq_some_iff, ← Comparison.compares_iff]
  unfold TrueOf holds
  dsimp only
  cases ((Json.object entries).field? field).bind Literal.ofJson? with
  | none => simp
  | some a => simp

theorem trueOf_iff_of_held {a : Literal} (held : Held entries field a) :
    TrueOf entries field literal c ↔ c.Compares a literal := by
  rw [trueOf_iff]
  constructor
  · rintro ⟨b, held', compares⟩
    rwa [held.unique held']
  · exact fun compares => ⟨a, held, compares⟩

/-- **Only literals of one kind compare.** A field and a literal of a kind with an order are before
one another, equal or behind, truth values are equal or not, and nothing else compares. -/
theorem compared_holds (entries : List (String × Json)) (field : String) (literal : Literal) :
    (∀ a, Held entries field a →
      (∀ c, TrueOf entries field literal c ↔ c.Compares a literal) ∧
      (a.kind = literal.kind → a.kind ≠ .truth →
        Comparison.Total (TrueOf entries field literal)) ∧
      (a.kind = .truth → literal.kind = .truth →
        Comparison.Discrete (TrueOf entries field literal))) ∧
    ((∀ a, Held entries field a → a.kind ≠ literal.kind) →
      ∀ c, ¬ TrueOf entries field literal c) := by
  refine ⟨fun a held => ?_, fun apart c holds => ?_⟩
  · have same : TrueOf entries field literal = fun c => c.Compares a literal :=
      funext fun c => propext (trueOf_iff_of_held held)
    rw [same]
    refine ⟨fun c => .rfl, Comparison.total_compares, fun ha hl => ?_⟩
    cases a <;> cases ha
    cases literal <;> cases hl
    exact Comparison.discrete_compares _ _
  · obtain ⟨a, held, compares⟩ := trueOf_iff.mp holds
    exact apart a held compares.kind_eq

-- A text is not even different from an integer.
example : Clause.holds ⟨"age", .neq, .int 10⟩ (.object [("age", .string "10")]) = false := rfl

end Clause

end ApiGateway
