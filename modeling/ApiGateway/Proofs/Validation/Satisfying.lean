import ApiGateway.Proofs.Validation.Clean
import ApiGateway.Proofs.Value.Binding
import ApiGateway.Proofs.Value.Bounds

/-
Length bounds that a value can keep.

Validation compares the exact length of a member with the least and the greatest, and these with one
another. It does not look at whether a value is required, and a required value is not empty. So the
bounds of a declared member can be kept, unless the member is required and they leave nothing but
the length zero.

* `Member.EmptyOnly`, `Member.Consistent.exists_admits_iff` - bounds that leave the length zero only,
  and when some length keeps the bounds.
* `Member.Sized`, `Member.Satisfiable` - a text or an array of builtin items, and whether a value can
  be set and is valid.
* `Variable.valid_string_iff`, `Variable.valid_array_iff` - which texts and arrays are valid.
* `Document.Declares` - the members of the types and the parameters of a document.
* `Document.satisfiable_of_validate` - which members of a valid document a value can be found for.
-/

namespace ApiGateway

/-! ### Lengths -/

namespace Member

variable {m : Member} {path : String}

/-- The bounds leave no length but zero. -/
def EmptyOnly (m : Member) : Prop := m.length = some 0 ∨ m.maxLength = some 0

/-- The length bounds agree with one another. -/
structure Consistent (m : Member) : Prop where
  ordered : ∀ least ∈ m.minLength, ∀ greatest ∈ m.maxLength, least ≤ greatest
  least : ∀ n ∈ m.length, ∀ least ∈ m.minLength, least ≤ n
  greatest : ∀ n ∈ m.length, ∀ greatest ∈ m.maxLength, n ≤ greatest

theorem consistent_of_violations (clean : m.lengthViolations path = []) : m.Consistent := by
  unfold lengthViolations at clean
  split at clean
  next =>
    simp only [List.append_eq_nil_iff, Violation.of_eq_nil_iff] at clean
    obtain ⟨⟨-, uncrossed⟩, inside⟩ := clean
    simp only [boundsCross, Option.any_eq_false, decide_eq_false_iff_not, not_lt] at uncrossed
    simp only [lengthOutside, Option.any_eq_false, Bool.or_eq_false_iff, decide_eq_false_iff_not,
      not_lt] at inside
    refine ⟨fun least low greatest high => uncrossed least low greatest high, ?_, ?_⟩
    · exact fun n exactly least low => (inside n exactly).1 least low
    · exact fun n exactly greatest high => (inside n exactly).2 greatest high
  next unbounded =>
    simp only [hasLengthBounds, Bool.or_eq_true, Option.isSome_iff_exists, not_or, not_exists]
      at unbounded
    obtain ⟨⟨length, least⟩, -⟩ := unbounded
    refine ⟨fun n low => absurd low (least n), ?_, ?_⟩
    · exact fun n exactly => absurd exactly (length n)
    · exact fun n exactly => absurd exactly (length n)

/-- Of bounds that agree one length keeps all, unless the value is required and must be empty. -/
theorem Consistent.exists_admits_iff (consistent : m.Consistent) :
    (∃ n, m.Admits n) ↔ ¬(m.required = true ∧ m.EmptyOnly) := by
  constructor
  · rintro ⟨n, admits⟩ ⟨required, exactly | greatest⟩
    · exact admits.present required (admits.length 0 exactly)
    · exact admits.present required (Nat.le_zero.mp (admits.greatest 0 greatest))
  · intro possible
    cases exactly : m.length with
    | some n =>
      refine ⟨n, ?_, ?_, consistent.least n exactly, consistent.greatest n exactly⟩
      · rintro required rfl
        exact possible ⟨required, .inl exactly⟩
      · intro k there
        exact Option.some.inj (exactly.symm.trans there)
    | none =>
      -- The least length, or one if that is zero and the value is required.
      refine ⟨max (m.minLength.getD 0) m.required.toNat, ?_, ?_, ?_, ?_⟩
      · intro required
        simp [required]
      · intro k there
        rw [exactly] at there
        cases there
      · intro least low
        rw [Option.mem_def.mp low]
        exact le_max_left _ _
      · intro greatest high
        apply max_le
        · cases low : m.minLength with
          | none => exact Nat.zero_le _
          | some least => exact consistent.ordered least low greatest high
        · cases required : m.required with
          | false => exact Nat.zero_le _
          | true =>
            have some : greatest ≠ 0 := by
              rintro rfl
              exact possible ⟨required, .inr high⟩
            exact Nat.one_le_iff_ne_zero.mpr some

end Member

/-! ### Valid texts and arrays -/

namespace Variable

variable {m element : Member} {n : Nat}

theorem checkLength_eq_ok_iff : checkLength m n = .ok () ↔ m.Admits n := by
  rw [checkLength_eq, ← Member.lengthFaults_eq_nil_iff]
  cases m.lengthFaults n <;> simp [firstFault]

theorem valid_string_iff {s : String} :
    (Variable.string m s).validate = .ok () ↔ m.Admits s.toList.length := by
  rw [validate, mapError_eq_ok_iff, checkLength_eq_ok_iff, String.length_toList]

theorem both_eq_ok_iff {ε : Type} {first second : Except ε Unit} :
    (first >>= fun _ => second) = .ok () ↔ first = .ok () ∧ second = .ok () :=
  bind_eq_ok_iff.trans ⟨fun ⟨(), done, rest⟩ => ⟨done, rest⟩, fun ⟨done, rest⟩ => ⟨(), done, rest⟩⟩

theorem validateItems_eq_ok_iff {xs : List Variable} (i : Nat) :
    validateItems i xs = .ok () ↔ ∀ x ∈ xs, x.validate = .ok () := by
  induction xs generalizing i with
  | nil => simp [validateItems]
  | cons x xs ih =>
    rw [validateItems, both_eq_ok_iff, mapError_eq_ok_iff, ih, List.forall_mem_cons]

theorem valid_array_iff {xs : List Variable} : (Variable.array m element xs).validate = .ok () ↔
    m.Admits xs.length ∧ ∀ x ∈ xs, x.validate = .ok () := by
  rw [validate, both_eq_ok_iff, mapError_eq_ok_iff, checkLength_eq_ok_iff, validateItems_eq_ok_iff]

end Variable

/-! ### Values -/

namespace Member

variable {m : Member} {r : TypeRegistry} {n : Nat}

/-- A member with a length of its own: a text, or an array of items of a builtin type. -/
def Sized (m : Member) : Prop :=
  m.type = .named "string" ∨ ∃ name ∈ builtinTypes, m.type = .list [.named name]

/-- A new variable of the member can be set to some value, and is valid then. -/
def Satisfiable (r : TypeRegistry) (m : Member) : Prop :=
  ∃ v x y, r.create m = .ok x ∧ Variable.setValue r v x = (.ok (), y) ∧ y.validate = .ok ()

theorem satisfiable_iff_build :
    m.Satisfiable r ↔ ∃ v y, r.build m v = .ok y ∧ y.validate = .ok () := by
  unfold Satisfiable
  simp only [TypeRegistry.build_ok_iff_set]
  constructor
  · rintro ⟨v, x, y, created, set, valid⟩
    exact ⟨v, y, ⟨x, created, set⟩, valid⟩
  · rintro ⟨v, y, ⟨x, created, set⟩, valid⟩
    exact ⟨v, x, y, created, set, valid⟩

/-- Every builtin type has a value. -/
theorem exists_conforms {name : String} (builtin : name ∈ builtinTypes) :
    ∃ v, r.Conforms (.named name) v := by
  simp only [builtinTypes, List.mem_cons, List.not_mem_nil, or_false] at builtin
  rcases builtin with rfl | rfl | rfl | rfl
  · exact ⟨.number (.int 0), .integer rfl⟩
  · exact ⟨.number (.int 0), .float rfl⟩
  · exact ⟨.bool false, .boolean rfl⟩
  · exact ⟨.string "", .string rfl⟩

theorem text_of_holds {v : Json} {y : Variable} (text : m.type = .named "string")
    (holds : r.Holds m v y) : ∃ s, y = .string m s := by
  cases holds with
  | string => exact ⟨_, rfl⟩
  | object type declared =>
    cases text.symm.trans type
    exact absurd (by decide) declared
  | integer type | float type | boolean type | array type =>
    exact absurd (text.symm.trans type) (by simp)

theorem items_of_holds {name : String} {v : Json} {y : Variable}
    (array : m.type = .list [.named name]) (holds : r.Holds m v y) :
    ∃ vs xs, v = .array vs ∧ y = .array m (.ofItems name) xs ∧ vs.length = xs.length ∧
      ∀ x ∈ xs, ∃ w, r.Holds (.ofItems name) w x := by
  cases holds with
  | array type knows lengths each =>
    cases array.symm.trans type
    refine ⟨_, _, rfl, rfl, lengths, fun x there => ?_⟩
    obtain ⟨w, pair⟩ := exists_zip_right lengths there
    exact ⟨w, each w x pair⟩
  | integer type | float type | boolean type | string type | object type =>
    cases array.symm.trans type

/-- Items of builtin types have no bounds. -/
theorem valid_of_holds {name : String} {v : Json} {x : Variable} (builtin : name ∈ builtinTypes)
    (holds : r.Holds (.ofItems name) v x) : x.validate = .ok () := by
  cases holds with
  | integer | float | boolean => rfl
  | string => exact Variable.valid_string_iff.mpr ⟨nofun, nofun, nofun, nofun⟩
  | array type => cases type
  | object type declared =>
    cases type
    exact absurd builtin declared

/-- A text or an array has a valid value if and only if some length keeps its bounds. -/
theorem Sized.satisfiable_iff (sized : m.Sized) : m.Satisfiable r ↔ ∃ n, m.Admits n := by
  rw [satisfiable_iff_build]
  constructor
  · rintro ⟨v, y, built, valid⟩
    have holds := TypeRegistry.holds_of_build built
    rcases sized with text | ⟨name, builtin, array⟩
    · obtain ⟨s, rfl⟩ := text_of_holds text holds
      exact ⟨_, Variable.valid_string_iff.mp valid⟩
    · obtain ⟨vs, xs, rfl, rfl, -⟩ := items_of_holds array holds
      exact ⟨_, (Variable.valid_array_iff.mp valid).1⟩
  · rintro ⟨n, admits⟩
    rcases sized with text | ⟨name, builtin, array⟩
    · let s := String.ofList (List.replicate n 'x')
      have built : r.build m (.string s) = .ok (.string m s) :=
        TypeRegistry.build_of_holds (.string text rfl)
      refine ⟨_, _, built, Variable.valid_string_iff.mpr ?_⟩
      simpa [s] using admits
    · obtain ⟨v, item⟩ := exists_conforms (r := r) builtin
      have conforms : r.Conforms m.type (.array (List.replicate n v)) := by
        rw [array]
        refine .array (.inl builtin) fun w there => ?_
        rwa [List.eq_of_mem_replicate there]
      obtain ⟨y, built⟩ := TypeRegistry.exists_build_iff.mpr conforms
      obtain ⟨vs, xs, same, rfl, lengths, each⟩ :=
        items_of_holds array (TypeRegistry.holds_of_build built)
      cases same
      rw [List.length_replicate] at lengths
      refine ⟨_, _, built, Variable.valid_array_iff.mpr ⟨lengths ▸ admits, fun x there => ?_⟩⟩
      obtain ⟨w, holds⟩ := each x there
      exact valid_of_holds builtin holds

end Member

/-! ### Documents -/

namespace Document

variable {d : Document} {m : Member}

/-- A member of a type, or a parameter of an endpoint. -/
inductive Declares (d : Document) (m : Member) : Prop where
  | ofType {t : DataType} {name : String} : t ∈ d.types → (name, m) ∈ t.members → Declares d m
  | ofGroup {e : Endpoint} {group : ParamSource × Members} {name : String} : e ∈ d.endpoints →
    group ∈ e.params → (name, m) ∈ group.2 → Declares d m

theorem consistent_of_mem {known : List String} {ms : Members} {path name : String}
    (clean : ms.violations known path = []) (there : (name, m) ∈ ms) : m.Consistent := by
  have own := List.flatMap_eq_nil_iff.mp clean _ there
  dsimp only at own
  split at own
  · cases own
  · exact Member.consistent_of_violations (List.append_eq_nil_iff.mp own).2

theorem consistent_of_declares (valid : d.validate = .ok ()) (declares : d.Declares m) :
    m.Consistent := by
  cases declares with
  | ofType type there =>
    obtain ⟨i, at_i⟩ := List.mem_iff_getElem?.mp type
    have clean := type_violations_of_validate valid at_i
    exact consistent_of_mem (List.append_eq_nil_iff.mp clean).2 there
  | ofGroup endpoint group there =>
    obtain ⟨i, at_i⟩ := List.mem_iff_getElem?.mp endpoint
    exact consistent_of_mem ((lawful_of_validate valid at_i).1.params _ group) there

/-- **Bounds that passed validation can be kept**, unless a value is required where the bounds leave
the length zero only. -/
theorem satisfiable_of_validate (valid : d.validate = .ok ()) (declares : d.Declares m)
    (sized : m.Sized) (r : TypeRegistry) :
    m.Satisfiable r ↔ ¬(m.required = true ∧ m.EmptyOnly) :=
  sized.satisfiable_iff.trans (consistent_of_declares valid declares).exists_admits_iff

def title : Member :=
  { type := .named "string", required := true, minLength := some 0, maxLength := some 40 }

def tags : Member := { type := .list [.named "boolean"], required := true, maxLength := some 0 }

/-- Notes with a title, of which those with some tags are listed. -/
def notes : Document where
  version := "1"
  baseUrl := "/api"
  types := [{ name := "Note", members := [("title", title)] }]
  endpoints := [
    { url := "/notes"
      params := [(.body, [("tags", tags)])]
      returns := [("204", { type := some "nocontent" })] }]

/-- A title must not be empty, and one of a single character is short enough. -/
theorem satisfiable_of_validate_notes : notes.validate = .ok () ∧ notes.Declares title ∧
    title.Sized ∧ title.Satisfiable {} := by
  have valid : notes.validate = .ok () := rfl
  have declares : notes.Declares title := .ofType List.mem_cons_self List.mem_cons_self
  have sized : title.Sized := .inl rfl
  refine ⟨valid, declares, sized, (satisfiable_of_validate valid declares sized {}).mpr ?_⟩
  rintro ⟨-, exactly | greatest⟩
  · cases exactly
  · cases greatest

/-- Tags are required, and none is allowed; still the document is valid. -/
theorem not_satisfiable_notes : notes.validate = .ok () ∧ notes.Declares tags ∧ tags.Sized ∧
    ∀ r, ¬tags.Satisfiable r := by
  have sized : tags.Sized := .inr ⟨"boolean", by decide, rfl⟩
  refine ⟨rfl, .ofGroup List.mem_cons_self List.mem_cons_self List.mem_cons_self, sized, ?_⟩
  intro r satisfiable
  obtain ⟨n, admits⟩ := sized.satisfiable_iff.mp satisfiable
  exact admits.present rfl (Nat.le_zero.mp (admits.greatest 0 rfl))

end Document

end ApiGateway
