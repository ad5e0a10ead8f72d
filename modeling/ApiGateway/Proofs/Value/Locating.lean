import ApiGateway.Proofs.Value.Setting

/-
Where a value fails.

A value may fail at many positions, and each has a fault of its own. Filling stops at one of them and
hands its fault outwards through all items and members around it, each of which puts its own segment
in front of the way. The error that arrives names the position that comes first: items come in the
order of their index, members in that of their declaration, and what is inside one of them before
the next. A member that is missing fails in its place, but the way leads to the object that lacks it.

The text of a way tells indices from names by their brackets, so that no name may open with one. Names
are not empty either, which is seen to when types are registered.

* `TypeRegistry.Fails` - a value fails at a position, with a fault.
* `TypeRegistry.FailsFirst` - it does so nowhere before.
* `ValueError.located` - the error of a fault under a way.
* `Variable.locates_setValue` - a variable that cannot be set fails with the error of the first
  fault.
-/

namespace ApiGateway

open Json (given?)
open Variable

/-! ### Positions -/

/-- A step into a value: to an item, or to the member that a place of the declaration names. -/
inductive ValueStep where
  | item (index : Nat)
  | member (place : Nat) (name : String)

namespace ValueStep

/-- The order among the steps from one value. -/
def rank : ValueStep → Nat
  | .item i => i
  | .member k _ => k

/-- The step as the beginning of a way. -/
def text : ValueStep → String
  | .item i => ValueError.indexSegment i
  | .member _ name => name

/-- The step behind others: an index is attached, a name follows a point. -/
def attached : ValueStep → String
  | .item i => ValueError.indexSegment i
  | .member _ name => "." ++ name

end ValueStep

/-- The steps to a part of a value, the outermost first. -/
abbrev Position := List ValueStep

namespace Position

/-- The steps behind others. -/
def joined : Position → String
  | [] => ""
  | s :: p => s.attached ++ joined p

/-- The way to a position. -/
def way : Position → String
  | [] => ""
  | s :: p => s.text ++ joined p

/-- The position is reached first: at the outermost step where they differ, its step is. -/
def Precedes (p q : Position) : Prop := p.map ValueStep.rank < q.map ValueStep.rank

theorem precedes_cons {s t : ValueStep} {p q : Position} :
    Precedes (s :: p) (t :: q) ↔ s.rank < t.rank ∨ s.rank = t.rank ∧ Precedes p q := by
  simp only [Precedes, List.map_cons, List.cons_lt_cons_iff]

end Position

/-- The error of a fault, under the way to it if it is further in. -/
def ValueError.located (p : Position) (fault : ValueFault) : ValueError :=
  if p.isEmpty then .bare fault else .inside (Position.way p) (.bare fault)

/-- The position whose way an error has: that of the fault, or of the object that lacks a member. -/
def ValueFault.reportedAt (fault : ValueFault) (p : Position) : Position :=
  match fault with
  | .requiredFieldMissing _ => p.dropLast
  | _ => p

/-! ### Failures -/

/-- What is wrong with a value for a variable, its parts aside. -/
def Json.unfit? (v : Json) : Variable → Option ValueFault
  | .int _ _ => if v.integerValue?.isSome then none else some (v.conversionFault "integer")
  | .float _ _ => if v.floatValue?.isSome then none else some (v.conversionFault "float")
  | .bool _ _ => if v.boolValue?.isSome then none else some (v.conversionFault "boolean")
  | .string _ _ => if v.stringValue?.isSome then none else some (v.conversionFault "string")
  | .array _ _ _ =>
    match v with
    | .array _ => none
    | v => some (.notAnArray v.kind)
  | .object _ t _ =>
    match v with
    | .object _ => none
    | v => some (.conversionFailed t.name v.kind)
  | .nil => some .nilHoldsNothing

theorem Json.unfit?_ne_missing (v : Json) (x : Variable) (name : String) :
    v.unfit? x ≠ some (.requiredFieldMissing name) := by
  intro missing
  cases x with
  | nil => cases missing
  | _ =>
    simp only [unfit?] at missing
    split at missing <;> cases missing

namespace TypeRegistry

/-- A value for a member fails at a position with a fault of its own: no variable can be created
there, the value there does not fit it, or a required member is not given. -/
inductive Fails (r : TypeRegistry) : Member → Json → Position → ValueFault → Prop
  | uncreated {m : Member} {v : Json} {f : ValueFault} : r.create m = .error f → Fails r m v [] f
  | unfit {m : Member} {v : Json} {x : Variable} {f : ValueFault} : r.create m = .ok x →
      v.unfit? x = some f → Fails r m v [] f
  | item {m element : Member} {vs : List Json} {i : Nat} {v : Json} {p : Position}
      {f : ValueFault} : r.create m = .ok (.array m element []) → vs[i]? = some v →
      Fails r element v p f → Fails r m (.array vs) (.item i :: p) f
  | missing {m : Member} {t : DataType} {es : List (String × Json)} {k : Nat} {name : String}
      {own : Member} : r.create m = .ok (.object m t []) → t.members[k]? = some (name, own) →
      own.required = true → given? es name = none →
      Fails r m (.object es) [.member k name] (.requiredFieldMissing name)
  | member {m : Member} {t : DataType} {es : List (String × Json)} {k : Nat} {name : String}
      {own : Member} {v : Json} {p : Position} {f : ValueFault} :
      r.create m = .ok (.object m t []) → t.members[k]? = some (name, own) →
      given? es name = some v → Fails r own v p f →
      Fails r m (.object es) (.member k name :: p) f

/-- The first position at which a value fails, and its fault there. -/
structure FailsFirst (r : TypeRegistry) (m : Member) (v : Json) (p : Position) (f : ValueFault) :
    Prop where
  fails : r.Fails m v p f
  first : ∀ q g, r.Fails m v q g → q = p ∧ g = f ∨ p.Precedes q

variable {r : TypeRegistry} {m : Member} {v : Json}

/-! ### A value that fails does not conform -/

theorem fault_of_create {f : ValueFault} (failed : r.create m = .error f) :
    (∃ name, f = .unknownType name) ∨ ∃ type, f = .nestedArray type := by
  have named : ∀ name (m : Member), r.createNamed name m = .error f → f = .unknownType name := by
    intro name m failed
    by_cases builtin : name ∈ builtinTypes
    · obtain ⟨x, created⟩ := exists_createNamed_iff (r := r) (m := m).mpr (.inl builtin)
      cases created.symm.trans failed
    · rw [createNamed_of_declared builtin] at failed
      split at failed
      · cases failed
      · cases failed
        rfl
  unfold create at failed
  split at failed
  · exact .inl ⟨_, named _ _ failed⟩
  · split at failed
    · cases failed
      exact .inr ⟨_, rfl⟩
    · split at failed
      · rcases bind_eq_error_iff.mp failed with failed | ⟨x, created, same⟩
        · exact .inl ⟨_, named _ _ failed⟩
        · cases same
      · cases failed
        exact .inl ⟨_, rfl⟩

end TypeRegistry

namespace Variable

variable {r : TypeRegistry} {m : Member} {v : Json} {x : Variable} {e : ValueError}

theorem fill_scalar_of_unfit {α : Type} {expected : String} {read : Option α} {g : α → Variable}
    {f : ValueFault}
    (unfit : (if read.isSome then none else some (v.conversionFault expected)) = some f) :
    ((v.convert expected read).mapError faulty).map g = .error (.bare f) := by
  cases read with
  | some a => cases unfit
  | none =>
    cases unfit
    rfl

theorem unfit_of_fill_scalar {α : Type} {expected : String} {read : Option α} {g : α → Variable}
    (failed : ((v.convert expected read).mapError faulty).map g = .error e) :
    (if read.isSome then none else some (v.conversionFault expected)) ≠ none := by
  cases read with
  | some a => cases failed
  | none => exact nofun

/-- A value that does not fit makes the variable fail with its own fault. -/
theorem fill_of_unfit {f : ValueFault} (unfit : v.unfit? x = some f) (r : TypeRegistry) :
    fill r v x = .error (.bare f) := by
  cases x with
  | int m i => exact (fill_int r v m i).trans (fill_scalar_of_unfit unfit)
  | float m d => exact (fill_float r v m d).trans (fill_scalar_of_unfit unfit)
  | bool m b => exact (fill_bool r v m b).trans (fill_scalar_of_unfit unfit)
  | string m s => exact (fill_string r v m s).trans (fill_scalar_of_unfit unfit)
  | array m element xs => cases v <;> cases unfit <;> rfl
  | object m t xs => cases v <;> cases unfit <;> rfl
  | nil =>
    cases unfit
    cases v <;> rfl

/-- Of the items, the first that fails does so, seen from outside its index. -/
theorem first_of_fillItems {vs : List Json} {i : Nat}
    (failed : fillItems r m i (itemFillers r vs) = .error e) :
    ∃ j v own, vs[j]? = some v ∧ r.build m v = .error own ∧ e = own.atIndex (i + j) ∧
      ∀ k w, k < j → vs[k]? = some w → ∃ x, r.build m w = .ok x := by
  induction vs generalizing i with
  | nil => cases failed
  | cons v vs ih =>
    rw [itemFillers, fillItems] at failed
    rcases bind_eq_error_iff.mp failed with first | ⟨x, first, rest⟩
    · obtain ⟨own, refused, rfl⟩ := mapError_eq_error_iff.mp first
      exact ⟨0, v, own, rfl, refused, rfl, fun k w before => absurd before k.not_lt_zero⟩
    · rcases bind_eq_error_iff.mp rest with later | ⟨xs, -, same⟩
      · obtain ⟨j, w, own, there, refused, rfl, before⟩ := ih later
        refine ⟨j + 1, w, own, there, refused, by rw [Nat.add_right_comm, Nat.add_assoc], ?_⟩
        intro k w' earlier there'
        cases k with
        | zero =>
          cases there'
          exact ⟨x, mapError_eq_ok_iff.mp first⟩
        | succ k => exact before k w' (Nat.lt_of_succ_lt_succ earlier) there'
      · cases same

/-- The declared member does not fail for what is given: it may be missing, or what is given
conforms. -/
structure Passes (r : TypeRegistry) (es : List (String × Json)) (e : String × Member) : Prop where
  present : e.2.required = true → (given? es e.1).isSome = true
  conforms : ∀ v, given? es e.1 = some v → r.Conforms e.2.type v

/-- The members before a place pass, and the one at the place fails: it is missing, or what is given
for it fails, seen from outside its name. -/
structure StopsAt (r : TypeRegistry) (es : List (String × Json)) (ms : Members) (k : Nat)
    (name : String) (own : Member) (e : ValueError) : Prop where
  there : ms[k]? = some (name, own)
  before : ∀ j other, j < k → ms[j]? = some other → Passes r es other
  fails : given? es name = none ∧ own.required = true ∧ e = .bare (.requiredFieldMissing name) ∨
    ∃ v inner, given? es name = some v ∧ r.build own v = .error inner ∧ e = inner.within name

theorem StopsAt.cons {es : List (String × Json)} {ms : Members} {k : Nat} {name : String}
    {own : Member} {head : String × Member} (stops : StopsAt r es ms k name own e)
    (passes : Passes r es head) : StopsAt r es (head :: ms) (k + 1) name own e := by
  refine ⟨stops.there, fun j other earlier there => ?_, stops.fails⟩
  cases j with
  | zero =>
    cases there
    exact passes
  | succ j => exact stops.before j other (Nat.lt_of_succ_lt_succ earlier) there

/-- Of the members, the first that fails does so. -/
theorem first_of_fillMembers {es : List (String × Json)} {ms : Members}
    (failed : fillMembers r (entryFillers r es) ms = .error e) :
    ∃ k name own, StopsAt r es ms k name own e := by
  induction ms with
  | nil => cases failed
  | cons head ms ih =>
    obtain ⟨name, own⟩ := head
    have none_before : ∀ (j : Nat) other, j < 0 → ((name, own) :: ms)[j]? = some other →
        Passes r es other := fun j other before => absurd before j.not_lt_zero
    rw [fillMembers, lookup_entryFillers] at failed
    cases present : given? es name with
    | none =>
      rw [present] at failed
      dsimp only [Option.map_none] at failed
      split at failed
      next required =>
        cases failed
        exact ⟨0, name, own, rfl, none_before, .inl ⟨present, required, rfl⟩⟩
      next optional =>
        obtain ⟨k, name', own', stops⟩ := ih failed
        exact ⟨_, _, _, stops.cons ⟨fun required => absurd required optional, by simp [present]⟩⟩
    | some v =>
      rw [present] at failed
      rcases bind_eq_error_iff.mp failed with first | ⟨x, first, rest⟩
      · obtain ⟨inner, refused, rfl⟩ := mapError_eq_error_iff.mp first
        exact ⟨0, name, own, rfl, none_before, .inr ⟨v, inner, present, refused, rfl⟩⟩
      · rcases bind_eq_error_iff.mp rest with later | ⟨xs, -, same⟩
        · obtain ⟨k, name', own', stops⟩ := ih later
          refine ⟨_, _, _, stops.cons ⟨fun _ => by simp [present], fun w given => ?_⟩⟩
          cases present.symm.trans given
          exact TypeRegistry.exists_build_iff.mp ⟨x, mapError_eq_ok_iff.mp first⟩
        · cases same

end Variable

namespace TypeRegistry

variable {r : TypeRegistry} {m : Member} {v : Json} {p : Position} {f : ValueFault}

theorem Conforms.members {t : DataType} {es : List (String × Json)}
    (conforms : r.Conforms m.type (.object es)) (created : r.create m = .ok (.object m t [])) :
    ∀ e ∈ t.members, Passes r es e := by
  cases create_eq_ok_iff.mp created with
  | object type declared found =>
    rw [type] at conforms
    cases conforms with
    | object _ found' complete each =>
      cases found.symm.trans found'
      exact fun e there => ⟨complete e there, each e there⟩
    | integer read => cases read
    | float read => cases read
    | boolean read => cases read
    | string read => cases read

/-- A value that fails anywhere does not conform. -/
theorem Fails.not_conforms (fails : r.Fails m v p f) : ¬r.Conforms m.type v := by
  intro conforms
  induction fails with
  | uncreated failed =>
    obtain ⟨x, built⟩ := exists_build_iff.mpr conforms
    cases (build_of_fault failed _).symm.trans built
  | unfit created unfit =>
    obtain ⟨x, built⟩ := exists_build_iff.mpr conforms
    rw [build_of_create created, fill_of_unfit unfit] at built
    cases built
  | item created there _ ih =>
    cases create_eq_ok_iff.mp created with
    | array type knows =>
      rw [type] at conforms
      cases conforms with
      | array _ each => exact ih (each _ (List.mem_of_getElem? there))
  | missing created there required absent =>
    have present := (conforms.members created _ (List.mem_of_getElem? there)).present required
    rw [absent] at present
    cases present
  | member created there given _ ih =>
    exact ih ((conforms.members created _ (List.mem_of_getElem? there)).conforms _ given)

/-! ### The first position -/

/-- A value that fails itself has no parts that fail. -/
theorem FailsFirst.of_nil (fails : r.Fails m v [] f) : r.FailsFirst m v [] f := by
  refine ⟨fails, fun q g other => .inl ?_⟩
  cases fails with
  | uncreated failed =>
    cases other with
    | uncreated failed' =>
      cases failed.symm.trans failed'
      exact ⟨rfl, rfl⟩
    | unfit created => cases failed.symm.trans created
    | item created => cases failed.symm.trans created
    | missing created => cases failed.symm.trans created
    | member created => cases failed.symm.trans created
  | unfit created unfit =>
    cases other with
    | uncreated failed => cases failed.symm.trans created
    | unfit created' unfit' =>
      cases created.symm.trans created'
      cases unfit.symm.trans unfit'
      exact ⟨rfl, rfl⟩
    | item created' =>
      cases created.symm.trans created'
      cases unfit
    | missing created' =>
      cases created.symm.trans created'
      cases unfit
    | member created' =>
      cases created.symm.trans created'
      cases unfit

/-- The first failing position of an item is that of the array when no item before it fails. -/
theorem FailsFirst.item {element : Member} {vs : List Json} {i : Nat}
    (first : r.FailsFirst element v p f) (created : r.create m = .ok (.array m element []))
    (there : vs[i]? = some v)
    (before : ∀ k w, k < i → vs[k]? = some w → ∃ x, r.build element w = .ok x) :
    r.FailsFirst m (.array vs) (.item i :: p) f := by
  refine ⟨.item created there first.fails, fun q g other => ?_⟩
  cases other with
  | uncreated failed => cases created.symm.trans failed
  | unfit created' unfit =>
    cases created.symm.trans created'
    cases unfit
  | @item _ _ _ j w q _ created' there' fails =>
    cases created.symm.trans created'
    rcases Nat.lt_trichotomy j i with earlier | rfl | later
    · exact absurd (exists_build_iff.mp (before j w earlier there')) fails.not_conforms
    · cases there.symm.trans there'
      rcases first.first q g fails with ⟨rfl, rfl⟩ | precedes
      · exact .inl ⟨rfl, rfl⟩
      · exact .inr (Position.precedes_cons.mpr (.inr ⟨rfl, precedes⟩))
    · exact .inr (Position.precedes_cons.mpr (.inl later))

/-- An object fails at its declared members only: one is missing, or what is given for it fails. -/
theorem Fails.of_object {t : DataType} {es : List (String × Json)}
    (fails : r.Fails m (.object es) p f) (created : r.create m = .ok (.object m t [])) :
    ∃ k name own rest, p = .member k name :: rest ∧ t.members[k]? = some (name, own) ∧
      (rest = [] ∧ f = .requiredFieldMissing name ∧ own.required = true ∧ given? es name = none ∨
        ∃ v, given? es name = some v ∧ r.Fails own v rest f) := by
  cases fails with
  | uncreated failed => cases created.symm.trans failed
  | unfit created' unfit =>
    cases created.symm.trans created'
    cases unfit
  | missing created' there required absent =>
    cases created.symm.trans created'
    exact ⟨_, _, _, _, rfl, there, .inl ⟨rfl, rfl, required, absent⟩⟩
  | member created' there given inner =>
    cases created.symm.trans created'
    exact ⟨_, _, _, _, rfl, there, .inr ⟨_, given, inner⟩⟩

/-- Where the members before a place pass, what comes first at the place comes first. -/
theorem FailsFirst.of_place {t : DataType} {es : List (String × Json)} {k : Nat} {name : String}
    {own : Member} {e : ValueError} (stops : StopsAt r es t.members k name own e)
    (created : r.create m = .ok (.object m t []))
    (fails : r.Fails m (.object es) (.member k name :: p) f)
    (first : ∀ q g, r.Fails m (.object es) (.member k name :: q) g → q = p ∧ g = f ∨ p.Precedes q) :
    r.FailsFirst m (.object es) (.member k name :: p) f := by
  refine ⟨fails, fun q g other => ?_⟩
  obtain ⟨j, name', own', rest, rfl, there, how⟩ := other.of_object created
  rcases Nat.lt_trichotomy j k with earlier | rfl | later
  · have passes := stops.before j _ earlier there
    rcases how with ⟨-, -, required, absent⟩ | ⟨w, given, inner⟩
    · have present := passes.present required
      rw [absent] at present
      cases present
    · exact absurd (passes.conforms w given) inner.not_conforms
  · cases there.symm.trans stops.there
    rcases first rest g other with ⟨rfl, rfl⟩ | precedes
    · exact .inl ⟨rfl, rfl⟩
    · exact .inr (Position.precedes_cons.mpr (.inr ⟨rfl, precedes⟩))
  · exact .inr (Position.precedes_cons.mpr (.inl later))

/-- A missing member is the first that fails when those before it pass. -/
theorem FailsFirst.missing {t : DataType} {es : List (String × Json)} {k : Nat} {name : String}
    {own : Member} {e : ValueError} (stops : StopsAt r es t.members k name own e)
    (created : r.create m = .ok (.object m t [])) (absent : given? es name = none)
    (required : own.required = true) :
    r.FailsFirst m (.object es) [.member k name] (.requiredFieldMissing name) := by
  refine .of_place stops created (.missing created stops.there required absent) ?_
  intro q g other
  obtain ⟨_, _, own', rest, same, there, how⟩ := other.of_object created
  cases same
  rcases how with ⟨rfl, rfl, -⟩ | ⟨w, given, -⟩
  · exact .inl ⟨rfl, rfl⟩
  · cases absent.symm.trans given

/-- The first failing position of what is given for a member is that of the object when the members
before it pass. -/
theorem FailsFirst.member {t : DataType} {es : List (String × Json)} {k : Nat} {name : String}
    {own : Member} {e : ValueError} (first : r.FailsFirst own v p f)
    (stops : StopsAt r es t.members k name own e) (created : r.create m = .ok (.object m t []))
    (given : given? es name = some v) : r.FailsFirst m (.object es) (.member k name :: p) f := by
  refine .of_place stops created (.member created stops.there given first.fails) ?_
  intro q g other
  obtain ⟨_, _, own', rest, same, there, how⟩ := other.of_object created
  cases same
  cases stops.there.symm.trans there
  rcases how with ⟨-, -, -, absent⟩ | ⟨w, given', inner⟩
  · cases given.symm.trans absent
  · cases given.symm.trans given'
    exact first.first q g inner

end TypeRegistry

/-! ### Ways as text -/

/-- A name that reads as one in a way: not empty, and without a bracket in front. -/
def Plain (name : String) : Prop := ∃ c cs, name.toList = c :: cs ∧ c ≠ '['

def ValueStep.Plain : ValueStep → Prop
  | .item _ => True
  | .member _ name => ApiGateway.Plain name

namespace TypeRegistry

/-- All members of the declared types have plain names. -/
def PlainNames (r : TypeRegistry) : Prop := ∀ t ∈ r.types, ∀ e ∈ t.members, Plain e.1

/-- No member of the declared types has a blank name. -/
def Named (r : TypeRegistry) : Prop :=
  ∀ t ∈ r.types, ∀ e ∈ t.members, Text.isBlankText e.1 = false

theorem Named.register {r r' : TypeRegistry} {t : DataType} (named : r.Named)
    (registered : r.register t = .ok r') : r'.Named := by
  unfold TypeRegistry.register at registered
  split_ifs at registered with blank builtin known unnamed
  cases registered
  intro t' there e listed
  rcases List.mem_append.mp there with before | new
  · exact named t' before e listed
  · rw [List.mem_singleton.mp new] at listed
    exact Bool.eq_false_iff.mpr fun blank => unnamed (List.any_eq_true.mpr ⟨e, listed, blank⟩)

/-- Types are not registered with members that have no name. -/
theorem named_of_ofTypes {types : List DataType} {r : TypeRegistry}
    (registered : ofTypes types = .ok r) : r.Named := by
  have each : ∀ (types : List DataType) {before : TypeRegistry}, before.Named →
      types.foldlM TypeRegistry.register before = .ok r → r.Named := by
    intro types
    induction types with
    | nil =>
      intro before named registered
      cases registered
      exact named
    | cons t types ih =>
      intro before named registered
      rw [List.foldlM_cons] at registered
      obtain ⟨next, first, rest⟩ := bind_eq_ok_iff.mp registered
      exact ih (named.register first) rest
  exact each types (fun t there => absurd there List.not_mem_nil) registered

theorem Named.plainNames {r : TypeRegistry} (named : r.Named)
    (unbracketed : ∀ t ∈ r.types, ∀ e ∈ t.members, e.1.toList.head? ≠ some '[') : r.PlainNames := by
  intro t there e listed
  have visible := named t there e listed
  have unopened := unbracketed t there e listed
  unfold Text.isBlankText at visible
  cases spelled : e.1.toList with
  | nil =>
    rw [spelled] at visible
    cases visible
  | cons c cs =>
    rw [spelled, List.head?_cons, ne_eq, Option.some_inj] at unopened
    exact ⟨c, cs, spelled, unopened⟩

variable {r : TypeRegistry} {m : Member} {v : Json} {p : Position} {f : ValueFault}

theorem Fails.plain (fails : r.Fails m v p f) (names : r.PlainNames) : ∀ s ∈ p, s.Plain := by
  have declared : ∀ {m : Member} {t : DataType} {k : Nat} {name : String} {own : Member},
      r.create m = .ok (.object m t []) → t.members[k]? = some (name, own) → Plain name := by
    intro m t k name own created there
    cases create_eq_ok_iff.mp created with
    | object _ _ found =>
      exact names t (List.mem_of_find?_eq_some found) _ (List.mem_of_getElem? there)
  induction fails with
  | uncreated => exact nofun
  | unfit => exact nofun
  | item _ _ _ ih => exact List.forall_mem_cons.mpr ⟨trivial, ih⟩
  | missing created there => exact List.forall_mem_cons.mpr ⟨declared created there, nofun⟩
  | member created there _ _ ih => exact List.forall_mem_cons.mpr ⟨declared created there, ih⟩

theorem Fails.plain_reported (fails : r.Fails m v p f) (names : r.PlainNames) :
    ∀ s ∈ f.reportedAt p, s.Plain := by
  cases f with
  | requiredFieldMissing name => exact fun s there => fails.plain names s (p.dropLast_subset there)
  | _ => exact fails.plain names

/-- Only a member can be missing, never the value as a whole. -/
theorem Fails.reportedAt_cons (fails : r.Fails m v p f) (s : ValueStep) :
    f.reportedAt (s :: p) = s :: f.reportedAt p := by
  cases f with
  | requiredFieldMissing name =>
    cases fails with
    | uncreated failed =>
      rcases fault_of_create failed with ⟨_, same⟩ | ⟨_, same⟩ <;> cases same
    | unfit _ unfit => exact absurd unfit (Json.unfit?_ne_missing v _ name)
    | item => rfl
    | missing => rfl
    | member => rfl
  | _ => rfl

end TypeRegistry

theorem ValueError.within_located {p : Position} (plain : ∀ s ∈ p, s.Plain) (s : ValueStep)
    (f : ValueFault) : (located p f).within s.text = located (s :: p) f := by
  cases p with
  | nil => simp [located, within, Position.way, Position.joined]
  | cons t p =>
    have first := plain t List.mem_cons_self
    cases t with
    | item i =>
      simp [located, within, Position.way, Position.joined, ValueStep.text, ValueStep.attached,
        indexSegment]
    | member k name =>
      obtain ⟨c, cs, spelled, plain⟩ := first
      simp [located, within, Position.way, Position.joined, ValueStep.text, ValueStep.attached,
        spelled, plain, String.append_assoc]

namespace TypeRegistry

variable {r : TypeRegistry} {m : Member} {v : Json} {e : ValueError}

/-- The error that a step hands outwards is that of the position seen from outside the step. -/
theorem Fails.located_within {p : Position} {f : ValueFault} (fails : r.Fails m v p f)
    (names : r.PlainNames) (s : ValueStep) :
    (ValueError.located (f.reportedAt p) f).within s.text = .located (f.reportedAt (s :: p)) f := by
  rw [fails.reportedAt_cons]
  exact ValueError.within_located (fails.plain_reported names) s f

/-- What cannot be built fails with the error of the first position. -/
theorem locates_build (names : r.PlainNames) (failed : r.build m v = .error e) :
    ∃ p f, r.FailsFirst m v p f ∧ e = .located (f.reportedAt p) f := by
  induction v using Json.within_induction generalizing m e with
  | step v items entries =>
    cases created : r.create m with
    | error f =>
      cases (build_of_fault created v).symm.trans failed
      exact ⟨[], f, .of_nil (.uncreated created), by cases f <;> rfl⟩
    | ok x =>
      rw [build_of_create created] at failed
      cases unfit : v.unfit? x with
      | some f =>
        cases (fill_of_unfit unfit r).symm.trans failed
        exact ⟨[], f, .of_nil (.unfit created unfit), by cases f <;> rfl⟩
      | none =>
        -- The value fits, so that a part of it fails, and scalars have no parts.
        cases create_eq_ok_iff.mp created with
        | integer => exact absurd unfit (unfit_of_fill_scalar ((fill_int ..).symm.trans failed))
        | float => exact absurd unfit (unfit_of_fill_scalar ((fill_float ..).symm.trans failed))
        | boolean => exact absurd unfit (unfit_of_fill_scalar ((fill_bool ..).symm.trans failed))
        | string => exact absurd unfit (unfit_of_fill_scalar ((fill_string ..).symm.trans failed))
        | array =>
          cases v with
          | array vs =>
            rw [fill_array] at failed
            obtain ⟨i, w, inner, there, refused, rfl, before⟩ :=
              first_of_fillItems (map_eq_error_iff.mp failed)
            obtain ⟨p, f, first, rfl⟩ := items vs rfl w (List.mem_of_getElem? there) refused
            refine ⟨.item i :: p, f, first.item created there before, ?_⟩
            rw [Nat.zero_add]
            exact first.fails.located_within names (.item i)
          | _ => cases unfit
        | object =>
          cases v with
          | object es =>
            rw [fill_object] at failed
            obtain ⟨k, name, own, stops⟩ := first_of_fillMembers (map_eq_error_iff.mp failed)
            rcases stops.fails with ⟨absent, required, rfl⟩ | ⟨w, inner, given, refused, rfl⟩
            · exact ⟨_, _, .missing stops created absent required, rfl⟩
            · have there := (Json.mem_of_given? given).1
              obtain ⟨p, f, first, rfl⟩ := entries es rfl (name, w) there refused
              exact ⟨.member k name :: p, f, first.member stops created given,
                first.fails.located_within names (.member k name)⟩
          | _ => cases unfit

end TypeRegistry

/-- A new variable that cannot be set to a value fails with the error of the first position at which
the value fails: the fault there, under the way to it, and under nothing else. -/
theorem Variable.locates_setValue {types : List DataType} {r : TypeRegistry}
    (registered : TypeRegistry.ofTypes types = .ok r)
    (unbracketed : ∀ t ∈ r.types, ∀ e ∈ t.members, e.1.toList.head? ≠ some '[') {m : Member}
    {x : Variable} (created : r.create m = .ok x) {v : Json} {e : ValueError}
    (failed : (setValue r v x).1 = .error e) :
    ∃ p f, r.FailsFirst m v p f ∧ e = .located (f.reportedAt p) f := by
  have names := (TypeRegistry.named_of_ofTypes registered).plainNames unbracketed
  rw [setValue_error_iff, ← TypeRegistry.build_of_create created] at failed
  exact TypeRegistry.locates_build names failed

/-- A reply to a reply lacks its text; that the next reply has no text either, and votes that are no
number, comes later. -/
theorem Variable.locates_setValue_comment :
    let fresh : Variable := .object (.ofItems "Comment") commentType []
    let raw : Json := .object
      [("replies", .array
          [.object [("replies", .array [.object [("text", .null)]]), ("text", .string "b")],
            .object [("votes", .string "many")]]),
        ("text", .string "a")]
    let e : ValueError :=
      .inside "replies[0].replies[0]" (.bare (.requiredFieldMissing "text"))
    TypeRegistry.ofTypes [commentType] = .ok comments ∧
      comments.create (.ofItems "Comment") = .ok fresh ∧
      (setValue comments raw fresh).1 = .error e ∧
      ∃ p f, comments.FailsFirst (.ofItems "Comment") raw p f ∧
        e = .located (f.reportedAt p) f := by
  intro fresh raw e
  have registered : TypeRegistry.ofTypes [commentType] = .ok comments := rfl
  have created : comments.create (.ofItems "Comment") = .ok fresh := rfl
  have failed : (setValue comments raw fresh).1 = .error e := rfl
  exact ⟨registered, created, failed, locates_setValue registered (by decide) created failed⟩

end ApiGateway
