import ApiGateway.Proofs.Attempts
import ApiGateway.Proofs.Json.Entries
import ApiGateway.Value.Params

/-
Filling variables whose types are known.

A registry is closed when the members of its types have types that it knows itself. A variable of a
known type then has only parts of known types, however deep a value reaches into it, so that filling
it fails for the value alone and never for its type.

* `ValueFault.ofSchema` - the faults that lie with the declared types.
* `Member.Known`, `TypeRegistry.Closed` - types that a registry knows, all the way down.
* `Variable.Fillable` - an empty variable whose parts have known types;
  `TypeRegistry.exists_create` - that of a known member.
* `Variable.fill_blameless` - no value brings such a fault about.
* `ParamBinder.bind_blameless` - neither does a request.
-/

namespace ApiGateway

/-- The fault lies with the declared types and not with the value. -/
def ValueFault.ofSchema : ValueFault → Bool
  | .unknownType _ | .nestedArray _ | .nilHoldsNothing => true
  | _ => false

/-- The error lies with the value. -/
def ValueError.Blameless (e : ValueError) : Prop := e.fault.ofSchema = false

/-- Seen from outside a member, an error lies with the value as before. -/
theorem OnlyFails.within {α : Type} {x : Except ValueError α}
    (h : OnlyFails x ValueError.Blameless) (segment : String) :
    OnlyFails (x.mapError (·.within segment)) ValueError.Blameless :=
  h.mapError fun e fault => (congrArg ValueFault.ofSchema (e.fault_within segment)).trans fault

/-! ### Known types -/

namespace TypeRegistry

/-- The name is that of a builtin or a declared type. -/
def Knows (r : TypeRegistry) (name : String) : Prop :=
  name ∈ builtinTypes ∨ ∃ t, r.find? name = some t

end TypeRegistry

/-- The type of the member is known, or that of its items. -/
def Member.Known (r : TypeRegistry) (m : Member) : Prop :=
  ∃ name, r.Knows name ∧ (m.type = .named name ∨ m.type = .list [.named name])

/-- The types of all members are known. -/
def Members.Known (r : TypeRegistry) (ms : Members) : Prop := ∀ entry ∈ ms, entry.2.Known r

namespace TypeRegistry

/-- The declared types are made of known types. -/
def Closed (r : TypeRegistry) : Prop := ∀ t ∈ r.types, t.members.Known r

end TypeRegistry

namespace Variable

/-- A variable that can be filled: one that holds something, the parts of it of known types. -/
def Fillable (r : TypeRegistry) : Variable → Prop
  | .array _ element _ => element.Known r
  | .object _ t _ => t.members.Known r
  | .nil => False
  | _ => True

end Variable

namespace TypeRegistry

variable {r : TypeRegistry} {m : Member}

theorem exists_createNamed (closed : r.Closed) {name : String} (knows : r.Knows name) (m : Member) :
    ∃ x, r.createNamed name m = .ok x ∧ x.Fillable r := by
  unfold createNamed
  split
  · exact ⟨_, rfl, trivial⟩
  · exact ⟨_, rfl, trivial⟩
  · exact ⟨_, rfl, trivial⟩
  · exact ⟨_, rfl, trivial⟩
  · rename_i integer float boolean string
    rcases knows with builtin | ⟨t, found⟩
    · simp only [builtinTypes, List.mem_cons, List.not_mem_nil, or_false] at builtin
      rcases builtin with same | same | same | same
      · exact absurd same integer
      · exact absurd same float
      · exact absurd same boolean
      · exact absurd same string
    · rw [found]
      exact ⟨_, rfl, closed t (List.mem_of_find?_eq_some found)⟩

/-- A member of a known type has an empty variable that can be filled. -/
theorem exists_create (closed : r.Closed) (known : m.Known r) :
    ∃ x, r.create m = .ok x ∧ x.Fillable r := by
  obtain ⟨name, knows, single | items⟩ := known
  · obtain ⟨x, created, fillable⟩ := exists_createNamed closed knows m
    exact ⟨x, by rw [create, single]; exact created, fillable⟩
  · obtain ⟨x, created, -⟩ := exists_createNamed closed knows { type := .named name }
    refine ⟨.array m { type := .named name } [], ?_, name, knows, .inl rfl⟩
    rw [create, items]
    dsimp only
    rw [created]
    rfl

end TypeRegistry

/-! ### Filling -/

namespace Variable

variable {r : TypeRegistry} {m : Member}

/-- What fills a variable of known parts never fails for their types. -/
def Filler.Blameless (r : TypeRegistry) (fill : Filler) : Prop :=
  ∀ x : Variable, x.Fillable r → OnlyFails (fill x) ValueError.Blameless

theorem convert_blameless {α : Type} (v : Json) (expected : String) (read : Option α) :
    OnlyFails ((v.convert expected read).mapError faulty) ValueError.Blameless := by
  cases read with
  | some x => exact .ok x
  | none => exact .error rfl

theorem fillNew_blameless (closed : r.Closed) (known : m.Known r) {fill : Filler}
    (blameless : fill.Blameless r) : OnlyFails (fillNew r m fill) ValueError.Blameless := by
  obtain ⟨x, created, fillable⟩ := TypeRegistry.exists_create closed known
  rw [fillNew, created]
  exact blameless x fillable

theorem fillItems_blameless (closed : r.Closed) (known : m.Known r) {fills : List Filler}
    (each : ∀ fill ∈ fills, Filler.Blameless r fill) (i : Nat) :
    OnlyFails (fillItems r m i fills) ValueError.Blameless := by
  induction fills generalizing i with
  | nil => exact .ok []
  | cons fill fills ih =>
    rw [List.forall_mem_cons] at each
    have first := (fillNew_blameless closed known each.1).within (ValueError.indexSegment i)
    exact first.bind fun v _ => (ih each.2 (i + 1)).bind fun vs _ => .ok (v :: vs)

theorem fillMembers_blameless (closed : r.Closed) {ms : Members} (known : ms.Known r)
    {fills : List (String × Filler)} (each : ∀ entry ∈ fills, Filler.Blameless r entry.2) :
    OnlyFails (fillMembers r fills ms) ValueError.Blameless := by
  induction ms with
  | nil => exact .ok []
  | cons entry ms ih =>
    obtain ⟨name, m⟩ := entry
    obtain ⟨own, rest⟩ := List.forall_mem_cons.mp known
    rw [fillMembers]
    cases found : fills.lookup name with
    | none =>
      dsimp only
      split
      · exact .error rfl
      · exact ih rest
    | some fill =>
      have first := (fillNew_blameless closed own (each _ (mem_of_lookup found))).within name
      exact first.bind fun v _ => (ih rest).bind fun vs _ => .ok ((name, v) :: vs)

/-- A variable is filled blamelessly from a value when its parts are from those of the value. -/
theorem fillFrom_blameless (closed : r.Closed) (v : Json) {items : List Filler}
    {members : List (String × Filler)} (items_each : ∀ fill ∈ items, Filler.Blameless r fill)
    (members_each : ∀ entry ∈ members, Filler.Blameless r entry.2) :
    Filler.Blameless r (fillFrom r v items members) := by
  intro x fillable
  cases x with
  | int m i => exact (convert_blameless v "integer" _).map _
  | float m x => exact (convert_blameless v "float" _).map _
  | bool m b => exact (convert_blameless v "boolean" _).map _
  | string m s => exact (convert_blameless v "string" _).map _
  | array m element xs =>
    cases v with
    | array vs => exact (fillItems_blameless closed fillable items_each 0).map _
    | _ => exact .error rfl
  | object m t xs =>
    cases v with
    | object es => exact (fillMembers_blameless closed fillable members_each).map _
    | _ => exact .error rfl
  | nil => exact absurd fillable id

mutual
/-- No value brings about a fault of the types, however deep it is. -/
theorem fill_blameless (closed : r.Closed) (v : Json) : Filler.Blameless r (fill r v) := by
  have none := List.forall_mem_nil (Filler.Blameless r)
  have none' := List.forall_mem_nil fun entry : String × Filler => Filler.Blameless r entry.2
  cases v with
  | array vs => exact fillFrom_blameless closed _ (itemFillers_blameless closed vs) none'
  | object es => exact fillFrom_blameless closed _ none (entryFillers_blameless closed es)
  | null => exact fillFrom_blameless closed _ none none'
  | bool b => exact fillFrom_blameless closed _ none none'
  | number n => exact fillFrom_blameless closed _ none none'
  | string s => exact fillFrom_blameless closed _ none none'

theorem itemFillers_blameless (closed : r.Closed) (vs : List Json) :
    ∀ fill ∈ itemFillers r vs, Filler.Blameless r fill := by
  cases vs with
  | nil => exact List.forall_mem_nil _
  | cons v vs =>
    exact List.forall_mem_cons.mpr ⟨fill_blameless closed v, itemFillers_blameless closed vs⟩

theorem entryFillers_blameless (closed : r.Closed) (es : List (String × Json)) :
    ∀ entry ∈ entryFillers r es, Filler.Blameless r entry.2 := by
  cases es with
  | nil => exact List.forall_mem_nil _
  | cons e es =>
    obtain ⟨k, v⟩ := e
    rw [entryFillers]
    split
    · exact entryFillers_blameless closed es
    · exact List.forall_mem_cons.mpr ⟨fill_blameless closed v, entryFillers_blameless closed es⟩
end

/-! ### Validating -/

theorem checkLength_blameless (m : Member) (length : Nat) :
    OnlyFails ((checkLength m length).mapError faulty) ValueError.Blameless := by
  have bounds : OnlyFails (checkLength m length) fun f => f.ofSchema = false := by
    unfold checkLength
    -- Each bound that is there is missed, or the next is looked at.
    repeat' first
      | exact .error rfl
      | exact .ok ()
      | split
  exact bounds.mapError fun _ fault => fault

theorem checkMembers_blameless {results : List (String × Except ValueError Unit)}
    (each : ∀ entry ∈ results, OnlyFails entry.2 ValueError.Blameless) (ms : Members) :
    OnlyFails (checkMembers results ms) ValueError.Blameless := by
  induction ms with
  | nil => exact .ok ()
  | cons entry ms ih =>
    obtain ⟨name, m⟩ := entry
    rw [checkMembers]
    cases found : results.lookup name with
    | none => exact ih
    | some result =>
      exact ((each _ (mem_of_lookup found)).within name).bind fun _ _ => ih

mutual
/-- A value out of its bounds is at fault itself. -/
theorem validate_blameless (x : Variable) : OnlyFails x.validate ValueError.Blameless := by
  cases x with
  | int m i => exact .ok ()
  | float m x => exact .ok ()
  | bool m b => exact .ok ()
  | string m s => exact checkLength_blameless m s.length
  | array m element xs =>
    rw [validate]
    exact (checkLength_blameless m xs.length).bind fun _ _ => validateItems_blameless 0 xs
  | object m t xs =>
    rw [validate]
    exact checkMembers_blameless (validateMembers_blameless xs) t.members
  | nil => exact .ok ()

theorem validateItems_blameless (i : Nat) (xs : List Variable) :
    OnlyFails (validateItems i xs) ValueError.Blameless := by
  cases xs with
  | nil => exact .ok ()
  | cons x xs =>
    rw [validateItems]
    have first := (validate_blameless x).within (ValueError.indexSegment i)
    exact first.bind fun _ _ => validateItems_blameless (i + 1) xs

theorem validateMembers_blameless (xs : List (String × Variable)) :
    ∀ entry ∈ validateMembers xs, OnlyFails entry.2 ValueError.Blameless := by
  cases xs with
  | nil => exact List.forall_mem_nil _
  | cons entry xs =>
    obtain ⟨name, x⟩ := entry
    exact List.forall_mem_cons.mpr ⟨validate_blameless x, validateMembers_blameless xs⟩
end

end Variable

/-! ### Binding -/

namespace ParamBinder

variable {b : ParamBinder}

/-- The declared types of a binder are made of known types, and so are its parameters. -/
structure Closed (b : ParamBinder) : Prop where
  types : b.types.Closed
  groups : ∀ group ∈ b.groups, group.2.Known b.types

theorem bindOne_blameless (closed : b.types.Closed) (reader : ParamReader)
    (bound : List (String × Variable)) (source : ParamSource) (name : String) {m : Member}
    (known : m.Known b.types) :
    OnlyFails (b.bindOne reader bound source name m) ValueError.Blameless := by
  unfold bindOne
  split
  · split
    · exact .error rfl
    · exact .ok _
  · rename_i v _
    have filled := Variable.fillNew_blameless closed known (Variable.fill_blameless closed v)
    refine (filled.within name).bind fun x _ => ?_
    exact ((Variable.validate_blameless x).within name).bind fun _ _ => .ok _

/-- Whatever a request brings, its parameters are refused for their values only. -/
theorem bind_blameless (closed : b.Closed) (reader : ParamReader) :
    OnlyFails (b.bind reader) ValueError.Blameless := by
  unfold bind
  split
  · exact .ok _
  · refine OnlyFails.bind (.foldlM (fun entry declared bound => ?_) []) fun bound _ => .ok _
    obtain ⟨group, hgroup, listed⟩ := List.mem_flatMap.mp declared
    obtain ⟨own, hown, rfl⟩ := List.mem_map.mp listed
    exact bindOne_blameless closed.types reader bound group.1 own.1
      (closed.groups group hgroup own hown)

end ParamBinder

end ApiGateway
