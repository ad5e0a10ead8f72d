import ApiGateway.Proofs.Json.Parts
import ApiGateway.Proofs.Value.Filling

/-
Which values variables can be built from, and what they hold then.

A variable is built from a value by filling an empty one of its member. Whether that succeeds is a
matter of the value and the type of the member (`TypeRegistry.Conforms`), and what comes out is one
of the value and the member (`TypeRegistry.Holds`). Neither assumes anything of the registry: types
may be recursive, and members may have types that nobody declares.

* `Json.given?` - the value under a name; null stands for a value that is not there.
* `TypeRegistry.Empty` - the empty variable of a member.
* `TypeRegistry.build` - a variable that is created and filled; `Variable.fillItems_eq_ok_iff`,
  `Variable.fillMembers_eq_ok_iff` - the same for the parts.
* `TypeRegistry.build_eq_ok_iff` - what is built is what holds the value.
* `TypeRegistry.exists_build_iff` - it can be built exactly when the value conforms.
-/

namespace ApiGateway

/-! ### Lists side by side -/

section

variable {α β : Type} {as : List α} {bs : List β}

theorem exists_zip_left (lengths : as.length = bs.length) {a : α} (there : a ∈ as) :
    ∃ b, (a, b) ∈ as.zip bs := by
  rw [← List.map_fst_zip lengths.le] at there
  obtain ⟨⟨a, b⟩, pair, rfl⟩ := List.mem_map.mp there
  exact ⟨b, pair⟩

theorem exists_zip_right (lengths : as.length = bs.length) {b : β} (there : b ∈ bs) :
    ∃ a, (a, b) ∈ as.zip bs := by
  rw [← List.map_snd_zip lengths.ge] at there
  obtain ⟨⟨a, b⟩, pair, rfl⟩ := List.mem_map.mp there
  exact ⟨a, pair⟩

/-- Names that are the same in order are the same side by side. -/
theorem eq_of_names {ms : List (String × α)} {xs : List (String × β)}
    (names : xs.map (·.1) = ms.map (·.1)) {e : String × α} {x : String × β}
    (there : (e, x) ∈ ms.zip xs) : x.1 = e.1 := by
  induction ms generalizing xs with
  | nil => cases there
  | cons e' ms ih =>
    cases xs with
    | nil => cases there
    | cons x' xs =>
      rw [List.map_cons, List.map_cons, List.cons.injEq] at names
      rcases List.mem_cons.mp there with same | later
      · cases same
        exact names.1
      · exact ih names.2 later

theorem length_of_names {ms : List (String × α)} {xs : List (String × β)}
    (names : xs.map (·.1) = ms.map (·.1)) : ms.length = xs.length := by
  simpa using (congrArg List.length names).symm

theorem exists_forall₂ {R : α → β → Prop} (each : ∀ a ∈ as, ∃ b, R a b) :
    ∃ bs, List.Forall₂ R as bs := by
  induction as with
  | nil => exact ⟨[], .nil⟩
  | cons a as ih =>
    rw [List.forall_mem_cons] at each
    obtain ⟨b, first⟩ := each.1
    obtain ⟨bs, rest⟩ := ih each.2
    exact ⟨b :: bs, .cons first rest⟩

end

/-! ### What an object gives -/

namespace Json

/-- The value that is given under a name; null stands for a value that is not there. -/
def given? (entries : List (String × Json)) (name : String) : Option Json :=
  (entries.filter fun e => !e.2.isNull).lookup name

variable {es : List (String × Json)} {name : String} {v : Json}

theorem mem_of_given? (given : given? es name = some v) : (name, v) ∈ es ∧ v.isNull = false := by
  have there := List.mem_filter.mp (mem_of_lookup given)
  exact ⟨there.1, by simpa using there.2⟩

/-- Where no key stands twice, what is given is what is there, unless it is null. -/
theorem given?_of_nodup (distinct : (es.map (·.1)).Nodup) (name : String) :
    given? es name = (es.lookup name).filter fun v => !v.isNull := by
  have kept : ((es.filter fun e => !e.2.isNull).map (·.1)).Nodup :=
    distinct.sublist (List.filter_sublist.map _)
  refine Option.ext fun v => ?_
  rw [given?, lookup_eq_some_iff kept, List.mem_filter, Option.filter_eq_some_iff,
    lookup_eq_some_iff distinct]

end Json

open Json (given?)

/-- The declared members that entries give, in the order of declaration. -/
def Members.given (ms : Members) (entries : List (String × Json)) : Members :=
  ms.filter fun e => (given? entries e.1).isSome

theorem Members.mem_given_iff {ms : Members} {es : List (String × Json)} {e : String × Member} :
    e ∈ ms.given es ↔ e ∈ ms ∧ ∃ v, given? es e.1 = some v := by
  rw [Members.given, List.mem_filter, Option.isSome_iff_exists]

/-- All required members are given. -/
def Members.Complete (ms : Members) (entries : List (String × Json)) : Prop :=
  ∀ e ∈ ms, e.2.required = true → (given? entries e.1).isSome = true

def Variable.isArray : Variable → Bool
  | .array _ _ _ => true
  | _ => false

/-- The member of the items of an array. -/
abbrev Member.ofItems (name : String) : Member := { type := .named name }

namespace TypeRegistry

/-! ### Conforming values and what holds them -/

/-- The value conforms to the type: it can be converted, all its items conform, or it gives all
required members and those it gives conform. Entries that are no declared members do not count. -/
inductive Conforms (r : TypeRegistry) : TypeExpr → Json → Prop
  | integer {v : Json} {i : Int} : v.integerValue? = some i → Conforms r (.named "integer") v
  | float {v : Json} {x : Double} : v.floatValue? = some x → Conforms r (.named "float") v
  | boolean {v : Json} {b : Bool} : v.boolValue? = some b → Conforms r (.named "boolean") v
  | string {v : Json} {s : String} : v.stringValue? = some s → Conforms r (.named "string") v
  | array {name : String} {vs : List Json} : r.Knows name →
      (∀ v ∈ vs, Conforms r (.named name) v) → Conforms r (.list [.named name]) (.array vs)
  | object {name : String} {t : DataType} {es : List (String × Json)} : name ∉ builtinTypes →
      r.find? name = some t → t.members.Complete es →
      (∀ e ∈ t.members, ∀ v, given? es e.1 = some v → Conforms r e.2.type v) →
      Conforms r (.named name) (.object es)

/-- The variable of a member that holds a value. An array has an item for each item of the value, in
order, none an array itself; an object has the declared members that the value gives and no others,
in the order of declaration. -/
inductive Holds (r : TypeRegistry) : Member → Json → Variable → Prop
  | integer {m : Member} {v : Json} {i : Int} : m.type = .named "integer" →
      v.integerValue? = some i → Holds r m v (.int m i)
  | float {m : Member} {v : Json} {x : Double} : m.type = .named "float" →
      v.floatValue? = some x → Holds r m v (.float m x)
  | boolean {m : Member} {v : Json} {b : Bool} : m.type = .named "boolean" →
      v.boolValue? = some b → Holds r m v (.bool m b)
  | string {m : Member} {v : Json} {s : String} : m.type = .named "string" →
      v.stringValue? = some s → Holds r m v (.string m s)
  | array {m : Member} {name : String} {vs : List Json} {xs : List Variable} :
      m.type = .list [.named name] → r.Knows name → vs.length = xs.length →
      (∀ v x, (v, x) ∈ vs.zip xs → Holds r (.ofItems name) v x) → (∀ x ∈ xs, x.isArray = false) →
      Holds r m (.array vs) (.array m (.ofItems name) xs)
  | object {m : Member} {name : String} {t : DataType} {es : List (String × Json)}
      {xs : List (String × Variable)} : m.type = .named name → name ∉ builtinTypes →
      r.find? name = some t → t.members.Complete es →
      xs.map (·.1) = (t.members.given es).map (·.1) →
      (∀ e x v, (e, x) ∈ (t.members.given es).zip xs → given? es e.1 = some v →
        Holds r e.2 v x.2) →
      Holds r m (.object es) (.object m t xs)

/-! ### Empty variables -/

variable {r : TypeRegistry} {m : Member}

/-- The empty variable of a member whose type is known. -/
inductive Empty (r : TypeRegistry) (m : Member) : Variable → Prop
  | integer : m.type = .named "integer" → Empty r m (.int m 0)
  | float : m.type = .named "float" → Empty r m (.float m (Double.zero false))
  | boolean : m.type = .named "boolean" → Empty r m (.bool m false)
  | string : m.type = .named "string" → Empty r m (.string m "")
  | array {name : String} : m.type = .list [.named name] → r.Knows name →
      Empty r m (.array m (.ofItems name) [])
  | object {name : String} {t : DataType} : m.type = .named name → name ∉ builtinTypes →
      r.find? name = some t → Empty r m (.object m t [])

theorem createNamed_of_declared {name : String} (declared : name ∉ builtinTypes) (m : Member) :
    r.createNamed name m = match r.find? name with
      | some t => .ok (.object m t [])
      | none => .error (.unknownType name) := by
  simp only [builtinTypes, List.mem_cons, List.not_mem_nil, or_false, not_or] at declared
  obtain ⟨integer, float, boolean, string⟩ := declared
  unfold createNamed
  split <;> first | contradiction | rfl

theorem exists_createNamed_iff {name : String} :
    (∃ x, r.createNamed name m = .ok x) ↔ r.Knows name := by
  by_cases builtin : name ∈ builtinTypes
  · refine ⟨fun _ => .inl builtin, fun _ => ?_⟩
    simp only [builtinTypes, List.mem_cons, List.not_mem_nil, or_false] at builtin
    obtain rfl | rfl | rfl | rfl := builtin <;> exact ⟨_, rfl⟩
  · rw [createNamed_of_declared builtin]
    cases found : r.find? name with
    | none => simp [Knows, builtin, found]
    | some t => simp [Knows, found]

theorem empty_of_createNamed {name : String} {x : Variable} (type : m.type = .named name)
    (created : r.createNamed name m = .ok x) : r.Empty m x := by
  by_cases builtin : name ∈ builtinTypes
  · simp only [builtinTypes, List.mem_cons, List.not_mem_nil, or_false] at builtin
    obtain rfl | rfl | rfl | rfl := builtin
    · cases created
      exact .integer type
    · cases created
      exact .float type
    · cases created
      exact .boolean type
    · cases created
      exact .string type
  · rw [createNamed_of_declared builtin] at created
    split at created
    next t found =>
      cases created
      exact .object type builtin found
    next => cases created

/-- What is created for a member is its empty variable. -/
theorem create_eq_ok_iff {x : Variable} : r.create m = .ok x ↔ r.Empty m x := by
  constructor
  · intro created
    unfold create at created
    split at created
    next name type => exact empty_of_createNamed type created
    next items type =>
      split at created
      · cases created
      · split at created
        next name =>
          obtain ⟨y, known, same⟩ := bind_eq_ok_iff.mp created
          cases same
          exact .array type (exists_createNamed_iff.mp ⟨y, known⟩)
        next => cases created
  · intro empty
    cases empty with
    | integer type => rw [create, type]; rfl
    | float type => rw [create, type]; rfl
    | boolean type => rw [create, type]; rfl
    | string type => rw [create, type]; rfl
    | array type knows =>
      obtain ⟨y, known⟩ := exists_createNamed_iff (m := .ofItems _) |>.mpr knows
      rw [create, type]
      dsimp only
      rw [known]
      rfl
    | object type declared found =>
      rw [create, type]
      dsimp only
      rw [createNamed_of_declared declared, found]

/-! ### Building -/

/-- A new variable of a member, filled from a value. -/
def build (r : TypeRegistry) (m : Member) (v : Json) : Except ValueError Variable :=
  Variable.fillNew r m (Variable.fill r v)

theorem build_of_create {x : Variable} (created : r.create m = .ok x) (v : Json) :
    r.build m v = Variable.fill r v x := by
  rw [build, Variable.fillNew, created]
  rfl

theorem build_of_fault {f : ValueFault} (failed : r.create m = .error f) (v : Json) :
    r.build m v = .error (.bare f) := by
  rw [build, Variable.fillNew, failed]
  rfl

end TypeRegistry

namespace Variable

variable {r : TypeRegistry} {m : Member} {v : Json}

/-- A member is filled from what is given under its name. -/
theorem lookup_entryFillers (r : TypeRegistry) (es : List (String × Json)) (name : String) :
    (entryFillers r es).lookup name = (given? es name).map (fill r) := by
  induction es with
  | nil => rfl
  | cons e es ih =>
    obtain ⟨k, v⟩ := e
    cases null : v.isNull with
    | true => simpa [entryFillers, given?, null] using ih
    | false =>
      simp only [entryFillers, given?, null, List.filter_cons] at ih ⊢
      by_cases same : name = k
      · simp [same]
      · simpa [same, Json.lookup_cons] using ih

/-- The items of an array are those that the items of the value make, in order. -/
theorem fillItems_eq_ok_iff {vs : List Json} {xs : List Variable} {i : Nat} :
    fillItems r m i (itemFillers r vs) = .ok xs ↔
      List.Forall₂ (fun v x => r.build m v = .ok x) vs xs := by
  induction vs generalizing xs i with
  | nil =>
    rw [itemFillers, fillItems, List.forall₂_nil_left_iff]
    exact ⟨fun h => by cases h; rfl, fun h => by rw [h]⟩
  | cons v vs ih =>
    rw [itemFillers, fillItems, List.forall₂_cons_left_iff]
    constructor
    · intro filled
      obtain ⟨x, first, rest⟩ := bind_eq_ok_iff.mp filled
      obtain ⟨xs', later, same⟩ := bind_eq_ok_iff.mp rest
      cases same
      exact ⟨x, xs', mapError_eq_ok_iff.mp first, ih.mp later, rfl⟩
    · rintro ⟨x, xs', first, later, rfl⟩
      exact bind_eq_ok_iff.mpr ⟨x, mapError_eq_ok_iff.mpr first,
        bind_eq_ok_iff.mpr ⟨xs', ih.mpr later, rfl⟩⟩

/-- The part of an object is that of the declared member, built from what is given for it. -/
def MadeFor (r : TypeRegistry) (es : List (String × Json)) (e : String × Member)
    (x : String × Variable) : Prop :=
  x.1 = e.1 ∧ ∃ v, given? es e.1 = some v ∧ r.build e.2 v = .ok x.2

theorem names_of_made {es : List (String × Json)} {ms : Members} {xs : List (String × Variable)}
    (made : List.Forall₂ (MadeFor r es) ms xs) : xs.map (·.1) = ms.map (·.1) := by
  induction made with
  | nil => rfl
  | cons first _ ih => rw [List.map_cons, List.map_cons, first.1, ih]

/-- The parts of an object are those of the members that are given, in the order of declaration; no
required one is left out. -/
theorem fillMembers_eq_ok_iff {es : List (String × Json)} {ms : Members}
    {xs : List (String × Variable)} :
    fillMembers r (entryFillers r es) ms = .ok xs ↔
      ms.Complete es ∧ List.Forall₂ (MadeFor r es) (ms.given es) xs := by
  induction ms generalizing xs with
  | nil =>
    rw [fillMembers, Members.given, List.filter_nil, List.forall₂_nil_left_iff]
    constructor
    · intro filled
      cases filled
      exact ⟨fun _ there => absurd there List.not_mem_nil, rfl⟩
    · intro made
      rw [made.2]
  | cons e ms ih =>
    obtain ⟨name, own⟩ := e
    rw [fillMembers, lookup_entryFillers, Members.Complete, List.forall_mem_cons, Members.given,
      List.filter_cons]
    cases present : given? es name with
    | none =>
      simp only [Option.map_none, Option.isSome_none, Bool.false_eq_true, if_false, imp_false]
      by_cases required : own.required = true
      · simp [required]
      · rw [if_neg required]
        simp only [required, true_and, Bool.not_eq_true]
        exact ih
    | some v =>
      simp only [Option.map_some, Option.isSome_some, if_true, implies_true, true_and,
        List.forall₂_cons_left_iff]
      constructor
      · intro filled
        obtain ⟨x, first, rest⟩ := bind_eq_ok_iff.mp filled
        obtain ⟨xs', later, same⟩ := bind_eq_ok_iff.mp rest
        cases same
        obtain ⟨complete, each⟩ := ih.mp later
        exact ⟨complete, (name, x), xs', ⟨rfl, v, present, mapError_eq_ok_iff.mp first⟩, each, rfl⟩
      · rintro ⟨complete, x, xs', ⟨same, w, given, built⟩, each, rfl⟩
        obtain ⟨k, x⟩ := x
        cases same
        cases present.symm.trans given
        exact bind_eq_ok_iff.mpr ⟨x, mapError_eq_ok_iff.mpr built,
          bind_eq_ok_iff.mpr ⟨xs', ih.mpr ⟨complete, each⟩, rfl⟩⟩

/-! ### Filling one variable -/

theorem fill_int (r : TypeRegistry) (v : Json) (m : Member) (i : Int) :
    fill r v (.int m i) = (v.toInteger.mapError faulty).map (.int m) := by cases v <;> rfl

theorem fill_float (r : TypeRegistry) (v : Json) (m : Member) (x : Double) :
    fill r v (.float m x) = (v.toFloat.mapError faulty).map (.float m) := by cases v <;> rfl

theorem fill_bool (r : TypeRegistry) (v : Json) (m : Member) (b : Bool) :
    fill r v (.bool m b) = (v.toBool.mapError faulty).map (.bool m) := by cases v <;> rfl

theorem fill_string (r : TypeRegistry) (v : Json) (m : Member) (s : String) :
    fill r v (.string m s) = (v.toStringValue.mapError faulty).map (.string m) := by
  cases v <;> rfl

theorem fill_array (r : TypeRegistry) (vs : List Json) (m element : Member) (xs : List Variable) :
    fill r (.array vs) (.array m element xs) =
      (fillItems r element 0 (itemFillers r vs)).map (.array m element) := rfl

theorem fill_object (r : TypeRegistry) (es : List (String × Json)) (m : Member) (t : DataType)
    (xs : List (String × Variable)) :
    fill r (.object es) (.object m t xs) =
      (fillMembers r (entryFillers r es) t.members).map (.object m t) := rfl

theorem convert_eq_ok_iff {α : Type} {expected : String} {read : Option α} {f : α → Variable}
    {x : Variable} :
    ((v.convert expected read).mapError faulty).map f = .ok x ↔ ∃ a, read = some a ∧ f a = x := by
  cases read <;> simp [Json.convert, Except.mapError, Except.map]

end Variable

open Variable

namespace TypeRegistry

variable {r : TypeRegistry} {m : Member} {v : Json} {x : Variable}

theorem build_eq_ok_iff_fill :
    r.build m v = .ok x ↔ ∃ y, r.Empty m y ∧ fill r v y = .ok x := by
  cases created : r.create m with
  | error f =>
    rw [build_of_fault created]
    simp only [← create_eq_ok_iff, created, reduceCtorEq, false_and, exists_false]
  | ok y =>
    rw [build_of_create created]
    simp only [← create_eq_ok_iff, created, Except.ok.injEq, exists_eq_left']

/-- Items of a named type are no arrays. -/
theorem Holds.isArray {name : String} (holds : r.Holds (.ofItems name) v x) :
    x.isArray = false := by
  cases holds with
  | array type => cases type
  | _ => rfl

/-- What is built from a value holds the value. -/
theorem holds_of_build (built : r.build m v = .ok x) : r.Holds m v x := by
  induction v using Json.within_induction generalizing m x with
  | step v items entries =>
    obtain ⟨y, empty, filled⟩ := build_eq_ok_iff_fill.mp built
    cases empty with
    | integer type =>
      rw [fill_int] at filled
      obtain ⟨i, read, rfl⟩ := convert_eq_ok_iff.mp filled
      exact .integer type read
    | float type =>
      rw [fill_float] at filled
      obtain ⟨y, read, rfl⟩ := convert_eq_ok_iff.mp filled
      exact .float type read
    | boolean type =>
      rw [fill_bool] at filled
      obtain ⟨b, read, rfl⟩ := convert_eq_ok_iff.mp filled
      exact .boolean type read
    | string type =>
      rw [fill_string] at filled
      obtain ⟨s, read, rfl⟩ := convert_eq_ok_iff.mp filled
      exact .string type read
    | @array name type knows =>
      cases v with
      | array vs =>
        rw [fill_array] at filled
        obtain ⟨xs, each, rfl⟩ := map_eq_ok_iff.mp filled
        obtain ⟨lengths, zipped⟩ := List.forall₂_iff_zip.mp (fillItems_eq_ok_iff.mp each)
        have held : ∀ v x, (v, x) ∈ vs.zip xs → r.Holds (.ofItems name) v x := fun v x there =>
          items vs rfl v (List.of_mem_zip there).1 (zipped there)
        refine .array type knows lengths held fun x there => ?_
        obtain ⟨v, pair⟩ := exists_zip_right lengths there
        exact (held v x pair).isArray
      | _ => cases filled
    | @object name t type declared found =>
      cases v with
      | object es =>
        rw [fill_object] at filled
        obtain ⟨xs, each, rfl⟩ := map_eq_ok_iff.mp filled
        obtain ⟨complete, made⟩ := fillMembers_eq_ok_iff.mp each
        refine .object type declared found complete (names_of_made made) fun e x v there given => ?_
        obtain ⟨-, w, given', own⟩ := List.forall₂_zip made there
        cases given.symm.trans given'
        exact entries es rfl (e.1, v) (Json.mem_of_given? given).1 own
      | _ => cases filled

/-- What holds a value is what is built from it. -/
theorem build_of_holds (holds : r.Holds m v x) : r.build m v = .ok x := by
  induction holds with
  | integer type read =>
    refine build_eq_ok_iff_fill.mpr ⟨_, .integer type, ?_⟩
    rw [fill_int]
    exact convert_eq_ok_iff.mpr ⟨_, read, rfl⟩
  | float type read =>
    refine build_eq_ok_iff_fill.mpr ⟨_, .float type, ?_⟩
    rw [fill_float]
    exact convert_eq_ok_iff.mpr ⟨_, read, rfl⟩
  | boolean type read =>
    refine build_eq_ok_iff_fill.mpr ⟨_, .boolean type, ?_⟩
    rw [fill_bool]
    exact convert_eq_ok_iff.mpr ⟨_, read, rfl⟩
  | string type read =>
    refine build_eq_ok_iff_fill.mpr ⟨_, .string type, ?_⟩
    rw [fill_string]
    exact convert_eq_ok_iff.mpr ⟨_, read, rfl⟩
  | array type knows lengths _ _ each =>
    have items := List.forall₂_iff_zip.mpr ⟨lengths, fun {v x} there => each v x there⟩
    refine build_eq_ok_iff_fill.mpr ⟨_, .array type knows, ?_⟩
    rw [fill_array]
    exact map_eq_ok_iff.mpr ⟨_, fillItems_eq_ok_iff.mpr items, rfl⟩
  | @object m name t es xs type declared found complete names _ each =>
    have made : List.Forall₂ (MadeFor r es) (t.members.given es) xs := by
      refine List.forall₂_iff_zip.mpr ⟨length_of_names names, fun {e x} there => ?_⟩
      obtain ⟨-, v, given⟩ := Members.mem_given_iff.mp (List.of_mem_zip there).1
      exact ⟨eq_of_names names there, v, given, each e x v there given⟩
    refine build_eq_ok_iff_fill.mpr ⟨_, .object type declared found, ?_⟩
    rw [fill_object]
    exact map_eq_ok_iff.mpr ⟨xs, fillMembers_eq_ok_iff.mpr ⟨complete, made⟩, rfl⟩

theorem build_eq_ok_iff : r.build m v = .ok x ↔ r.Holds m v x := ⟨holds_of_build, build_of_holds⟩

/-! ### Conforming -/

/-- A value that a variable holds conforms to the type of its member. -/
theorem Holds.conforms (holds : r.Holds m v x) : r.Conforms m.type v := by
  induction holds with
  | integer type read => exact type ▸ .integer read
  | float type read => exact type ▸ .float read
  | boolean type read => exact type ▸ .boolean read
  | string type read => exact type ▸ .string read
  | array type knows lengths _ _ each =>
    refine type ▸ .array knows fun v there => ?_
    obtain ⟨x, pair⟩ := exists_zip_left lengths there
    exact each v x pair
  | @object m name t es xs type declared found complete names _ each =>
    refine type ▸ .object declared found complete fun e there v given => ?_
    obtain ⟨x, pair⟩ := exists_zip_left (length_of_names names)
      (Members.mem_given_iff.mpr ⟨there, v, given⟩)
    exact each e x v pair given

/-- A variable is built from every value that conforms. -/
theorem exists_build_of_conforms {type : TypeExpr} (conforms : r.Conforms type v)
    (same : m.type = type) : ∃ x, r.build m v = .ok x := by
  induction conforms generalizing m with
  | integer read => exact ⟨_, build_of_holds (.integer same read)⟩
  | float read => exact ⟨_, build_of_holds (.float same read)⟩
  | boolean read => exact ⟨_, build_of_holds (.boolean same read)⟩
  | string read => exact ⟨_, build_of_holds (.string same read)⟩
  | @array name vs knows _ each =>
    obtain ⟨xs, items⟩ := exists_forall₂ fun v there => each v there (m := .ofItems name) rfl
    refine ⟨.array m (.ofItems name) xs, build_eq_ok_iff_fill.mpr ⟨_, .array same knows, ?_⟩⟩
    rw [fill_array]
    exact map_eq_ok_iff.mpr ⟨xs, fillItems_eq_ok_iff.mpr items, rfl⟩
  | @object name t es declared found complete _ each =>
    have parts : ∀ e ∈ t.members.given es, ∃ x, MadeFor r es e x := by
      intro e there
      obtain ⟨listed, v, given⟩ := Members.mem_given_iff.mp there
      obtain ⟨x, built⟩ := each e listed v given rfl
      exact ⟨(e.1, x), rfl, v, given, built⟩
    obtain ⟨xs, made⟩ := exists_forall₂ parts
    refine ⟨.object m t xs, build_eq_ok_iff_fill.mpr ⟨_, .object same declared found, ?_⟩⟩
    rw [fill_object]
    exact map_eq_ok_iff.mpr ⟨xs, fillMembers_eq_ok_iff.mpr ⟨complete, made⟩, rfl⟩

/-- Exactly the values that conform to its type make a variable of a member. -/
theorem exists_build_iff : (∃ x, r.build m v = .ok x) ↔ r.Conforms m.type v :=
  ⟨fun ⟨_, built⟩ => (holds_of_build built).conforms, fun conforms =>
    exists_build_of_conforms conforms rfl⟩

end TypeRegistry

end ApiGateway
