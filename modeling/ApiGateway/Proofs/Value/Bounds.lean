import ApiGateway.Proofs.Value.Locating
import ApiGateway.Proofs.Value.WellFormed

/-
Where a variable breaks its length bounds.

Texts and arrays have lengths, counted in characters and items, and the member that declares them
bounds these. Validation goes through a variable and stops at the first part that breaks a bound: an
array comes before its items, items in the order of their index, members in that of their
declaration. Members of the type that are not there are passed over, and none that is there is left
out. The error has the first fault of that part, under the way to it.

* `Member.Admits`, `Member.lengthFaults` - a length that keeps the bounds, and the faults of others.
* `Variable.At` - the part of a variable at a position.
* `Variable.BreaksFirst` - the first position at which a bound is broken, and the fault there.
* `ValueError.found` - the error of a fault at a position, whatever the names on the way to it.
* `Variable.locates_validate` - a variable is valid when all its parts keep their bounds, and
  otherwise fails with the error of the first that does not.
-/

namespace ApiGateway

/-! ### One length -/

/-- What is wrong with a length, in the order in which it is looked for. -/
def Member.lengthFaults (m : Member) (n : Nat) : List ValueFault :=
  (if m.required && n == 0 then [.requiredValueEmpty] else []) ++
    (m.length.toList.filter (n ≠ ·)).map (.lengthNot · n) ++
    (m.minLength.toList.filter (n < ·)).map (.lengthBelow · n) ++
    (m.maxLength.toList.filter (· < n)).map (.lengthAbove · n)

/-- A length keeps the bounds of a member. -/
structure Member.Admits (m : Member) (n : Nat) : Prop where
  present : m.required = true → n ≠ 0
  length : ∀ k ∈ m.length, n = k
  least : ∀ k ∈ m.minLength, k ≤ n
  greatest : ∀ k ∈ m.maxLength, n ≤ k

theorem Member.lengthFaults_eq_nil_iff {m : Member} {n : Nat} :
    m.lengthFaults n = [] ↔ m.Admits n := by
  simp only [lengthFaults, List.append_eq_nil_iff, List.map_eq_nil_iff, List.filter_eq_nil_iff,
    Option.mem_toList, ite_eq_right_iff, List.cons_ne_nil, Bool.and_eq_true, beq_iff_eq, imp_false,
    not_and, decide_eq_true_eq, not_not, not_lt, and_assoc]
  exact ⟨fun ⟨present, length, least, greatest⟩ => ⟨present, length, least, greatest⟩,
    fun admits => ⟨admits.present, admits.length, admits.least, admits.greatest⟩⟩

/-- An attempt that fails with the first of some faults. -/
def firstFault (fs : List ValueFault) : Except ValueFault Unit :=
  match fs.head? with
  | none => .ok ()
  | some f => .error f

theorem firstFault_append (fs gs : List ValueFault) :
    firstFault (fs ++ gs) = firstFault fs >>= fun _ => firstFault gs := by
  cases fs <;> rfl

theorem Variable.checkLength_eq (m : Member) (n : Nat) :
    checkLength m n = firstFault (m.lengthFaults n) := by
  have bound : ∀ (k? : Option Nat) (missed : Nat → Prop) [DecidablePred missed]
      (fault : Nat → ValueFault),
      firstFault ((k?.toList.filter fun k => missed k).map fault) =
        k?.elim (pure ()) fun k => if missed k then .error (fault k) else pure () := by
    intro k? missed _ fault
    cases k? with
    | none => rfl
    | some k =>
      by_cases broken : missed k <;> simp [firstFault, broken, pure, Except.pure]
  rw [Member.lengthFaults, firstFault_append, firstFault_append, firstFault_append, bound, bound,
    bound]
  unfold checkLength
  cases m.length <;> cases m.minLength <;> cases m.maxLength <;>
    dsimp only [Option.elim_some, Option.elim_none] <;> split_ifs <;> rfl

namespace Variable

/-- The length of a text or an array, with the member that bounds it. -/
def measure? : Variable → Option (Member × Nat)
  | .string m s => some (m, s.toList.length)
  | .array m _ items => some (m, items.length)
  | _ => none

/-- The length of the variable itself, if it has one, keeps its bounds. -/
def KeepsBounds (x : Variable) : Prop := ∀ m n, x.measure? = some (m, n) → m.Admits n

/-- What is wrong first with the length of the variable itself. -/
def fault? (x : Variable) : Option ValueFault :=
  x.measure?.bind fun (m, n) => (m.lengthFaults n).head?

variable {x y z : Variable} {p : Position} {f : ValueFault}

theorem fault?_eq_none_iff : x.fault? = none ↔ x.KeepsBounds := by
  unfold fault? KeepsBounds
  cases x.measure? with
  | none => simp
  | some measure =>
    obtain ⟨m, n⟩ := measure
    simp [Member.lengthFaults_eq_nil_iff]

/-! ### Parts at positions -/

/-- The part that a step leads to: an item, or a member in the place where the type declares it. -/
inductive PartAt : Variable → ValueStep → Variable → Prop
  | item {m element : Member} {xs : List Variable} {i : Nat} {y : Variable} : xs[i]? = some y →
      PartAt (.array m element xs) (.item i) y
  | member {m : Member} {t : DataType} {xs : List (String × Variable)} {k : Nat} {name : String}
      {own : Member} {y : Variable} : t.members[k]? = some (name, own) → (name, y) ∈ xs →
      PartAt (.object m t xs) (.member k name) y

/-- The part at a position. -/
inductive At : Variable → Position → Variable → Prop
  | here {x : Variable} : At x [] x
  | inside {x y z : Variable} {s : ValueStep} {p : Position} : PartAt x s y → At y p z →
      At x (s :: p) z

/-- The part at a position breaks a bound, with a fault that is its first. -/
def Breaks (x : Variable) (p : Position) (f : ValueFault) : Prop :=
  ∃ y, x.At p y ∧ y.fault? = some f

/-- The first position at which a variable breaks a bound, and its fault there. -/
structure BreaksFirst (x : Variable) (p : Position) (f : ValueFault) : Prop where
  breaks : x.Breaks p f
  first : ∀ q g, x.Breaks q g → q = p ∧ g = f ∨ p.Precedes q

theorem breaks_nil_iff : x.Breaks [] f ↔ x.fault? = some f := by
  constructor
  · rintro ⟨_, here, fault⟩
    cases here
    exact fault
  · exact fun fault => ⟨x, .here, fault⟩

theorem breaks_cons_iff {s : ValueStep} :
    x.Breaks (s :: p) f ↔ ∃ y, x.PartAt s y ∧ y.Breaks p f := by
  constructor
  · rintro ⟨z, there, fault⟩
    cases there with
    | inside part inner => exact ⟨_, part, z, inner, fault⟩
  · rintro ⟨y, part, z, inner, fault⟩
    exact ⟨z, .inside part inner, fault⟩

/-- One step leads to one part only. -/
theorem WellFormed.partAt_unique (wellFormed : x.WellFormed) {s t : ValueStep}
    (part : x.PartAt s y) (other : x.PartAt t z) (same : s.rank = t.rank) : s = t ∧ y = z := by
  cases part with
  | item there =>
    cases other with
    | item there' =>
      cases same
      cases there.symm.trans there'
      exact ⟨rfl, rfl⟩
  | member declared there =>
    cases other with
    | member declared' there' =>
      cases same
      cases declared.symm.trans declared'
      cases wellFormed with
      | object distinct names _ =>
        have once := distinct.sublist names
        rw [← Json.lookup_eq_some_iff once] at there there'
        cases there.symm.trans there'
        exact ⟨rfl, rfl⟩

/-- The parts inside a variable are those that steps lead to, and all inside these. -/
theorem WellFormed.mem_parts_iff (wellFormed : x.WellFormed) :
    y ∈ x.parts ↔ y = x ∨ ∃ s z, x.PartAt s z ∧ y ∈ z.parts := by
  have alone : (∀ s z, ¬x.PartAt s z) → x.parts = [x] →
      (y ∈ x.parts ↔ y = x ∨ ∃ s z, x.PartAt s z ∧ y ∈ z.parts) := by
    intro partless single
    rw [single, List.mem_singleton]
    exact ⟨.inl, fun h => h.resolve_right fun ⟨s, z, part, _⟩ => partless s z part⟩
  cases wellFormed with
  | int => exact alone nofun rfl
  | float => exact alone nofun rfl
  | bool => exact alone nofun rfl
  | string => exact alone nofun rfl
  | array =>
    rw [mem_parts_array]
    refine or_congr_right ⟨fun ⟨z, there, inside⟩ => ?_, fun ⟨s, z, part, inside⟩ => ?_⟩
    · obtain ⟨i, there⟩ := List.mem_iff_getElem?.mp there
      exact ⟨.item i, z, .item there, inside⟩
    · cases part with
      | item there => exact ⟨z, List.mem_of_getElem? there, inside⟩
  | @object m t xs distinct names _ =>
    rw [mem_parts_object]
    refine or_congr_right ⟨fun ⟨z, there, inside⟩ => ?_, fun ⟨s, z, part, inside⟩ => ?_⟩
    · obtain ⟨own, listed, same⟩ := List.mem_map.mp (names.subset (List.mem_map_of_mem there))
      obtain ⟨k, declared⟩ := List.mem_iff_getElem?.mp listed
      obtain ⟨name, own⟩ := own
      cases same
      exact ⟨.member k z.1, z.2, .member declared there, inside⟩
    · cases part with
      | member _ there => exact ⟨_, there, inside⟩

/-- What passes from the parts of a variable to the variable holds of all variables. -/
theorem WellFormed.part_induction {P : Variable → Prop}
    (step : ∀ x : Variable, x.WellFormed → (∀ s y, x.PartAt s y → P y) → P x)
    (wellFormed : x.WellFormed) : P x := by
  induction wellFormed with
  | int signed => exact step _ (.int signed) nofun
  | float => exact step _ .float nofun
  | bool => exact step _ .bool nofun
  | string => exact step _ .string nofun
  | array each ih =>
    refine step _ (.array each) fun s y part => ?_
    cases part with
    | item there => exact ih _ (List.mem_of_getElem? there)
  | object distinct names each ih =>
    refine step _ (.object distinct names each) fun s y part => ?_
    cases part with
    | member _ there => exact ih _ there

/-- All parts of a variable have positions. -/
theorem WellFormed.mem_parts_iff_at (wellFormed : x.WellFormed) :
    y ∈ x.parts ↔ ∃ p, x.At p y := by
  refine wellFormed.part_induction (P := fun x => y ∈ x.parts ↔ ∃ p, x.At p y) ?_
  intro x wellFormed each
  rw [wellFormed.mem_parts_iff]
  constructor
  · rintro (rfl | ⟨s, z, part, inside⟩)
    · exact ⟨[], .here⟩
    · obtain ⟨p, there⟩ := (each s z part).mp inside
      exact ⟨s :: p, .inside part there⟩
  · rintro ⟨p, there⟩
    cases there with
    | here => exact .inl rfl
    | inside part inner => exact .inr ⟨_, _, part, (each _ _ part).mpr ⟨_, inner⟩⟩

/-! ### The first part that breaks a bound -/

theorem BreaksFirst.of_fault (fault : x.fault? = some f) : x.BreaksFirst [] f := by
  refine ⟨breaks_nil_iff.mpr fault, fun q g other => ?_⟩
  cases q with
  | nil =>
    cases fault.symm.trans (breaks_nil_iff.mp other)
    exact .inl ⟨rfl, rfl⟩
  | cons s q => exact .inr (List.nil_lt_cons s.rank (q.map ValueStep.rank))

/-- Where neither the variable itself nor a part before breaks a bound, the first position of a part
that does is the first of the variable. -/
theorem BreaksFirst.inside {s : ValueStep} (first : y.BreaksFirst p f)
    (wellFormed : x.WellFormed) (part : x.PartAt s y) (own : x.fault? = none)
    (before : ∀ t z, x.PartAt t z → t.rank < s.rank → ∀ q g, ¬z.Breaks q g) :
    x.BreaksFirst (s :: p) f := by
  refine ⟨breaks_cons_iff.mpr ⟨y, part, first.breaks⟩, fun q g other => ?_⟩
  cases q with
  | nil => cases own.symm.trans (breaks_nil_iff.mp other)
  | cons t q =>
    obtain ⟨z, other_part, breaks⟩ := breaks_cons_iff.mp other
    rcases Nat.lt_trichotomy t.rank s.rank with earlier | same | later
    · exact absurd breaks (before t z other_part earlier q g)
    · obtain ⟨rfl, rfl⟩ := wellFormed.partAt_unique other_part part same
      rcases first.first q g breaks with ⟨rfl, rfl⟩ | precedes
      · exact .inl ⟨rfl, rfl⟩
      · exact .inr (Position.precedes_cons.mpr (.inr ⟨rfl, precedes⟩))
    · exact .inr (Position.precedes_cons.mpr (.inl later))

/-- There is one first position only. -/
theorem BreaksFirst.unique {q : Position} {g : ValueFault} (first : x.BreaksFirst p f)
    (other : x.BreaksFirst q g) : q = p ∧ g = f := by
  rcases first.first q g other.breaks with same | precedes
  · exact same
  · rcases other.first p f first.breaks with ⟨rfl, rfl⟩ | precedes'
    · exact ⟨rfl, rfl⟩
    · exact absurd precedes' (List.lt_asymm precedes)

end Variable

/-! ### The way to a position -/

namespace Position

/-- What stands behind a step: it is attached if it opens with a bracket, and follows a point
otherwise. -/
def behind (way : String) : String := if way.toList.head? = some '[' then way else "." ++ way

/-- The way to a position, whatever the names on it are. -/
def path : Position → String
  | [] => ""
  | [s] => s.text
  | s :: t :: p => s.text ++ behind (path (t :: p))

end Position

namespace ValueError

/-- The error of a fault at a position. -/
def found (p : Position) (f : ValueFault) : ValueError :=
  if p.isEmpty then .bare f else .inside p.path (.bare f)

theorem within_found (p : Position) (f : ValueFault) (s : ValueStep) :
    (found p f).within s.text = found (s :: p) f := by cases p <;> rfl

/-- On names that read as names it is the error under the way as steps spell it. -/
theorem found_of_plain {p : Position} (plain : ∀ s ∈ p, s.Plain) (f : ValueFault) :
    found p f = located p f := by
  induction p with
  | nil => rfl
  | cons s p ih =>
    have rest := (List.forall_mem_cons.mp plain).2
    rw [← within_found, ih rest, within_located rest]

end ValueError

/-! ### Validation -/

namespace Variable

variable {x y : Variable}

/-- The step to an item. -/
def itemStep (e : Variable × Nat) : ValueStep × Variable := (.item e.2, e.1)

/-- The step to a declared member, if it is there. -/
def memberStep? (xs : List (String × Variable)) (e : (String × Member) × Nat) :
    Option (ValueStep × Variable) :=
  (xs.lookup e.1.1).map (.member e.2 e.1.1, ·)

/-- The parts of a variable under the steps to them, in the order in which they are validated. -/
def steps : Variable → List (ValueStep × Variable)
  | .array _ _ items => items.zipIdx.map itemStep
  | .object _ t members => t.members.zipIdx.filterMap (memberStep? members)
  | _ => []

theorem WellFormed.mem_steps_iff (wellFormed : x.WellFormed) {s : ValueStep} :
    (s, y) ∈ x.steps ↔ x.PartAt s y := by
  cases wellFormed with
  | int => exact ⟨nofun, nofun⟩
  | float => exact ⟨nofun, nofun⟩
  | bool => exact ⟨nofun, nofun⟩
  | string => exact ⟨nofun, nofun⟩
  | array =>
    rw [steps, List.mem_map]
    constructor
    · rintro ⟨⟨z, i⟩, there, same⟩
      cases same
      exact .item (List.mem_zipIdx_iff_getElem?.mp there)
    · intro part
      cases part with
      | @item _ _ _ i _ there => exact ⟨(y, i), List.mem_zipIdx_iff_getElem?.mpr there, rfl⟩
  | object distinct names _ =>
    have once := distinct.sublist names
    rw [steps, List.mem_filterMap]
    constructor
    · rintro ⟨⟨⟨name, own⟩, k⟩, declared, found⟩
      obtain ⟨z, there, same⟩ := Option.map_eq_some_iff.mp found
      cases same
      exact .member (List.mem_zipIdx_iff_getElem?.mp declared) (mem_of_lookup there)
    · intro part
      cases part with
      | @member _ _ _ k name own _ declared there =>
        refine ⟨((name, own), k), List.mem_zipIdx_iff_getElem?.mpr declared, ?_⟩
        rw [memberStep?, (Json.lookup_eq_some_iff once).mpr there, Option.map_some]

/-- Steps are taken in the order of their ranks. -/
theorem pairwise_steps (x : Variable) : x.steps.Pairwise fun s t => s.1.rank < t.1.rank := by
  have numbered : ∀ {α : Type} (as : List α), as.zipIdx.Pairwise fun a b => a.2 < b.2 := by
    intro α as
    rw [← List.pairwise_map, List.zipIdx_map_snd]
    exact List.pairwise_lt_range'
  cases x with
  | array m element xs => exact List.pairwise_map.mpr (numbered xs)
  | object m t xs =>
    refine (numbered t.members).filterMap _ fun e e' before s reached s' reached' => ?_
    obtain ⟨y, -, rfl⟩ := Option.map_eq_some_iff.mp reached
    obtain ⟨y', -, rfl⟩ := Option.map_eq_some_iff.mp reached'
    exact before
  | _ => exact .nil

/-- A part is validated and its error seen from outside the step to it. -/
def checkStep (s : ValueStep × Variable) : Except ValueError Unit :=
  s.2.validate.mapError (·.within s.1.text)

theorem validateItems_eq (xs : List Variable) (i : Nat) :
    validateItems i xs =
      ((xs.zipIdx i).map itemStep).foldlM (fun _ s => checkStep s) () := by
  induction xs generalizing i with
  | nil => rfl
  | cons x xs ih =>
    rw [validateItems, ih]
    rfl

theorem lookup_validateMembers (xs : List (String × Variable)) (name : String) :
    (validateMembers xs).lookup name = (xs.lookup name).map validate := by
  induction xs with
  | nil => rfl
  | cons x xs ih =>
    obtain ⟨k, x⟩ := x
    rw [validateMembers, Json.lookup_cons, Json.lookup_cons, ih]
    split <;> rfl

theorem checkMembers_eq (xs : List (String × Variable)) (ms : Members) (k : Nat) :
    checkMembers (validateMembers xs) ms =
      ((ms.zipIdx k).filterMap (memberStep? xs)).foldlM (fun _ s => checkStep s) () := by
  induction ms generalizing k with
  | nil => rfl
  | cons head ms ih =>
    obtain ⟨name, own⟩ := head
    rw [checkMembers, lookup_validateMembers, ih (k + 1), List.zipIdx_cons, List.filterMap_cons,
      memberStep?]
    cases xs.lookup name <;> rfl

/-- A variable is validated itself before its parts. -/
theorem validate_eq (x : Variable) :
    x.validate = match x.fault? with
      | none => x.steps.foldlM (fun _ s => checkStep s) ()
      | some f => .error (.bare f) := by
  cases x with
  | string m s =>
    have own : (string m s).fault? = (m.lengthFaults s.toList.length).head? := rfl
    rw [own, validate, checkLength_eq, ← String.length_toList]
    cases m.lengthFaults s.toList.length <;> rfl
  | array m element xs =>
    have own : (array m element xs).fault? = (m.lengthFaults xs.length).head? := rfl
    rw [own, validate, checkLength_eq, validateItems_eq]
    cases m.lengthFaults xs.length <;> rfl
  | object m t xs =>
    rw [validate, checkMembers_eq xs t.members 0]
    rfl
  | _ => rfl

/-- What validating a variable comes to: nothing in it breaks a bound, or the error is that of the
first part that does. -/
def Verdict (x : Variable) : Except ValueError Unit → Prop
  | .ok () => ∀ p f, ¬x.Breaks p f
  | .error e => ∃ p f, x.BreaksFirst p f ∧ e = .found p f

/-- Of a variable whose length is in order, and whose parts are validated rightly, the verdict is
that of the steps to these. -/
theorem WellFormed.verdict_steps (wellFormed : x.WellFormed) (own : x.fault? = none)
    (each : ∀ s y, x.PartAt s y → y.Verdict y.validate) :
    x.Verdict (x.steps.foldlM (fun _ s => checkStep s) ()) := by
  have apart : ∀ (_ : Unit) (s : ValueStep × Variable), ∃ f, checkStep s = (checkStep s).map f :=
    fun _ s => ⟨id, by cases checkStep s <;> rfl⟩
  have passed : ∀ s y, x.PartAt s y → (∃ u, checkStep (s, y) = .ok u) →
      ∀ q g, ¬y.Breaks q g := by
    intro s y part ⟨u, checked⟩
    have verdict := each s y part
    rw [mapError_eq_ok_iff.mp checked] at verdict
    exact verdict
  cases checked : x.steps.foldlM (fun _ s => checkStep s) () with
  | ok =>
    intro p f breaks
    cases p with
    | nil => cases own.symm.trans (breaks_nil_iff.mp breaks)
    | cons s p =>
      obtain ⟨y, part, inner⟩ := breaks_cons_iff.mp breaks
      have all := (exists_foldlM_iff apart ()).mp ⟨_, checked⟩
      exact passed s y part (all _ (wellFormed.mem_steps_iff.mpr part)) p f inner
  | error e =>
    obtain ⟨before, ⟨s, y⟩, after, split, earlier, failed⟩ :=
      (foldlM_eq_error_iff apart ()).mp checked
    obtain ⟨inner, refused, rfl⟩ := mapError_eq_error_iff.mp failed
    have part : x.PartAt s y := wellFormed.mem_steps_iff.mp (by rw [split]; simp)
    have verdict := each s y part
    rw [refused] at verdict
    obtain ⟨p, f, first, rfl⟩ := verdict
    refine ⟨s :: p, f, first.inside wellFormed part own ?_, ValueError.within_found p f s⟩
    intro t z other lower
    refine passed t z other (earlier _ ?_)
    -- The steps ascend, so that one of a lower rank stands before.
    have there := wellFormed.mem_steps_iff.mpr other
    have ascending := x.pairwise_steps
    rw [split] at there ascending
    rcases List.mem_append.mp there with there | there
    · exact there
    · have later := List.pairwise_cons.mp (List.pairwise_append.mp ascending).2.1
      rcases List.mem_cons.mp there with same | there
      · cases same
        exact absurd lower (Nat.lt_irrefl _)
      · exact absurd lower (Nat.lt_asymm (later.1 _ there))

theorem WellFormed.verdict (wellFormed : x.WellFormed) : x.Verdict x.validate := by
  refine wellFormed.part_induction (P := fun x => x.Verdict x.validate) ?_
  intro x wellFormed each
  rw [validate_eq]
  cases own : x.fault? with
  | some f => exact ⟨[], f, .of_fault own, rfl⟩
  | none => exact wellFormed.verdict_steps own each

/-- A variable that was created and set is valid exactly when every text and every array in it keeps
its bounds. Otherwise it fails with the error of the first that does not: the first fault of its
length, under the way to it, which is spelled as always when the names are plain. All that is in the
variable has a position. -/
theorem locates_validate (reachable : x.Reachable) :
    (x.validate = .ok () ↔ ∀ y ∈ x.parts, y.KeepsBounds) ∧
      (∀ e, x.validate = .error e ↔
        ∃ p f, x.BreaksFirst p f ∧ e = .found p f ∧ ((∀ s ∈ p, s.Plain) → e = .located p f)) ∧
      ∀ y, y ∈ x.parts ↔ ∃ p, x.At p y := by
  have wellFormed := reachable.wellFormed
  have verdict := wellFormed.verdict
  refine ⟨⟨fun valid y inside => ?_, fun kept => ?_⟩, fun e => ⟨fun failed => ?_, ?_⟩,
    fun y => wellFormed.mem_parts_iff_at⟩
  · obtain ⟨p, there⟩ := wellFormed.mem_parts_iff_at.mp inside
    rw [valid] at verdict
    rw [← fault?_eq_none_iff, Option.eq_none_iff_forall_ne_some]
    exact fun f fault => verdict p f ⟨y, there, fault⟩
  · cases validated : x.validate with
    | ok => rfl
    | error e =>
      rw [validated] at verdict
      obtain ⟨p, f, first, -⟩ := verdict
      obtain ⟨y, there, fault⟩ := first.breaks
      have none := fault?_eq_none_iff.mpr (kept y (wellFormed.mem_parts_iff_at.mpr ⟨p, there⟩))
      cases none.symm.trans fault
  · rw [failed] at verdict
    obtain ⟨p, f, first, rfl⟩ := verdict
    exact ⟨p, f, first, rfl, fun plain => ValueError.found_of_plain plain f⟩
  · rintro ⟨p, f, first, rfl, -⟩
    cases validated : x.validate with
    | ok =>
      rw [validated] at verdict
      exact absurd first.breaks (verdict p f)
    | error e =>
      rw [validated] at verdict
      obtain ⟨q, g, other, rfl⟩ := verdict
      obtain ⟨rfl, rfl⟩ := first.unique other
      rfl

/-- An article of an order. -/
def articleType : DataType :=
  { name := "Article"
    members := [("code", { type := .named "string", required := true, length := some 3 }),
      ("tags", { type := .list [.named "string"], maxLength := some 2 })] }

def orderType : DataType :=
  { name := "Order"
    members := [("note", { type := .named "string", maxLength := some 4 }),
      ("articles", { type := .list [.named "Article"], minLength := some 1 }),
      ("sender", { type := .named "string", minLength := some 5 })] }

def orders : TypeRegistry := ⟨[articleType, orderType]⟩

/-- An order with a note of four characters, a tag too many for its second article, whose code is
empty, and a sender whose name is too short. -/
def overlongOrder : Json :=
  .object [("articles", .array
      [.object [("code", .string "abc")],
        .object [("code", .string ""), ("tags", .array [.string "a", .string "b", .string "c"])]]),
    ("note", .string "né👍!"), ("sender", .string "ann")]

/-- The empty code comes first: before the tags, which are declared behind it, and before the
sender, whose name stands less deep. -/
theorem locates_validate_order :
    let x := (setValue orders overlongOrder (.object (.ofItems "Order") orderType [])).2
    let e : ValueError := .inside "articles[1].code" (.bare .requiredValueEmpty)
    x.Reachable ∧ x.validate = .error e ∧ ∃ p f, x.BreaksFirst p f ∧ e = .found p f ∧
      ((∀ s ∈ p, s.Plain) → e = .located p f) := by
  intro x e
  have distinct : orders.Distinct := by
    unfold TypeRegistry.Distinct
    decide
  have created : orders.create (.ofItems "Order") =
      .ok (.object (.ofItems "Order") orderType []) := rfl
  have reachable : x.Reachable := .set overlongOrder distinct (.created distinct created)
  have failed : x.validate = .error e := rfl
  exact ⟨reachable, failed, ((locates_validate reachable).2.1 e).mp failed⟩

end Variable

end ApiGateway
