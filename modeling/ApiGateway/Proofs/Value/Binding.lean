import ApiGateway.Proofs.Reading.Keyed
import ApiGateway.Proofs.Value.Setting
import Mathlib.Data.List.Induction

/-
What binding the parameters of a request comes to.

Each declared parameter binds on its own: what the request gives for it makes a variable, or nothing
is given and nothing required, or it is refused. What was bound before plays no part in that, not
even for a name that an earlier group declares. So all are bound when each is, and otherwise the
first that is refused decides (`ParamBinder.bound_bind`). Of a name in several groups the last one
counts, also when nothing is given for it there: then the name is not bound, whatever the earlier
groups gave.

* `ParamGroups.Distinct`, `ParamGroups.LastDeclares` - groups without repetitions, and the last that
  declares a name.
* `ParamBinder.BindsTo`, `ParamBinder.Refuses` - what one parameter comes to.
* `ParamBinder.Bound` - what all come to.
-/

namespace ApiGateway

/-- Where no key stands twice, the last element of a key is the only one. -/
theorem find?_reverse_eq_some_iff {α κ : Type} [DecidableEq κ] {key : α → κ} {as : List α}
    (once : (as.map key).Nodup) {k : κ} {a : α} :
    as.reverse.find? (key · == k) = some a ↔ a ∈ as ∧ key a = k := by
  constructor
  · intro found
    exact ⟨List.mem_reverse.mp (List.mem_of_find?_eq_some found),
      beq_iff_eq.mp (List.find?_some found :)⟩
  · rintro ⟨there, rfl⟩
    cases found : as.reverse.find? (key · == key a) with
    | none =>
      have other := List.find?_eq_none.mp found a (List.mem_reverse.mpr there)
      exact absurd (beq_self_eq_true _) other
    | some a' =>
      have there' := List.mem_reverse.mp (List.mem_of_find?_eq_some found)
      have named : key a' = key a := beq_iff_eq.mp (List.find?_some found :)
      rw [List.inj_on_of_nodup_map once there' there named]

/-! ### Declared parameters -/

namespace ParamGroups

/-- No group stands twice, and none declares a name twice. -/
structure Distinct (gs : ParamGroups) : Prop where
  sources : (gs.map (·.1)).Nodup
  names : ∀ g ∈ gs, (g.2.map (·.1)).Nodup

/-- The group is the last that declares the name, and declares it as this member. -/
def LastDeclares (gs : ParamGroups) (name : String) (source : ParamSource) (m : Member) : Prop :=
  ∃ before own after, gs = before ++ (source, own) :: after ∧ (name, m) ∈ own ∧
    ∀ g ∈ after, name ∉ g.2.map (·.1)

/-- The parameters of all groups, in the order of declaration. -/
def declared (gs : ParamGroups) : List (ParamSource × String × Member) :=
  gs.flatMap fun g => g.2.map fun e => (g.1, e)

variable {gs : ParamGroups} {name : String} {source : ParamSource} {m : Member}

/-- In a group, what is found under a name is what is declared under it. -/
theorem find?_group_eq_some_iff {own : Members} (distinct : (own.map (·.1)).Nodup)
    {d : ParamSource × String × Member} :
    (own.map fun e => (source, e)).reverse.find? (·.2.1 == name) = some d ↔
      d.1 = source ∧ d.2.1 = name ∧ d.2 ∈ own := by
  have once : ((own.map fun e => (source, e)).map fun d => d.2.1).Nodup := by
    rw [List.map_map]
    exact distinct
  rw [find?_reverse_eq_some_iff once, List.mem_map]
  constructor
  · rintro ⟨⟨e, there, rfl⟩, named⟩
    exact ⟨rfl, named, there⟩
  · rintro ⟨rfl, named, there⟩
    exact ⟨⟨d.2, there, rfl⟩, named⟩

theorem find?_group_eq_none_iff {own : Members} :
    (own.map fun e => (source, e)).reverse.find? (·.2.1 == name) = none ↔
      name ∉ own.map (·.1) := by
  rw [List.find?_eq_none]
  constructor
  · rintro others named
    obtain ⟨e, own, rfl⟩ := List.mem_map.mp named
    exact others (source, e) (List.mem_reverse.mpr (List.mem_map_of_mem own)) (beq_self_eq_true _)
  · intro absent d there named
    obtain ⟨e, own, rfl⟩ := List.mem_map.mp (List.mem_reverse.mp there)
    exact absent (List.mem_map.mpr ⟨e, own, beq_iff_eq.mp named⟩)

/-- The last declaration of a name stands in the last group that declares it. -/
theorem Distinct.last_declared_iff (distinct : gs.Distinct) :
    gs.declared.reverse.find? (·.2.1 == name) = some (source, name, m) ↔
      gs.LastDeclares name source m := by
  rw [declared, List.reverse_flatMap, List.find?_flatMap, List.findSome?_eq_some_iff]
  simp only [Function.comp_apply]
  constructor
  · rintro ⟨after, ⟨source', own⟩, before, split, found, passed⟩
    rw [List.reverse_eq_append_iff, List.reverse_cons, List.append_assoc] at split
    have names := distinct.names (source', own) (by rw [split]; simp)
    obtain ⟨rfl, -, there⟩ := (find?_group_eq_some_iff names).mp found
    refine ⟨before.reverse, own, after.reverse, split, there, fun g later => ?_⟩
    exact find?_group_eq_none_iff.mp (passed g (List.mem_reverse.mp later))
  · rintro ⟨before, own, after, rfl, there, passed⟩
    have names := distinct.names (source, own) (by simp)
    refine ⟨after.reverse, (source, own), before.reverse, by simp, ?_, fun g later => ?_⟩
    · exact (find?_group_eq_some_iff names).mpr ⟨rfl, rfl, there⟩
    · exact find?_group_eq_none_iff.mpr (passed g (List.mem_reverse.mp later))

theorem Distinct.exists_last_iff (distinct : gs.Distinct)
    {P : ParamSource × String × Member → Prop} :
    (∃ d, gs.declared.reverse.find? (·.2.1 == name) = some d ∧ P d) ↔
      ∃ source m, gs.LastDeclares name source m ∧ P (source, name, m) := by
  constructor
  · rintro ⟨⟨source, name', m⟩, last, holds⟩
    obtain rfl : name' = name := beq_iff_eq.mp (List.find?_some last :)
    exact ⟨source, m, distinct.last_declared_iff.mp last, holds⟩
  · rintro ⟨source, m, last, holds⟩
    exact ⟨_, distinct.last_declared_iff.mpr last, holds⟩

end ParamGroups

namespace TypeRegistry

variable {r : TypeRegistry} {m : Member} {v : Json}

/-- What can be built is a new variable that can be set. -/
theorem build_ok_iff_set {y : Variable} : r.build m v = .ok y ↔
    ∃ x, r.create m = .ok x ∧ Variable.setValue r v x = (.ok (), y) := by
  cases created : r.create m with
  | error f =>
    rw [build_of_fault created]
    exact ⟨nofun, fun ⟨_, same, _⟩ => by cases same⟩
  | ok x =>
    rw [build_of_create created, ← Variable.setValue_eq_ok_iff]
    exact ⟨fun set => ⟨x, rfl, set⟩, fun ⟨_, same, set⟩ => by cases same; exact set⟩

theorem build_error_iff_set {e : ValueError} : r.build m v = .error e ↔
    (∃ f, r.create m = .error f ∧ e = .bare f) ∨
      ∃ x, r.create m = .ok x ∧ (Variable.setValue r v x).1 = .error e := by
  cases created : r.create m with
  | error f =>
    rw [build_of_fault created]
    constructor
    · rintro ⟨⟩
      exact .inl ⟨f, rfl, rfl⟩
    · rintro (⟨_, same, rfl⟩ | ⟨_, same, _⟩)
      · cases same
        rfl
      · cases same
  | ok x =>
    rw [build_of_create created, ← Variable.setValue_error_iff]
    constructor
    · exact fun failed => .inr ⟨x, rfl, failed⟩
    · rintro (⟨_, same, _⟩ | ⟨_, same, failed⟩)
      · cases same
      · cases same
        exact failed

end TypeRegistry

/-- The value that a reader gives for a parameter; null stands for a value that is not there. -/
def ParamReader.given? (reader : ParamReader) (source : ParamSource) (name : String) :
    Option Json :=
  (reader source name).filter fun v => !v.isNull

namespace ParamBinder

/-! ### One parameter -/

/-- What a declared parameter is bound to on its own: to nothing, if nothing is given and nothing
required, and else to a new variable of its member that was set and is valid. -/
inductive BindsTo (b : ParamBinder) (reader : ParamReader) :
    ParamSource × String × Member → Option Variable → Prop
  | absent {source : ParamSource} {name : String} {m : Member} :
      ParamReader.given? reader source name = none → m.required = false →
      BindsTo b reader (source, name, m) none
  | present {source : ParamSource} {name : String} {m : Member} {v : Json} {x y : Variable} :
      ParamReader.given? reader source name = some v → b.types.create m = .ok x →
      Variable.setValue b.types v x = (.ok (), y) → y.validate = .ok () →
      BindsTo b reader (source, name, m) (some y)

/-- Why a declared parameter is not bound. Its name stands before the way of the error, unless the
parameter itself is missing. -/
inductive Refuses (b : ParamBinder) (reader : ParamReader) :
    ParamSource × String × Member → ValueError → Prop
  | missing {source : ParamSource} {name : String} {m : Member} :
      ParamReader.given? reader source name = none → m.required = true →
      Refuses b reader (source, name, m) (.bare (.requiredFieldMissing name))
  | uncreated {source : ParamSource} {name : String} {m : Member} {v : Json} {f : ValueFault} :
      ParamReader.given? reader source name = some v → b.types.create m = .error f →
      Refuses b reader (source, name, m) ((ValueError.bare f).within name)
  | unset {source : ParamSource} {name : String} {m : Member} {v : Json} {x : Variable}
      {e : ValueError} : ParamReader.given? reader source name = some v →
      b.types.create m = .ok x → (Variable.setValue b.types v x).1 = .error e →
      Refuses b reader (source, name, m) (e.within name)
  | invalid {source : ParamSource} {name : String} {m : Member} {v : Json} {x y : Variable}
      {e : ValueError} : ParamReader.given? reader source name = some v →
      b.types.create m = .ok x → Variable.setValue b.types v x = (.ok (), y) →
      y.validate = .error e → Refuses b reader (source, name, m) (e.within name)

/-- The declared parameter is bound on its own. -/
def Accepts (b : ParamBinder) (reader : ParamReader) (d : ParamSource × String × Member) : Prop :=
  ∃ o, b.BindsTo reader d o

variable {b : ParamBinder} {reader : ParamReader} {source : ParamSource} {name : String}
  {m : Member} {d : ParamSource × String × Member}

/-- The attempt to bind a parameter, without what was bound before. -/
def alone (b : ParamBinder) (reader : ParamReader) (d : ParamSource × String × Member) :
    Except ValueError (Option Variable) :=
  match ParamReader.given? reader d.1 d.2.1 with
  | none =>
    if d.2.2.required then .error (.bare (.requiredFieldMissing d.2.1)) else .ok none
  | some v => do
    let x ← (b.types.build d.2.2 v).mapError (·.within d.2.1)
    x.validate.mapError (·.within d.2.1)
    return some x

/-- What is bound with a parameter that was bound on its own: it takes the place of one of its name,
and leaves it empty if it is bound to nothing. -/
def place (bound : List (String × Variable)) (name : String) :
    Option Variable → List (String × Variable)
  | none => bound.filter (·.1 ≠ name)
  | some x => Reading.putEntry bound name x

/-- What a parameter is bound to on its own is put to what was bound before. -/
theorem bindOne_eq (bound : List (String × Variable)) :
    b.bindOne reader bound source name m =
      (b.alone reader (source, name, m)).map (place bound name) := by
  unfold bindOne alone ParamReader.given?
  cases (reader source name).filter fun v => !v.isNull with
  | none =>
    dsimp only
    split <;> rfl
  | some v =>
    dsimp only [TypeRegistry.build]
    cases Variable.fillNew b.types m (Variable.fill b.types v) with
    | error e => rfl
    | ok x =>
      -- The variable is there, so that its validation is next on either side.
      change (x.validate.mapError (·.within name) >>=
          fun _ => .ok (Reading.putEntry bound name x)) =
        (x.validate.mapError (·.within name) >>= fun _ => .ok (some x)).map (place bound name)
      cases x.validate <;> rfl

theorem alone_of_absent (absent : ParamReader.given? reader source name = none) :
    b.alone reader (source, name, m) =
      if m.required then .error (.bare (.requiredFieldMissing name)) else .ok none := by
  unfold alone
  rw [absent]

theorem alone_of_present {v : Json} (present : ParamReader.given? reader source name = some v) :
    b.alone reader (source, name, m) =
      ((b.types.build m v).mapError (·.within name) >>= fun x =>
        x.validate.mapError (·.within name) >>= fun _ => .ok (some x)) := by
  unfold alone
  rw [present]
  rfl

theorem alone_eq_ok_iff {o : Option Variable} :
    b.alone reader d = .ok o ↔ b.BindsTo reader d o := by
  obtain ⟨source, name, m⟩ := d
  constructor
  · intro bound
    cases given : ParamReader.given? reader source name with
    | none =>
      rw [alone_of_absent given] at bound
      split at bound
      · cases bound
      · rename_i optional
        cases bound
        exact .absent given (Bool.eq_false_iff.mpr optional)
    | some v =>
      rw [alone_of_present given] at bound
      obtain ⟨y, built, rest⟩ := bind_eq_ok_iff.mp bound
      obtain ⟨_, valid, same⟩ := bind_eq_ok_iff.mp rest
      cases same
      obtain ⟨x, created, set⟩ := TypeRegistry.build_ok_iff_set.mp (mapError_eq_ok_iff.mp built)
      exact .present given created set (mapError_eq_ok_iff.mp valid)
  · intro bound
    cases bound with
    | absent given optional => rw [alone_of_absent given, if_neg (Bool.eq_false_iff.mp optional)]
    | present given created set valid =>
      have built := TypeRegistry.build_ok_iff_set.mpr ⟨_, created, set⟩
      rw [alone_of_present given]
      refine bind_eq_ok_iff.mpr ⟨_, mapError_eq_ok_iff.mpr built, ?_⟩
      exact bind_eq_ok_iff.mpr ⟨(), mapError_eq_ok_iff.mpr valid, rfl⟩

theorem alone_eq_error_iff {e : ValueError} :
    b.alone reader d = .error e ↔ b.Refuses reader d e := by
  obtain ⟨source, name, m⟩ := d
  constructor
  · intro failed
    cases given : ParamReader.given? reader source name with
    | none =>
      rw [alone_of_absent given] at failed
      split at failed
      · cases failed
        exact .missing given ‹_›
      · cases failed
    | some v =>
      rw [alone_of_present given] at failed
      rcases bind_eq_error_iff.mp failed with unbuilt | ⟨y, built, rest⟩
      · obtain ⟨e, inner, rfl⟩ := mapError_eq_error_iff.mp unbuilt
        rcases TypeRegistry.build_error_iff_set.mp inner with
          ⟨f, uncreated, rfl⟩ | ⟨x, created, unset⟩
        · exact .uncreated given uncreated
        · exact .unset given created unset
      · have built := mapError_eq_ok_iff.mp built
        obtain ⟨x, created, set⟩ := TypeRegistry.build_ok_iff_set.mp built
        rcases bind_eq_error_iff.mp rest with invalid | ⟨_, _, same⟩
        · obtain ⟨e, inner, rfl⟩ := mapError_eq_error_iff.mp invalid
          exact .invalid given created set inner
        · cases same
  · intro refused
    cases refused with
    | missing given required => rw [alone_of_absent given, if_pos required]
    | uncreated given failed =>
      rw [alone_of_present given, TypeRegistry.build_of_fault failed]
      rfl
    | unset given created failed =>
      have unbuilt := TypeRegistry.build_error_iff_set.mpr (.inr ⟨_, created, failed⟩)
      rw [alone_of_present given]
      exact bind_eq_error_iff.mpr (.inl (mapError_eq_error_iff.mpr ⟨_, unbuilt, rfl⟩))
    | invalid given created set invalid =>
      have built := TypeRegistry.build_ok_iff_set.mpr ⟨_, created, set⟩
      rw [alone_of_present given]
      refine bind_eq_error_iff.mpr (.inr ⟨_, mapError_eq_ok_iff.mpr built, ?_⟩)
      exact bind_eq_error_iff.mpr (.inl (mapError_eq_error_iff.mpr ⟨_, invalid, rfl⟩))

theorem BindsTo.unique {o o' : Option Variable} (binds : b.BindsTo reader d o)
    (binds' : b.BindsTo reader d o') : o = o' := by
  have same := (alone_eq_ok_iff.mpr binds).symm.trans (alone_eq_ok_iff.mpr binds')
  exact Except.ok.inj same

theorem BindsTo.given {o : Option Variable} (binds : b.BindsTo reader (source, name, m) o) :
    (ParamReader.given? reader source name).isSome = o.isSome := by
  cases binds with
  | absent given _ => rw [given]; rfl
  | present given _ _ _ => rw [given]; rfl

theorem exists_alone_iff : (∃ o, b.alone reader d = .ok o) ↔ b.Accepts reader d :=
  exists_congr fun _ => alone_eq_ok_iff

/-! ### All parameters -/

theorem mem_place {bound : List (String × Variable)} {o : Option Variable}
    {e : String × Variable} : e ∈ place bound name o ↔
      (∃ x, o = some x ∧ e = (name, x)) ∨ e ∈ bound ∧ e.1 ≠ name := by
  cases o with
  | none => simp [place]
  | some x => simp [place, Reading.mem_putEntry]

theorem nodup_place {bound : List (String × Variable)} (differ : (bound.map (·.1)).Nodup)
    (o : Option Variable) : ((place bound name o).map (·.1)).Nodup := by
  cases o with
  | none => exact differ.sublist (List.filter_sublist.map _)
  | some x => exact Reading.nodup_putEntry differ

/-- Binds parameters one after another. -/
def bindAll (b : ParamBinder) (reader : ParamReader)
    (ds : List (ParamSource × String × Member)) : Except ValueError (List (String × Variable)) :=
  ds.foldlM (fun bound d => b.bindOne reader bound d.1 d.2.1 d.2.2) []

variable {ds : List (ParamSource × String × Member)} {bound : List (String × Variable)}

theorem bindAll_append_singleton : b.bindAll reader (ds ++ [d]) = .ok bound ↔
    ∃ before, b.bindAll reader ds = .ok before ∧
      ∃ o, b.BindsTo reader d o ∧ place before d.2.1 o = bound := by
  rw [bindAll, List.foldlM_append, bind_eq_ok_iff]
  refine exists_congr fun before => and_congr_right' ?_
  simp only [List.foldlM_cons, List.foldlM_nil, bindOne_eq, bind_pure]
  rw [map_eq_ok_iff]
  exact exists_congr fun o => and_congr_left' alone_eq_ok_iff

/-- Every name is bound as its last declaration binds it. -/
theorem bindAll_eq_ok (ran : b.bindAll reader ds = .ok bound) :
    (bound.map (·.1)).Nodup ∧ ∀ name x, (name, x) ∈ bound ↔
      ∃ d, ds.reverse.find? (·.2.1 == name) = some d ∧ b.BindsTo reader d (some x) := by
  induction ds using List.reverseRecOn generalizing bound with
  | nil =>
    cases ran
    exact ⟨List.nodup_nil, by simp⟩
  | append_singleton ds d ih =>
    obtain ⟨before, first, o, last, rfl⟩ := bindAll_append_singleton.mp ran
    obtain ⟨differ, listed⟩ := ih first
    refine ⟨nodup_place differ o, fun name x => ?_⟩
    rw [mem_place, List.reverse_append, List.reverse_singleton, List.singleton_append,
      List.find?_cons]
    by_cases named : d.2.1 = name
    · -- What the last declaration comes to is all that is left of the name.
      rw [beq_iff_eq.mpr named]
      subst named
      constructor
      · rintro (⟨x', rfl, same⟩ | ⟨-, other⟩)
        · cases same
          exact ⟨d, rfl, last⟩
        · exact absurd rfl other
      · rintro ⟨_, same, binds⟩
        cases same
        exact .inl ⟨x, last.unique binds, rfl⟩
    · rw [beq_eq_false_iff_ne.mpr named, ← listed name x]
      constructor
      · rintro (⟨x', -, same⟩ | ⟨there, -⟩)
        · cases same
          exact absurd rfl named
        · exact there
      · exact fun there => .inr ⟨there, fun same => named same.symm⟩

/-- The parameters go each on its own, whatever was bound before. -/
theorem bindOne_apart (bound : List (String × Variable)) (d : ParamSource × String × Member) :
    ∃ f, b.bindOne reader bound d.1 d.2.1 d.2.2 = (b.alone reader d).map f :=
  ⟨place bound d.2.1, bindOne_eq bound⟩

theorem exists_bindAll_iff :
    (∃ bound, b.bindAll reader ds = .ok bound) ↔ ∀ d ∈ ds, b.Accepts reader d :=
  (exists_foldlM_iff bindOne_apart []).trans (forall₂_congr fun _ _ => exists_alone_iff)

theorem bindAll_eq_error_iff {e : ValueError} : b.bindAll reader ds = .error e ↔
    ∃ before d after, ds = before ++ d :: after ∧ (∀ d' ∈ before, b.Accepts reader d') ∧
      b.Refuses reader d e := by
  refine (foldlM_eq_error_iff bindOne_apart []).trans ?_
  simp only [exists_alone_iff, alone_eq_error_iff]

/-- What is bound: the names for which the last group that declares them gives a value, each to what
that declaration makes of it. -/
structure Bound (b : ParamBinder) (reader : ParamReader) (bound : List (String × Variable)) :
    Prop where
  differ : (bound.map (·.1)).Nodup
  names : ∀ name, name ∈ bound.map (·.1) ↔ ∃ source m, b.groups.LastDeclares name source m ∧
    (ParamReader.given? reader source name).isSome
  values : ∀ name x, (name, x) ∈ bound ↔ ∃ source m, b.groups.LastDeclares name source m ∧
    b.BindsTo reader (source, name, m) (some x)

theorem bound_of_bindAll (distinct : b.groups.Distinct)
    (ran : b.bindAll reader b.declared = .ok bound) : b.Bound reader bound := by
  have accepts := exists_bindAll_iff.mp ⟨bound, ran⟩
  obtain ⟨differ, listed⟩ := bindAll_eq_ok ran
  have values : ∀ name x, (name, x) ∈ bound ↔ ∃ source m,
      b.groups.LastDeclares name source m ∧ b.BindsTo reader (source, name, m) (some x) :=
    fun name x => (listed name x).trans distinct.exists_last_iff
  refine ⟨differ, fun name => ?_, values⟩
  rw [List.mem_map]
  constructor
  · rintro ⟨⟨name, x⟩, there, rfl⟩
    obtain ⟨source, m, last, binds⟩ := (values name x).mp there
    exact ⟨source, m, last, binds.given⟩
  · rintro ⟨source, m, last, given⟩
    have declared := List.mem_of_find?_eq_some (distinct.last_declared_iff.mpr last)
    obtain ⟨o, binds⟩ := accepts _ (List.mem_reverse.mp declared)
    obtain ⟨x, rfl⟩ := Option.isSome_iff_exists.mp (binds.given.symm.trans given)
    exact ⟨(name, x), (values name x).mpr ⟨source, m, last, binds⟩, rfl⟩

theorem isEmpty_iff : b.isEmpty = true ↔ b.declared = [] := by
  simp [isEmpty, declared]

theorem bind_of_undeclared (none : b.declared = []) (reader : ParamReader) :
    b.bind reader = .ok .nil := if_pos (isEmpty_iff.mpr none)

theorem bind_of_declared (declares : b.declared ≠ []) (reader : ParamReader) :
    b.bind reader = (b.bindAll reader b.declared).map (.object rootMember b.root) :=
  if_neg (mt isEmpty_iff.mp declares)

/-- The parameters that an endpoint declares are bound exactly when each of them is on its own, and
then the last declaration of each name counts. Otherwise the first that is refused decides. -/
theorem bound_bind (distinct : b.groups.Distinct) (declares : b.declared ≠ [])
    (reader : ParamReader) :
    ((∃ x, b.bind reader = .ok x) ↔ ∀ d ∈ b.declared, b.Accepts reader d) ∧
      (∀ x, b.bind reader = .ok x →
        ∃ bound, x = .object rootMember b.root bound ∧ b.Bound reader bound) ∧
      ∀ e, b.bind reader = .error e ↔ ∃ before d after, b.declared = before ++ d :: after ∧
        (∀ d' ∈ before, b.Accepts reader d') ∧ b.Refuses reader d e := by
  rw [bind_of_declared declares]
  refine ⟨?_, fun x done => ?_, fun e => ?_⟩
  · rw [← exists_bindAll_iff]
    constructor
    · rintro ⟨x, done⟩
      obtain ⟨bound, ran, -⟩ := map_eq_ok_iff.mp done
      exact ⟨bound, ran⟩
    · rintro ⟨bound, ran⟩
      exact ⟨_, map_eq_ok_iff.mpr ⟨bound, ran, rfl⟩⟩
  · obtain ⟨bound, ran, rfl⟩ := map_eq_ok_iff.mp done
    exact ⟨bound, rfl, bound_of_bindAll distinct ran⟩
  · rw [map_eq_error_iff, bindAll_eq_error_iff]

/-- An id that is given in the path may also stand in the body, with a note. -/
def idBinder : ParamBinder where
  types := {}
  groups := [(.body, [("id", { type := .named "string", maxLength := some 8 }),
      ("note", { type := .named "string" })]),
    (.path, [("id", { type := .named "integer", required := true })])]

/-- Both ids are given, and no note. -/
def bothIds : RawParams :=
  ⟨[(.body, [("id", .string "first"), ("note", .null)]), (.path, [("id", .string "5")])]⟩

/-- The id of the path is bound, and no other. That of the body is checked all the same. -/
theorem bound_bind_ids : idBinder.groups.Distinct ∧ idBinder.declared ≠ [] ∧
    (∀ d ∈ idBinder.declared, idBinder.Accepts bothIds d) ∧
    idBinder.Bound bothIds [("id", .int { type := .named "integer", required := true } 5)] ∧
    ∃ before d after, idBinder.declared = before ++ d :: after ∧
      (∀ d' ∈ before, idBinder.Accepts (bothIds.set .body "id" (.string "overlong id")) d') ∧
      idBinder.Refuses (bothIds.set .body "id" (.string "overlong id")) d
        (.inside "id" (.bare (.lengthAbove 8 11))) := by
  have distinct : idBinder.groups.Distinct := ⟨by decide, by decide⟩
  have declares : idBinder.declared ≠ [] := nofun
  have both := bound_bind distinct declares bothIds
  have long := bound_bind distinct declares (bothIds.set .body "id" (.string "overlong id"))
  refine ⟨distinct, declares, both.1.mp ⟨_, rfl⟩, ?_, (long.2.2 _).mp rfl⟩
  obtain ⟨bound, same, holds⟩ := both.2.1 (.object rootMember idBinder.root
    [("id", .int { type := .named "integer", required := true } 5)]) rfl
  cases same
  exact holds

end ParamBinder

end ApiGateway
