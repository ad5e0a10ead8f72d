import ApiGateway.Proofs.Graph.Order
import Mathlib.Data.Fintype.Order
import Mathlib.Logic.Relation

/-
Which dependencies have a graph.

* `Dependencies.Waits` - a declared forward waits for a name. Two things can be wrong with what is
  declared: a forward waits for a name that is not declared (`Dependencies.Missing`), or forwards
  wait for one another in a circle (`Dependencies.Circular`). A circle holds up all that wait for
  one of its forwards (`Dependencies.Stalled`).
* `ForwardGraph.mem_order_iff` - those that are never taken are those that a circle holds up.
* `ForwardGraph.exists_build_iff` - a graph is drawn exactly where nothing is missing and nothing
  circular.
* `ForwardGraph.order_perm_of_build` - its order has each declared name once.
-/

namespace ApiGateway

/-! ### What is declared to wait for what -/

namespace Dependencies

/-- A declared forward waits for a name. -/
def Waits (ds : Dependencies) (name dep : String) : Prop := ∃ deps, (name, deps) ∈ ds ∧ dep ∈ deps

/-- Some forward waits for a name that is not declared. -/
def Missing (ds : Dependencies) : Prop := ∃ name dep, ds.Waits name dep ∧ dep ∉ ds.names

/-- The forward of a name waits for itself, through any number of others. -/
def OnCircle (ds : Dependencies) (name : String) : Prop := Relation.TransGen ds.Waits name name

/-- Some forwards wait for one another in a circle. -/
def Circular (ds : Dependencies) : Prop := ∃ name, ds.OnCircle name

variable {ds : Dependencies}

theorem Waits.declared {name dep : String} (h : ds.Waits name dep) : name ∈ ds.names := by
  obtain ⟨deps, listed, -⟩ := h
  exact List.mem_map.mpr ⟨_, listed, rfl⟩

theorem mem_of_iff (once : ds.names.Nodup) {name dep : String} :
    dep ∈ ds.of name ↔ ds.Waits name dep := by
  constructor
  · intro h
    unfold of at h
    cases found : ds.lookup name with
    | none => simp [found] at h
    | some deps =>
      rw [found, Option.getD_some] at h
      exact ⟨deps, mem_of_lookup found, h⟩
  · rintro ⟨deps, listed, hd⟩
    rwa [of_eq once listed]

/-! ### What a circle holds up -/

/-- A forward lies on a circle, or waits for one that does, through any number of others. -/
def Stalled (ds : Dependencies) (name : String) : Prop :=
  ∃ last, Relation.ReflTransGen ds.Waits name last ∧ ds.OnCircle last

theorem OnCircle.stalled {name : String} (h : ds.OnCircle name) : ds.Stalled name :=
  ⟨name, .refl, h⟩

theorem Stalled.of_waits {name dep : String} (h : ds.Stalled dep) (waits : ds.Waits name dep) :
    ds.Stalled name := by
  obtain ⟨last, path, circle⟩ := h
  exact ⟨last, .head waits path, circle⟩

theorem exists_stalled_iff : (∃ name, ds.Stalled name) ↔ ds.Circular := by
  constructor
  · rintro ⟨name, last, path, circle⟩
    exact ⟨last, circle⟩
  · rintro ⟨name, circle⟩
    exact ⟨name, circle.stalled⟩

theorem OnCircle.declared {name : String} (h : ds.OnCircle name) : name ∈ ds.names := by
  obtain ⟨dep, waits, -⟩ := Relation.TransGen.head'_iff.mp h
  exact waits.declared

theorem Stalled.declared {name : String} (h : ds.Stalled name) : name ∈ ds.names := by
  obtain ⟨last, path, circle⟩ := h
  rcases Relation.ReflTransGen.cases_head path with rfl | ⟨dep, waits, -⟩
  · exact circle.declared
  · exact waits.declared

/-- Among forwards that wait for one another only, and of which each stands above all that it waits
for, none is held up. -/
theorem not_stalled_of_rank (rank : String → Nat) (among : String → Prop)
    (below : ∀ name dep, among name → ds.Waits name dep → among dep ∧ rank dep < rank name)
    {name : String} (h : among name) : ¬ ds.Stalled name := by
  rintro ⟨last, path, circle⟩
  have reached : among last := by
    clear circle
    induction path with
    | refl => exact h
    | tail _ waits ih => exact (below _ _ ih waits).1
  have down : ∀ dep, Relation.TransGen ds.Waits last dep → among dep ∧ rank dep < rank last := by
    intro dep around
    induction around with
    | single waits => exact below _ _ reached waits
    | tail _ waits ih =>
      obtain ⟨within, lower⟩ := below _ _ ih.1 waits
      exact ⟨within, Nat.lt_trans lower ih.2⟩
  exact Nat.lt_irrefl _ (down last circle).2

/-- Where every forward stands above all that it waits for, there is no circle. -/
theorem not_circular_of_rank (rank : String → Nat)
    (below : ∀ name dep, ds.Waits name dep → rank dep < rank name) : ¬ ds.Circular := by
  rintro ⟨name, circle⟩
  refine not_stalled_of_rank rank (fun _ => True) (fun n d _ waits => ?_) trivial circle.stalled
  exact ⟨trivial, below n d waits⟩

/-- A declared forward that no circle holds up. -/
abbrev Free (ds : Dependencies) : Type := { name // name ∈ ds.names ∧ ¬ ds.Stalled name }

/-- Of finitely many forwards that no circle holds up, each is reached from those that wait for
nothing. -/
theorem wellFounded_waits (ds : Dependencies) :
    WellFounded fun dep name : ds.Free => ds.Waits name.1 dep.1 := by
  have : Finite ds.Free := Set.Finite.subset (List.finite_toSet ds.names) fun _ h => h.1
  have : IsTrans ds.Free fun dep name => Relation.TransGen ds.Waits name.1 dep.1 :=
    ⟨fun _ _ _ below above => above.trans below⟩
  have : Std.Irrefl fun dep name : ds.Free => Relation.TransGen ds.Waits name.1 dep.1 :=
    ⟨fun name circle => name.2.2 (OnCircle.stalled circle)⟩
  have below : WellFounded fun dep name : ds.Free => Relation.TransGen ds.Waits name.1 dep.1 :=
    Finite.wellFounded_of_trans_of_irrefl _
  exact Subrelation.wf (fun waits => Relation.TransGen.single waits) below

/-- Where nothing is missing, a fact about all that no circle holds up may be shown of each name
from those that it waits for. -/
theorem induction_of_free (present : ¬ ds.Missing) {P : String → Prop}
    (step : ∀ name ∈ ds.names, (∀ dep, ds.Waits name dep → P dep) → P name) :
    ∀ name ∈ ds.names, ¬ ds.Stalled name → P name := by
  intro name hname free
  refine ds.wellFounded_waits.induction (C := fun n => P n.1) ⟨name, hname, free⟩ fun n ih => ?_
  refine step n.1 n.2.1 fun dep waits => ?_
  have known : dep ∈ ds.names := by
    by_contra unknown
    exact present ⟨n.1, dep, waits, unknown⟩
  exact ih ⟨dep, known, fun stalled => n.2.2 (stalled.of_waits waits)⟩ waits

end Dependencies

/-! ### Graphs that can be drawn -/

namespace ForwardGraph

variable {fs : List Forward} {g : ForwardGraph}

/-- The forwards with what each declares to wait for. -/
def declared (fs : List Forward) : Dependencies := fs.map fun f => (f.name, f.deps)

theorem waits_declared {name dep : String} :
    (declared fs).Waits name dep ↔ ∃ f ∈ fs, f.name = name ∧ dep ∈ f.deps := by
  unfold Dependencies.Waits declared
  simp [and_assoc]

theorem names_declared : (declared fs).names = fs.map (·.name) := by
  simp [declared, Dependencies.names]

theorem mem_names_dependencies {name : String} :
    name ∈ (dependencies fs).names ↔ name ∈ fs.map (·.name) := by
  rw [names_dependencies, Text.mem_sortNames]

/-- The graph has the dependencies that are declared. -/
theorem mem_of_dependencies_iff {name dep : String} :
    dep ∈ (dependencies fs).of name ↔ (declared fs).Waits name dep := by
  rw [Dependencies.mem_of_iff (nodup_names_dependencies fs), waits_declared]
  unfold Dependencies.Waits dependencies
  simp only [List.mem_map, Prod.mk.injEq]
  constructor
  · rintro ⟨deps, ⟨n, -, rfl, rfl⟩, hd⟩
    obtain ⟨f, hf, hd⟩ := List.mem_flatMap.mp hd
    obtain ⟨listed, named⟩ := List.mem_filter.mp hf
    exact ⟨f, listed, by simpa using named, Text.mem_sortNames.mp hd⟩
  · rintro ⟨f, hf, rfl, hd⟩
    refine ⟨_, ⟨f.name, Text.mem_sortNames.mpr (List.mem_map_of_mem hf), rfl, rfl⟩, ?_⟩
    exact List.mem_flatMap.mpr ⟨f, List.mem_filter.mpr ⟨hf, by simp⟩, Text.mem_sortNames.mpr hd⟩

/-- Where names are distinct, a forward waits for what it declares alone. -/
theorem of_dependencies {f : Forward} (distinct : (fs.map (·.name)).Nodup) (hf : f ∈ fs) :
    (dependencies fs).of f.name = Text.sortNames f.deps := by
  have known : f.name ∈ Text.sortNames (fs.map (·.name)) :=
    Text.mem_sortNames.mpr (List.mem_map_of_mem hf)
  have alone : fs.filter (·.name == f.name) = [f] := by
    obtain ⟨before, after, split⟩ := List.append_of_mem hf
    rw [split, List.map_append, List.map_cons, List.nodup_middle, List.nodup_cons] at distinct
    rw [← List.map_append] at distinct
    have others : ∀ g ∈ before ++ after, ¬ (g.name == f.name) = true := by
      intro g hg same
      exact distinct.1 (List.mem_map.mpr ⟨g, hg, by simpa using same⟩)
    rw [List.forall_mem_append] at others
    rw [split, List.filter_append, List.filter_cons_of_pos (by simp),
      List.filter_eq_nil_iff.mpr others.1, List.filter_eq_nil_iff.mpr others.2, List.nil_append]
  rw [Dependencies.of, dependencies, lookup_of_names known, Option.getD_some, alone]
  simp

/-- No name is missing exactly if all that is waited for has dependencies of its own. -/
theorem unknown?_eq_none_iff_closed : unknown? fs = none ↔
    ∀ name, ∀ dep ∈ (dependencies fs).of name, dep ∈ (dependencies fs).names := by
  rw [unknown?_eq_none_iff]
  constructor
  · intro known name dep hd
    obtain ⟨f, hf, -, needed⟩ := waits_declared.mp (mem_of_dependencies_iff.mp hd)
    exact mem_names_dependencies.mpr (known f hf dep needed)
  · intro closed f hf dep hd
    exact mem_names_dependencies.mp (closed f.name dep (mem_of_dependencies hf hd))

theorem unknown?_eq_none_iff_present : unknown? fs = none ↔ ¬ (declared fs).Missing := by
  rw [unknown?_eq_none_iff]
  constructor
  · rintro known ⟨name, dep, waits, unknown⟩
    obtain ⟨f, hf, -, hd⟩ := waits_declared.mp waits
    rw [names_declared] at unknown
    exact unknown (known f hf dep hd)
  · intro present f hf d hd
    by_contra unknown
    rw [← names_declared] at unknown
    exact present ⟨f.name, d, waits_declared.mpr ⟨f, hf, rfl, hd⟩, unknown⟩

/-- The forwards taken in the end are those declared that no circle holds up. -/
theorem mem_order_iff (present : ¬ (declared fs).Missing) {name : String} :
    name ∈ (dependencies fs).order ↔ name ∈ fs.map (·.name) ∧ ¬ (declared fs).Stalled name := by
  have taken := Dependencies.draining_order (nodup_names_dependencies fs)
  constructor
  · intro hname
    refine ⟨mem_names_dependencies.mp (taken.known name (by simpa using hname)), ?_⟩
    refine Dependencies.not_stalled_of_rank (dependencies fs).order.idxOf
      (· ∈ (dependencies fs).order) (fun n d hn waits => ?_) hname
    have needed := mem_of_dependencies_iff.mpr waits
    exact ⟨taken.waited n (by simpa using hn) d needed,
      (Dependencies.order_respected (nodup_names_dependencies fs)).idxOf_lt hn needed⟩
  · rintro ⟨known, free⟩
    rw [← names_declared] at known
    refine Dependencies.induction_of_free present (fun n hn ih => ?_) name known free
    rw [names_declared, ← mem_names_dependencies] at hn
    refine (Dependencies.mem_order_iff_waited (nodup_names_dependencies fs) hn).mpr fun d hd => ?_
    exact ih d (mem_of_dependencies_iff.mp hd)

/-- All are taken exactly where there is no circle. -/
theorem order_complete_iff (present : ¬ (declared fs).Missing) :
    (∀ name ∈ (dependencies fs).names, name ∈ (dependencies fs).order) ↔
      ¬ (declared fs).Circular := by
  rw [← Dependencies.exists_stalled_iff, not_exists]
  constructor
  · intro complete name stalled
    have known : name ∈ fs.map (·.name) := names_declared ▸ stalled.declared
    exact ((mem_order_iff present).mp (complete name (mem_names_dependencies.mpr known))).2 stalled
  · intro free name known
    exact (mem_order_iff present).mpr ⟨mem_names_dependencies.mp known, free name⟩

/-- A graph can be drawn exactly where no dependency is missing and none runs in a circle. -/
theorem exists_build_iff :
    (∃ g, build fs = .ok g) ↔ ¬ (declared fs).Missing ∧ ¬ (declared fs).Circular := by
  constructor
  · rintro ⟨g, built⟩
    obtain ⟨known, complete, -⟩ := build_eq_ok_iff.mp built
    have present := unknown?_eq_none_iff_present.mp known
    exact ⟨present, (order_complete_iff present).mp complete⟩
  · rintro ⟨present, straight⟩
    have known := unknown?_eq_none_iff_present.mpr present
    exact ⟨_, build_eq_ok_iff.mpr ⟨known, (order_complete_iff present).mpr straight, rfl⟩⟩

/-- The order of a graph has each declared name once. -/
theorem order_perm_of_build (built : build fs = .ok g) :
    g.order.Perm (Text.sortNames (fs.map (·.name))) := by
  have taken := Dependencies.draining_order (nodup_names_dependencies fs)
  rw [order_of_build built, List.perm_ext_iff_of_nodup (by simpa using taken.distinct)
    (Text.nodup_sortNames _)]
  intro name
  rw [Text.mem_sortNames]
  constructor
  · intro hname
    exact mem_names_dependencies.mp (taken.known name (by simpa using hname))
  · intro hname
    rw [← order_of_build built]
    exact mem_order_of_build built hname

end ForwardGraph

end ApiGateway
