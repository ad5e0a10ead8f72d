import ApiGateway.Proofs.Graph.Circles

/-
What comes of drawing forwards.

* `ForwardGraph.FirstUnknown` - the dependency on a missing name that is reported, the first that is
  written down.
* `ForwardGraph.build_stalled` - with a circle all names are reported that it holds up.
* `ForwardGraph.Shows` - what a graph tells of the forwards that it is drawn of.
* `ForwardGraph.outcome_build` - a missing name is reported if there is one, or else a circle if
  there is one, and in all other cases the graph that is drawn shows the forwards.
-/

namespace ApiGateway

namespace ForwardGraph

variable {fs : List Forward} {g : ForwardGraph}

/-! ### Names that are missing -/

/-- The dependencies as they are written down, forward by forward. -/
def listed (fs : List Forward) : List (String × String) :=
  fs.flatMap fun f => f.deps.map (f.name, ·)

/-- The first dependency written down on a name that no forward has. -/
def FirstUnknown (fs : List Forward) (name dep : String) : Prop :=
  dep ∉ fs.map (·.name) ∧ ∃ before after, listed fs = before ++ (name, dep) :: after ∧
    ∀ entry ∈ before, entry.2 ∈ fs.map (·.name)

theorem unknown?_eq_find? :
    unknown? fs = (listed fs).find? fun entry => !(fs.map (·.name)).contains entry.2 := by
  unfold unknown? listed
  simp only [List.find?_flatMap, List.find?_map, Function.comp_def]

theorem unknown?_eq_some_iff {name dep : String} :
    unknown? fs = some (name, dep) ↔ FirstUnknown fs name dep := by
  rw [unknown?_eq_find?, List.find?_eq_some_iff_append]
  simp [FirstUnknown]

theorem build_eq_unknown_iff {name dep : String} :
    build fs = .error (.unknownDependency name dep) ↔ unknown? fs = some (name, dep) := by
  unfold build
  cases unknown? fs with
  | some entry => simp [Prod.ext_iff]
  | none =>
    dsimp only
    split <;> simp

/-- A missing name is found exactly if one is missing. -/
theorem exists_firstUnknown_iff :
    (∃ name dep, FirstUnknown fs name dep) ↔ (declared fs).Missing := by
  have found : (∃ name dep, FirstUnknown fs name dep) ↔ unknown? fs ≠ none := by
    rw [Option.ne_none_iff_exists']
    constructor
    · rintro ⟨name, dep, first⟩
      exact ⟨(name, dep), unknown?_eq_some_iff.mpr first⟩
    · rintro ⟨⟨name, dep⟩, there⟩
      exact ⟨name, dep, unknown?_eq_some_iff.mp there⟩
  rw [found, ne_eq, unknown?_eq_none_iff_present, not_not]

/-! ### Names that a circle holds up -/

/-- The declared names that are never taken. -/
def untaken (fs : List Forward) : List String :=
  (dependencies fs).names.filter fun name => !(dependencies fs).order.contains name

theorem untaken_eq_nil_iff : untaken fs = [] ↔
    ∀ name ∈ (dependencies fs).names, name ∈ (dependencies fs).order := by
  simp [untaken, List.filter_eq_nil_iff]

theorem build_eq_cyclic_iff {stuck : List String} :
    build fs = .error (.cyclicDependency stuck) ↔
      unknown? fs = none ∧ untaken fs ≠ [] ∧ untaken fs = stuck := by
  have once := nodup_names_dependencies fs
  rw [ne_eq, untaken_eq_nil_iff, ← Dependencies.length_order_eq_iff once]
  have left : (dependencies fs).countdown.stuck = untaken fs :=
    Dependencies.stuck_countdown once
  unfold build
  cases unknown? fs with
  | some entry => simp
  | none =>
    dsimp only
    rw [left]
    split
    next complete => simp [complete]
    next incomplete => simp [incomplete]

theorem sorted_untaken (fs : List Forward) : (untaken fs).Pairwise (· < ·) := by
  apply List.Pairwise.filter
  rw [names_dependencies]
  exact Text.sorted_sortNames _

theorem mem_untaken (present : ¬ (declared fs).Missing) {name : String} :
    name ∈ untaken fs ↔ (declared fs).Stalled name := by
  have never : name ∈ untaken fs ↔
      name ∈ (dependencies fs).names ∧ name ∉ (dependencies fs).order := by
    simp [untaken]
  rw [never, mem_names_dependencies, mem_order_iff present]
  constructor
  · rintro ⟨known, held⟩
    by_contra free
    exact held ⟨known, free⟩
  · intro stalled
    have known : name ∈ fs.map (·.name) := names_declared ▸ stalled.declared
    exact ⟨known, fun taken => taken.2 stalled⟩

theorem untaken_ne_nil_iff (present : ¬ (declared fs).Missing) :
    untaken fs ≠ [] ↔ (declared fs).Circular := by
  rw [← Dependencies.exists_stalled_iff, ne_eq, List.eq_nil_iff_forall_not_mem, not_forall_not]
  exact exists_congr fun name => mem_untaken present

/-- A circle is reported exactly if there is one and no name is missing. -/
theorem exists_cyclic_iff : (∃ stuck, build fs = .error (.cyclicDependency stuck)) ↔
    ¬ (declared fs).Missing ∧ (declared fs).Circular := by
  constructor
  · rintro ⟨stuck, failed⟩
    obtain ⟨known, some, -⟩ := build_eq_cyclic_iff.mp failed
    have present := unknown?_eq_none_iff_present.mp known
    exact ⟨present, (untaken_ne_nil_iff present).mp some⟩
  · rintro ⟨present, circular⟩
    have known := unknown?_eq_none_iff_present.mpr present
    have some := (untaken_ne_nil_iff present).mpr circular
    exact ⟨untaken fs, build_eq_cyclic_iff.mpr ⟨known, some, rfl⟩⟩

/-- **A circle is reported with all that it holds up.** Where no name is missing but forwards wait
for one another in a circle, exactly those are reported that lie on a circle or wait for one that
does, in ascending order and each once. -/
theorem build_stalled (present : ¬ (declared fs).Missing) (circular : (declared fs).Circular) :
    ∃ stuck, build fs = .error (.cyclicDependency stuck) ∧ stuck.Pairwise (· < ·) ∧
      ∀ name, name ∈ stuck ↔ (declared fs).Stalled name := by
  obtain ⟨stuck, failed⟩ := exists_cyclic_iff.mpr ⟨present, circular⟩
  refine ⟨stuck, failed, ?_⟩
  obtain ⟨-, -, rfl⟩ := build_eq_cyclic_iff.mp failed
  exact ⟨sorted_untaken fs, fun name => mem_untaken present⟩

example : build [{ name := "page", deps := ["user", "stock", "user"] },
    { name := "user", deps := ["user"] }, { name := "stock" }] =
      .error (.cyclicDependency ["page", "user"]) :=
  rfl

/-- A page that waits, twice over, for a user who waits for an audit; the user and the audit wait
for each other, the mail for itself, and the stock for nothing. -/
def tangledForwards : List Forward :=
  [{ name := "page", deps := ["user", "stock", "user"] },
   { name := "user", deps := ["audit"] },
   { name := "stock" },
   { name := "audit", deps := ["user", "stock"] },
   { name := "mail", deps := ["mail"] }]

/-- Only the stock is not held up. -/
theorem build_stalled_tangled :
    ¬ (declared tangledForwards).Missing ∧ (declared tangledForwards).Circular ∧
      ∃ stuck, build tangledForwards = .error (.cyclicDependency stuck) ∧
        stuck.Pairwise (· < ·) ∧
        ∀ name, name ∈ stuck ↔ (declared tangledForwards).Stalled name := by
  have present : ¬ (declared tangledForwards).Missing := by
    apply unknown?_eq_none_iff_present.mp
    decide
  have circular : (declared tangledForwards).Circular := by
    have there : (declared tangledForwards).Waits "user" "audit" :=
      waits_declared.mpr ⟨{ name := "user", deps := ["audit"] }, by simp [tangledForwards],
        rfl, by simp⟩
    have back : (declared tangledForwards).Waits "audit" "user" :=
      waits_declared.mpr ⟨{ name := "audit", deps := ["user", "stock"] },
        by simp [tangledForwards], rfl, by simp⟩
    exact ⟨"user", .tail (.single there) back⟩
  exact ⟨present, circular, build_stalled present circular⟩

/-! ### What a graph shows -/

/-- A graph shows the forwards that it is drawn of. -/
structure Shows (g : ForwardGraph) (fs : List Forward) : Prop where
  /-- Each declared name stands in the order once, and no other name. -/
  nodup_order : g.order.Nodup
  mem_order : ∀ name, name ∈ g.order ↔ name ∈ fs.map (·.name)
  /-- All that a forward waits for stands before it. -/
  precedes : ∀ name dep, (declared fs).Waits name dep → g.order.idxOf dep < g.order.idxOf name
  /-- Each declared name has one list of dependencies, and no other name. -/
  sorted_names : g.dependsOn.names.Pairwise (· < ·)
  mem_names : ∀ name, name ∈ g.dependsOn.names ↔ name ∈ fs.map (·.name)
  /-- The list of a name has what any forward of that name waits for. -/
  mem_deps : ∀ name dep, dep ∈ g.dependsOn.of name ↔ (declared fs).Waits name dep
  /-- Where no name is declared twice, it has what the forward declares, ascending and each once. -/
  deps : (fs.map (·.name)).Nodup → ∀ f ∈ fs, (g.dependsOn.of f.name).Pairwise (· < ·) ∧
    ∀ dep, dep ∈ g.dependsOn.of f.name ↔ dep ∈ f.deps

theorem shows_of_build (built : build fs = .ok g) : g.Shows fs := by
  have perm := order_perm_of_build built
  constructor
  case nodup_order => exact perm.nodup_iff.mpr (Text.nodup_sortNames _)
  case mem_order =>
    intro name
    rw [perm.mem_iff, Text.mem_sortNames]
  case precedes =>
    intro name dep waits
    obtain ⟨f, hf, rfl, hd⟩ := waits_declared.mp waits
    exact idxOf_lt_of_build built hf hd
  case sorted_names =>
    rw [dependsOn_of_build built, names_dependencies]
    exact Text.sorted_sortNames _
  case mem_names =>
    intro name
    rw [dependsOn_of_build built]
    exact mem_names_dependencies
  case mem_deps =>
    intro name dep
    rw [dependsOn_of_build built]
    exact mem_of_dependencies_iff
  case deps =>
    intro distinct f hf
    rw [dependsOn_of_build built, of_dependencies distinct hf]
    exact ⟨Text.sorted_sortNames _, fun dep => Text.mem_sortNames⟩

/-! ### All outcomes -/

/-- What comes of drawing forwards. -/
structure Outcome (fs : List Forward) (outcome : Except GraphError ForwardGraph) : Prop where
  /-- A missing name is reported if there is one, with the first dependency on one. -/
  missing : (∃ name dep, outcome = .error (.unknownDependency name dep)) ↔ (declared fs).Missing
  first : ∀ name dep,
    outcome = .error (.unknownDependency name dep) ↔ FirstUnknown fs name dep
  /-- Or else a circle is reported if there is one. -/
  circular : (∃ stuck, outcome = .error (.cyclicDependency stuck)) ↔
    ¬ (declared fs).Missing ∧ (declared fs).Circular
  /-- Or else there is a graph, and it shows the forwards. -/
  drawn : (∃ g, outcome = .ok g) ↔ ¬ (declared fs).Missing ∧ ¬ (declared fs).Circular
  shown : ∀ g, outcome = .ok g → g.Shows fs

/-- **What comes of drawing forwards.** Whatever they are, a name that is missing is reported, the
first one; with no name missing, a circle; and with neither of them wrong, a graph is drawn that has
each declared name once, behind all that it waits for. -/
theorem outcome_build (fs : List Forward) : Outcome fs (build fs) := by
  have first : ∀ name dep,
      build fs = .error (.unknownDependency name dep) ↔ FirstUnknown fs name dep := by
    intro name dep
    rw [build_eq_unknown_iff, unknown?_eq_some_iff]
  constructor
  case missing =>
    rw [← exists_firstUnknown_iff]
    exact exists_congr fun name => exists_congr fun dep => first name dep
  case first => exact first
  case circular => exact exists_cyclic_iff
  case drawn => exact exists_build_iff
  case shown => exact fun g built => shows_of_build built

end ForwardGraph

end ApiGateway
