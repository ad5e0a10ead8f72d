import ApiGateway.Proofs.Forwarding.Endings
import ApiGateway.Proofs.Forwarding.Provenance

/-
The graph is checked alike before a chain runs and while it runs.

Before, names are taken from a queue as they become ready; while it runs, each forward is descended
to and a circle shows in what is in progress. Nothing relates the two but the defects that there
are: both find fault exactly where a name is missing or waited for in a circle.

* `ForwardError.OfGraph` - an error that lays a defect of the graph to a forward.
* `Run.Graphless` - no result is such an error; `Run.Graphless.call` - calls keep it so.
* `Chain.ChecksGraph` - what the outcome of a first execution says of the graph.
* `Chain.checksGraph_execute` - every first execution that no forward aborts says it.
-/

namespace ApiGateway

variable {ω : Type}

/-- A name that is waited for is not there, or it is waited for in a circle. -/
def ForwardError.OfGraph (e : ForwardError) : Prop :=
  (∃ dep, e.fault = .unknownDependency dep) ∨ e.fault = .cyclicDependency

/-- No call fails with a defect of the graph. -/
def Forwarder.Graphless (forward : Forwarder ω) : Prop :=
  ∀ node fields world, OnlyFails (forward node fields world).1 (¬ ·.OfGraph)

/-! ### Results without graph errors -/

namespace Run

/-- No result is a defect of the graph. -/
def Graphless (r : Run ω) : Prop :=
  ∀ name result, r.result? name = some result → OnlyFails result (¬ ·.OfGraph)

variable {r : Run ω} {forward : Forwarder ω}

theorem Graphless.resolve (graphless : r.Graphless) (params : Json) (node : ForwardNode) :
    OnlyFails (r.resolve params node) (¬ ·.OfGraph) := by
  refine resolve_fails fun field _ ref _ => ?_
  have unresolved : ¬ ForwardError.OfGraph ⟨node.name, .unresolvedReference ref.display⟩ := by
    simp [ForwardError.OfGraph]
  cases ref with
  | param field => exact .ok _
  | reply dep field =>
    unfold resolveRef
    dsimp only
    cases found : r.result? dep with
    | none => exact .error unresolved
    | some result =>
      cases result with
      | error e => exact .error (graphless dep _ found e rfl)
      | ok body =>
        dsimp only
        cases ForwardResult.field? (.ok body) field with
        | none => exact .error unresolved
        | some value => exact .ok value

theorem Graphless.call (graphless : r.Graphless) (answers : forward.Graphless) (params : Json)
    (node : ForwardNode) : (r.call forward params node).2.Graphless := by
  have own : OnlyFails (r.perform forward params node).1 (¬ ·.OfGraph) := by
    have resolves := graphless.resolve params node
    unfold perform
    cases resolved : r.resolve params node with
    | error e => exact .error (resolves e resolved)
    | ok fields => exact answers node fields r.world
  intro name result found
  rw [call_eq] at found
  rcases perform_result?.mp found with old | ⟨-, -, rfl⟩
  · exact graphless name result old
  · exact own

end Run

namespace Chain

variable {c : Chain} {forward : Forwarder ω} {params : Json}

/-- An execution gives no graph error unless it stops. -/
theorem graphless_lastResult {r : Run ω} (graphless : r.Graphless) :
    OnlyFails (c.lastResult r) (¬ ·.OfGraph) := by
  unfold lastResult
  split
  · exact .ok _
  next last _ =>
    cases found : r.result? last.name with
    | none => exact .ok _
    | some result => exact graphless last.name result found

theorem graphless_execute (answers : forward.Graphless) (world : ω) :
    (c.execute forward params { world := world }).2.Graphless := by
  refine (comes_execute c forward params _).keeps (P := Run.Graphless) ?_ ?_ ?_
  · exact fun r p graphless => graphless
  · exact fun r node graphless => graphless.call answers params node
  · intro name result found
    cases found

/-! ### What an outcome says of the graph -/

/-- What the outcome of a first execution says of the graph of the forwards. -/
structure ChecksGraph (c : Chain) (fs : List Forward) (outcome : ForwardResult) : Prop where
  /-- It is a defect of the graph exactly if the graph cannot be drawn. -/
  agrees : (∃ e, outcome = .error e ∧ e.OfGraph) ↔ ∃ e, ForwardGraph.build fs = .error e
  /-- Without circles a missing name is reported, and the forward that waits for it. -/
  missing : c.declared.Missing → ¬ c.declared.Circular →
    ∃ node ∈ c.nodes, ∃ dep ∈ node.deps, dep ∉ c.names ∧
      outcome = .error ⟨node.name, .unknownDependency dep⟩
  /-- Where no name is missing a circle is reported by a forward that lies on one. -/
  circular : ¬ c.declared.Missing → c.declared.Circular →
    ∃ name, c.declared.OnCircle name ∧ outcome = .error ⟨name, .cyclicDependency⟩

/-- A graph cannot be drawn exactly where a name is missing or waited for in a circle. -/
theorem exists_build_error_iff {fs : List Forward} (same : ForwardGraph.declared fs = c.declared) :
    (∃ e, ForwardGraph.build fs = .error e) ↔ c.declared.Missing ∨ c.declared.Circular := by
  rw [← same]
  have drawn : (∃ g, ForwardGraph.build fs = .ok g) ↔ _ := ForwardGraph.exists_build_iff
  cases built : ForwardGraph.build fs with
  | ok g =>
    have sound := drawn.mp ⟨g, built⟩
    constructor
    · rintro ⟨e, failed⟩
      cases failed
    · rintro (missing | circular)
      · exact absurd missing sound.1
      · exact absurd circular sound.2
  | error e =>
    refine ⟨fun _ => ?_, fun _ => ⟨e, rfl⟩⟩
    by_contra sound
    obtain ⟨g, there⟩ := drawn.mpr (not_or.mp sound)
    cases built.symm.trans there

/-- How a first execution ends that no forward aborts: with no defect of the graph where there is
none, or with one that there is. -/
theorem outcome_cases (distinct : c.names.Nodup) (answers : forward.Graphless) (params : Json)
    (world : ω) (proceeds : ¬ c.Aborts forward params world) :
    (¬ c.declared.Missing ∧ ¬ c.declared.Circular ∧
      OnlyFails (c.execute forward params { world := world }).1 (¬ ·.OfGraph)) ∨
    (∃ node ∈ c.nodes, ∃ dep ∈ node.deps, dep ∉ c.names ∧
      (c.execute forward params { world := world }).1 =
        .error ⟨node.name, .unknownDependency dep⟩) ∨
    ∃ name, c.declared.OnCircle name ∧
      (c.execute forward params { world := world }).1 = .error ⟨name, .cyclicDependency⟩ := by
  have start := orderly_new c world
  have ends := start.ends rfl forward params
  have after : c.Orderly (c.execute forward params { world := world }).2 := start.execute
  have graphless : (c.execute forward params { world := world }).2.Graphless :=
    graphless_execute answers world
  have outcome : (c.execute forward params { world := world }).1 =
      c.resultOf (c.execute forward params { world := world }).2
        (c.runNodes forward params c.nodes { world := world }).1 := by
    rw [execute_eq]
  rw [outcome]
  generalize stopped : (c.runNodes forward params c.nodes { world := world }).1 = stop at ends ⊢
  generalize (c.execute forward params { world := world }).2 = r at ends after graphless ⊢
  cases ends with
  | through _ finished =>
    obtain ⟨present, straight⟩ := after.sound_of_finished distinct finished
    exact .inl ⟨present, straight, graphless_lastResult graphless⟩
  | rejected rejects => exact absurd ⟨_, stopped⟩ proceeds
  | missing hnode waits unknown => exact .inr (.inl ⟨_, hnode, _, waits, unknown, rfl⟩)
  | circle onCircle => exact .inr (.inr ⟨_, onCircle, rfl⟩)

/-- **The graph is checked alike before a chain runs and while it runs.** Where names are distinct,
calls fail with no defect of the graph and no forward aborts, a first execution ends with a defect
of the graph exactly if the graph cannot be drawn. If only names are missing it says so, and if
there are only circles it names a forward that lies on one. -/
theorem checksGraph_execute {fs : List Forward} (same : ForwardGraph.declared fs = c.declared)
    (distinct : c.names.Nodup) (answers : forward.Graphless) (params : Json) (world : ω)
    (proceeds : ¬ c.Aborts forward params world) :
    c.ChecksGraph fs (c.execute forward params { world := world }).1 := by
  have undrawn := exists_build_error_iff same
  rcases outcome_cases distinct answers params world proceeds with
    ⟨present, straight, graphless⟩ | ⟨node, hnode, dep, waits, unknown, ended⟩ |
      ⟨name, onCircle, ended⟩
  · constructor
    case agrees =>
      rw [undrawn]
      constructor
      · rintro ⟨e, failed, ofGraph⟩
        exact absurd ofGraph (graphless e failed)
      · rintro (missing | circular)
        · exact absurd missing present
        · exact absurd circular straight
    case missing =>
      intro missing
      exact absurd missing present
    case circular =>
      intro _ circular
      exact absurd circular straight
  · have missing := missing_of_unknown hnode waits unknown
    constructor
    case agrees =>
      rw [undrawn]
      constructor
      · intro _
        exact .inl missing
      · intro _
        exact ⟨_, ended, .inl ⟨dep, rfl⟩⟩
    case missing =>
      intro _ _
      exact ⟨node, hnode, dep, waits, unknown, ended⟩
    case circular =>
      intro present
      exact absurd missing present
  · constructor
    case agrees =>
      rw [undrawn]
      constructor
      · intro _
        exact .inr ⟨name, onCircle⟩
      · intro _
        exact ⟨_, ended, .inr rfl⟩
    case missing =>
      intro _ straight
      exact absurd ⟨name, onCircle⟩ straight
    case circular =>
      intro _ _
      exact ⟨name, onCircle, ended⟩

/-- A page that waits for its stock; the user and the audit wait for each other. -/
def circleForwards : List Forward :=
  [{ name := "page", deps := ["stock", "audit"], grpc := some { method := "Render" } },
   { name := "stock", redis := some { key := "item" } },
   { name := "user", deps := ["audit"], grpc := some { method := "Find" } },
   { name := "audit", deps := ["user"], grpc := some { method := "Log" } }]

def circleChain : Chain := ⟨(circleForwards.mapM ForwardNode.compile).toOption.getD []⟩

/-- The stock is called; the page does not lie on the circle, and the audit is named. -/
theorem checksGraph_execute_circle :
    ForwardGraph.declared circleForwards = circleChain.declared ∧ circleChain.names.Nodup ∧
      fieldless.Graphless ∧ ¬ circleChain.Aborts fieldless .null 0 ∧
      circleChain.ChecksGraph circleForwards
        (circleChain.execute fieldless .null { world := 0 }).1 := by
  have same : ForwardGraph.declared circleForwards = circleChain.declared := rfl
  have distinct : circleChain.names.Nodup := by decide
  have answers : fieldless.Graphless := by
    intro node fields world
    exact .ok _
  have proceeds : ¬ circleChain.Aborts fieldless .null 0 := by
    rintro ⟨e, rejected⟩
    have stopped : (circleChain.runNodes fieldless .null circleChain.nodes { world := 0 }).1 =
        .error (.broken ⟨"audit", .cyclicDependency⟩) := rfl
    cases stopped.symm.trans rejected
  exact ⟨same, distinct, answers, proceeds,
    checksGraph_execute same distinct answers .null 0 proceeds⟩

end Chain

end ApiGateway
