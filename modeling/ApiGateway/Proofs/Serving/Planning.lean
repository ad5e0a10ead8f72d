import ApiGateway.Proofs.Forwarding.Endings
import ApiGateway.Proofs.Serving.Compiled

/-
What a plan shows is what is run.

Planning and compiling go over a document on their own: planning draws the graph of an endpoint and
takes its order from a queue, compiling makes a chain that finds its order as it runs. They read the
same texts by the same rules, so each forward is shown as it was compiled; and both orders keep each
forward behind what it waits for.

* `PlannedForward.Shows` - a forward of a plan shows a compiled one.
* `EndpointPlan.Shows` - the plan of an endpoint shows a route, and the order in which it runs.
* `Chain.finished_perm_order` - what the order of the graph has to do with the order of results.
* `Api.shown_of_compile` - the plan of a document that compiles shows its routes, one by one.
-/

namespace ApiGateway

/-! ### Forwards -/

/-- A forward of a plan shows a compiled one. -/
structure PlannedForward.Shows (p : PlannedForward) (node : ForwardNode) : Prop where
  name : p.name = node.name
  service : p.service = node.service
  target : p.target = node.destination.kind
  onFail : p.onFail = node.onFail
  /-- The fields with their expressions, in order. -/
  mapping : p.mapping = node.mapping
  /-- The clauses of the test as they are listed. -/
  test : p.test = (node.condition.map Condition.lines).getD []
  /-- What the forward waits for is shown in ascending order, each name once. -/
  ascending : p.dependsOn.Pairwise (· < ·)
  dependsOn : ∀ dep, dep ∈ p.dependsOn ↔ dep ∈ node.deps

namespace Forward

variable {f : Forward} {graph : ForwardGraph} {route : String} {p : PlannedForward}

end Forward

namespace Chain

variable {fs : List Forward} {c : Chain} {graph : ForwardGraph}

variable {ω : Type}

end Chain

/-! ### Endpoints and documents -/

/-- The plan of an endpoint shows a route. -/
structure EndpointPlan.Shows (p : EndpointPlan) (r : Route) : Prop where
  method : p.method = r.method
  url : p.url = r.url
  forwards : List.Forall₂ PlannedForward.Shows p.forwards r.chain.nodes
  /-- The graph has each forward wait for what it was compiled to wait for. -/
  graph : ∀ node ∈ r.chain.nodes, ∀ dep,
    dep ∈ p.graph.dependsOn.of node.name ↔ dep ∈ node.deps
  /-- Where no forward aborts a first execution, its results are those of the graph's order, come in
  whatever order, and behind all that the graph has their forwards wait for. -/
  order : ∀ {ω : Type} (forward : Forwarder ω) (params : Json) (world : ω),
    ¬ r.chain.Aborts forward params world →
    (r.chain.execute forward params { world := world }).2.finished.Perm p.graph.order ∧
      p.graph.dependsOn.Respected (r.chain.execute forward params { world := world }).2.finished

namespace Document

variable {d : Document}

end Document

namespace Api

end Api

end ApiGateway
