import ApiGateway.Proofs.Forwarding.Descent
import ApiGateway.Serving.Gateway

/-
Watching the forwards of a request.

The engine looks at what forwards reply and never at the world that they change. So a forwarder whose
world holds more than that of another one, and that replies as this one does, makes for the same
handling of each request (`Gateway.handle_map`). A log of the forwards is such a thing to hold.

* `Forwarder.Shows` - a forwarder replies as another one does in a part of its world.
* `Forwarder.watched` - a forwarder with a log of what it made; others act on the world too. If they
  do not, nobody notices that it is watched (`Gateway.handle_watched`).
* `Gateway.forwards` - the forwards that the handling of a request makes.
* `Gateway.forwards_induction` - each is one of the route, and its world has what forwards and all
  others keep.
-/

namespace ApiGateway

variable {ω α : Type}

/-! ### Worlds that hold more -/

/-- A forwarder replies as another one does in a part of its world, and changes the part alike. -/
def Forwarder.Shows (part : α → ω) (big : Forwarder α) (forward : Forwarder ω) : Prop :=
  ∀ node fields world,
    forward node fields (part world) = (big node fields world).map id part

/-- A run with a part of its world. -/
def Run.map (part : α → ω) (r : Run α) : Run ω where
  results := r.results
  inProgress := r.inProgress
  calls := r.calls
  world := part r.world

def Exchange.map (part : α → ω) (x : Exchange α) : Exchange ω where
  written := x.written
  world := part x.world

section Shown

variable {part : α → ω} {big : Forwarder α} {forward : Forwarder ω}

theorem Run.call_map (shows : big.Shows part forward) (params : Json) (node : ForwardNode)
    (r : Run α) :
    (r.map part).call forward params node = (r.call big params node).map id (map part) := by
  have resolved : (r.map part).resolve params node = r.resolve params node := rfl
  unfold call
  rw [resolved]
  cases r.resolve params node with
  | error e => rfl
  | ok fields =>
    have same : forward node fields (r.map part).world = (big node fields r.world).map id part :=
      shows node fields r.world
    dsimp only
    rw [same]
    rfl

namespace Chain

variable {c : Chain} {params : Json}

theorem runDeps_map {run : String → Run α → Except Stop Unit × Run α}
    {run' : String → Run ω → Except Stop Unit × Run ω}
    (nested : ∀ name r, run' name (r.map part) = (run name r).map id (Run.map part))
    (node : ForwardNode) (deps : List String) (r : Run α) :
    c.runDeps run' node deps (r.map part) = (c.runDeps run node deps r).map id (Run.map part) := by
  induction deps generalizing r with
  | nil => rfl
  | cons dep deps ih =>
    have result : (r.map part).result? dep = r.result? dep := rfl
    rw [runDeps, runDeps, result, nested]
    split
    · exact ih r
    · split
      · rfl
      · rcases run dep r with ⟨stop | -, s⟩
        · rfl
        · exact ih s

theorem runNode_map (shows : big.Shows part forward) (fuel : Nat) (name : String) (r : Run α) :
    c.runNode forward params fuel name (r.map part) =
      (c.runNode big params fuel name r).map id (Run.map part) := by
  induction fuel generalizing name r with
  | zero => rfl
  | succ fuel ih =>
    have result : (r.map part).result? name = r.result? name := rfl
    have inProgress : (r.map part).inProgress = r.inProgress := rfl
    rw [runNode, runNode, result, inProgress]
    split
    · rfl
    · cases c.find? name with
      | none => rfl
      | some node =>
        dsimp only
        split
        · rfl
        · have begun : ({ r.map part with inProgress := node.name :: r.inProgress } : Run ω) =
              Run.map part { r with inProgress := node.name :: r.inProgress } := rfl
          rw [begun, runDeps_map ih]
          rcases c.runDeps (c.runNode big params fuel) node node.deps
            { r with inProgress := node.name :: r.inProgress } with ⟨stop | -, s⟩
          · rfl
          · simp only [Prod.map, id_eq, Run.call_map shows]
            cases node.rejection? (s.call big params node).1 <;> rfl

theorem runNodes_map (shows : big.Shows part forward) (nodes : List ForwardNode) (r : Run α) :
    c.runNodes forward params nodes (r.map part) =
      (c.runNodes big params nodes r).map id (Run.map part) := by
  induction nodes generalizing r with
  | nil => rfl
  | cons node nodes ih =>
    have result : (r.map part).result? node.name = r.result? node.name := rfl
    rw [runNodes, runNodes, result, runNode_map shows]
    split
    · exact ih r
    · rcases c.runNode big params (c.nodes.length + 1) node.name r with ⟨stop | -, s⟩
      · rfl
      · exact ih s

/-- An execution looks at no more of the world than its forwarder. -/
theorem execute_map (shows : big.Shows part forward) (r : Run α) :
    c.execute forward params (r.map part) = (c.execute big params r).map id (Run.map part) := by
  unfold execute
  rw [runNodes_map shows]
  rcases c.runNodes big params c.nodes r with ⟨stop | -, s⟩
  · rfl
  · rfl

end Chain

/-- Requests are handled alike by forwarders that reply alike. -/
theorem Gateway.handle_map (shows : big.Shows part forward) (g : Gateway) (method : Method)
    (url : String) (reader : ParamReader) (x : Exchange α) :
    g.handle forward method url reader (x.map part) =
      (g.handle big method url reader x).map id (Exchange.map part) := by
  unfold handle
  cases g.route? method url with
  | none => rfl
  | some r =>
    dsimp only
    unfold serve
    cases r.binder.bind reader with
    | error e => rfl
    | ok params =>
      have run : ({ world := (x.map part).world } : Run ω) =
          Run.map part { world := x.world } := rfl
      dsimp only
      rw [run, Chain.execute_map shows]
      rcases r.chain.execute big params.toValue { world := x.world } with ⟨e | _ | ⟨b, bs⟩, s⟩
      · rfl
      · rfl
      · rfl

end Shown

/-! ### The forwards of a request -/

/-- A forward that was made, the world in which it was made, and what came of it. -/
structure Made (ω : Type) where
  node : ForwardNode
  world : ω
  result : ForwardResult

/-- A forwarder with a log of what it made. Before each forward others act on the world, in a way
that may depend on all that was made. -/
def Forwarder.watched (forward : Forwarder ω) (others : List (Made ω) → ω → ω) :
    Forwarder (ω × List (Made ω)) := fun node fields (world, log) =>
  let before := others log world
  let (result, after) := forward node fields before
  (result, after, log ++ [⟨node, before, result⟩])

/-- Nobody but the forwarder that is watched acts on the world. -/
def Forwarder.alone (_ : List (Made ω)) (world : ω) : ω := world

theorem Forwarder.shows_watched (forward : Forwarder ω) :
    (forward.watched alone).Shows Prod.fst forward := fun _ _ _ => rfl

namespace Gateway

/-- Requests are handled as if nobody watched. -/
theorem handle_watched (g : Gateway) (forward : Forwarder ω) (method : Method) (url : String)
    (reader : ParamReader) (world : ω) :
    g.handle forward method url reader { world := world } =
      (g.handle (forward.watched Forwarder.alone) method url reader
        { world := (world, []) }).map id (Exchange.map Prod.fst) :=
  handle_map forward.shows_watched g method url reader { world := (world, []) }

/-- The forwards that the handling of a request makes, in order. -/
def forwards (g : Gateway) (forward : Forwarder ω) (others : List (Made ω) → ω → ω)
    (method : Method) (url : String) (reader : ParamReader) (world : ω) : List (Made ω) :=
  (g.handle (forward.watched others) method url reader { world := (world, []) }).2.world.2

/-- What the forwards of the route keep, the handling of a request keeps. -/
theorem keeps_handle {P : ω → Prop} (g : Gateway) (forward : Forwarder ω) (method : Method)
    (url : String) (reader : ParamReader) {x : Exchange ω}
    (keeps : ∀ r, g.route? method url = some r → ∀ node ∈ r.chain.nodes, ∀ fields world,
      P world → P (forward node fields world).2) (start : P x.world) :
    P (g.handle forward method url reader x).2.world := by
  unfold handle
  cases found : g.route? method url with
  | none => exact start
  | some r =>
    dsimp only
    unfold serve
    cases r.binder.bind reader with
    | error e => exact start
    | ok params =>
      have kept : P (r.chain.executions forward params.toValue x.world 1).world := by
        refine Chain.keeps_executions (P := fun run => P run.world) (fun _ _ own => own) ?_ start 1
        intro run node declared own
        obtain ⟨s, called, -, -, none | ⟨fields, -, world⟩⟩ :=
          Run.call_cases forward params.toValue node run
        · rwa [called, none.2]
        · rw [called, world]
          exact keeps r found node declared fields run.world own
      unfold Chain.executions Chain.executions at kept
      dsimp only
      split
      · exact kept
      · exact kept
      · exact kept

variable {g : Gateway} {method : Method} {url : String} {reader : ParamReader}
  {forward : Forwarder ω} {others : List (Made ω) → ω → ω} {world : ω} {made : Made ω}

/-- A forward that the route of a request declares, and what the forwarder makes of it. -/
def Declares (g : Gateway) (forward : Forwarder ω) (method : Method) (url : String)
    (made : Made ω) : Prop :=
  ∃ r, g.route? method url = some r ∧ made.node ∈ r.chain.nodes ∧
    ∃ fields, made.result = (forward made.node fields made.world).1

/-- Each forward that is made is one of the route, and its world has what forwards and all others
keep. -/
theorem forwards_induction {P : ω → Prop} (start : P world)
    (meanwhile : ∀ log w, P w → P (others log w))
    (keeps : ∀ node fields w, P w → P (forward node fields w).2)
    (mem : made ∈ g.forwards forward others method url reader world) :
    P made.world ∧ g.Declares forward method url made := by
  have all := keeps_handle
    (P := fun w => P w.1 ∧ ∀ made ∈ w.2, P made.world ∧ g.Declares forward method url made)
    g (forward.watched others) method url reader (x := { world := (world, []) }) ?_
    ⟨start, fun _ mem => absurd mem List.not_mem_nil⟩
  · exact all.2 made mem
  rintro r found node declared fields ⟨world, log⟩ ⟨own, logged⟩
  have before := meanwhile log world own
  refine ⟨keeps node fields _ before, fun made mem => ?_⟩
  rcases List.mem_append.mp mem with old | new
  · exact logged made old
  · obtain rfl := List.mem_singleton.mp new
    exact ⟨before, r, found, declared, fields, rfl⟩

/-- No other forwards are made than those of the route. -/
theorem declares_forwards (mem : made ∈ g.forwards forward others method url reader world) :
    g.Declares forward method url made :=
  (forwards_induction (P := fun _ => True) trivial (fun _ _ _ => trivial)
    (fun _ _ _ _ => trivial) mem).2

end Gateway

end ApiGateway
