import ApiGateway.Forwarding.Chain
import ApiGateway.Json.Node

/-
Running the forwards of a request.

Forwards run one at a time in the order of declaration, each after those it waits for and each at
most once. A forward whose fields cannot be resolved is not called; its result is the error. A
result that fails aborts the run if the forward says so.

* `Forwarder` - makes calls; it may change a world with each.
* `Run` - what a run has done: results, calls, and the forwards begun but not ended.
* `Stop` - why a run stops before its end.
* `Chain.runNode` - runs one forward after those it waits for.
* `Chain.execute` - runs a whole chain and gives the result of the last forward.
-/

namespace ApiGateway

/-- The fields of a call with their values, in the order of declaration. -/
abbrev CallFields := List (String × Json)

/-- Makes the call of a forward: the reply or what went wrong, and the world after it. -/
abbrev Forwarder (ω : Type) := ForwardNode → CallFields → ω → Except ForwardError Bytes × ω

/-- The result of a forward. -/
abbrev ForwardResult := Except ForwardError Bytes

namespace ForwardResult

/-- The reply as JSON, if it is. -/
def json? (r : ForwardResult) : Option Json := r.toOption.bind Json.parseBytes?

/-- A field of the reply. -/
def field? (r : ForwardResult) (name : String) : Option Json := do (← json? r).field? name

end ForwardResult

/-- A call that was made. -/
structure CallRecord where
  node : String
  fields : CallFields

/-- What the runs of a chain have done for a request. -/
structure Run (ω : Type) where
  /-- The results in the order in which they came. -/
  results : List (String × ForwardResult) := []
  /-- The forwards begun and not ended, the latest first. -/
  inProgress : List String := []
  /-- The calls made, in order. -/
  calls : List CallRecord := []
  world : ω

namespace Run

variable {ω : Type}

def result? (r : Run ω) (name : String) : Option ForwardResult := r.results.lookup name

/-- Keeps the result of a forward, which is then no longer in progress. -/
def finish (r : Run ω) (name : String) (result : ForwardResult) : Run ω :=
  { r with
    results := r.results ++ [(name, result)]
    inProgress := r.inProgress.filter (· ≠ name) }

/-- The value of a reference of a forward. A parameter that is not there is null. -/
def resolveRef (r : Run ω) (params : Json) (node : String) (ref : FieldRef) :
    Except ForwardError Json :=
  match ref with
  | .param field => .ok ((params.field? field).getD .null)
  | .reply dep field =>
    let unresolved : ForwardError := ⟨node, .unresolvedReference ref.display⟩
    match r.result? dep with
    | none => .error unresolved
    | some (.error e) => .error e
    | some result =>
      match ForwardResult.field? result field with
      | some v => .ok v
      | none => .error unresolved

/-- The values of a forward's fields, or the first that cannot be resolved. -/
def resolve (r : Run ω) (params : Json) (node : ForwardNode) : Except ForwardError CallFields :=
  node.mapping.mapM fun (dest, e) => do
    return (dest, e.combine (← e.refs.mapM (r.resolveRef params node.name)))

/-- Calls a forward and keeps its result; one whose fields cannot be resolved is not called. -/
def call (r : Run ω) (forward : Forwarder ω) (params : Json) (node : ForwardNode) :
    ForwardResult × Run ω :=
  match r.resolve params node with
  | .error e => (.error e, r.finish node.name (.error e))
  | .ok fields =>
    let (result, world) := forward node fields r.world
    let r : Run ω := { r with calls := r.calls ++ [⟨node.name, fields⟩], world := world }
    (result, r.finish node.name result)

end Run

namespace ForwardNode

/-- What makes a result a failure of its forward: an error, or a reply that does not meet the
test. -/
def failure? (n : ForwardNode) (result : ForwardResult) : Option ForwardError :=
  match result with
  | .error e => some e
  | .ok _ =>
    match n.condition with
    | none => none
    | some c =>
      if (ForwardResult.json? result).any c.holds then none else some ⟨n.name, .testFailed⟩

/-- The failure that aborts a run. -/
def rejection? (n : ForwardNode) (result : ForwardResult) : Option ForwardError :=
  match n.onFail with
  | .reject => n.failure? result
  | .proceed => none

end ForwardNode

/-- Why a run stops before its end. -/
inductive Stop where
  /-- A forward that must not fail did. -/
  | rejected (error : ForwardError)
  /-- The dependencies are broken. -/
  | broken (error : ForwardError)

/-- The error that the run ends with. -/
def Stop.error : Stop → ForwardError
  | .rejected e => e
  | .broken e => e

namespace Chain

variable {ω : Type}

/-- Runs what a forward waits for, each by the given runner, up to the first stop. -/
def runDeps (c : Chain) (run : String → Run ω → Except Stop Unit × Run ω)
    (node : ForwardNode) : List String → Run ω → Except Stop Unit × Run ω
  | [], r => (.ok (), r)
  | dep :: deps, r =>
    if (r.result? dep).isSome then runDeps c run node deps r
    else if (c.find? dep).isNone then (.error (.broken ⟨node.name, .unknownDependency dep⟩), r)
    else match run dep r with
      | (.error s, r) => (.error s, r)
      | (.ok (), r) => runDeps c run node deps r

/-- Runs a forward after those it waits for. It stops where a forward that must not fail did, or
where the dependencies are broken. The fuel exceeds the number of forwards: each call that nests
has one more of them in progress. -/
def runNode (c : Chain) (forward : Forwarder ω) (params : Json) :
    Nat → String → Run ω → Except Stop Unit × Run ω
  | 0, name, r => (.error (.broken ⟨name, .cyclicDependency⟩), r)
  | fuel + 1, name, r =>
    if (r.result? name).isSome then (.ok (), r)
    else match c.find? name with
      | none => (.error (.broken ⟨name, .unresolvedReference name⟩), r)
      | some node =>
        if r.inProgress.contains node.name then
          (.error (.broken ⟨node.name, .cyclicDependency⟩), r)
        else
          let r := { r with inProgress := node.name :: r.inProgress }
          match c.runDeps (runNode c forward params fuel) node node.deps r with
          | (.error s, r) => (.error s, r)
          | (.ok (), r) =>
            let (result, r) := r.call forward params node
            match node.rejection? result with
            | some e => (.error (.rejected e), r)
            | none => (.ok (), r)

/-- Runs forwards in order, up to the first stop. -/
def runNodes (c : Chain) (forward : Forwarder ω) (params : Json) :
    List ForwardNode → Run ω → Except Stop Unit × Run ω
  | [], r => (.ok (), r)
  | node :: nodes, r =>
    if (r.result? node.name).isSome then runNodes c forward params nodes r
    else match c.runNode forward params (c.nodes.length + 1) node.name r with
      | (.error s, r) => (.error s, r)
      | (.ok (), r) => runNodes c forward params nodes r

/-- The result of the last forward, an empty body if there is none. -/
def lastResult (c : Chain) (r : Run ω) : ForwardResult :=
  match c.nodes.getLast? with
  | none => .ok []
  | some last => (r.result? last.name).getD (.ok [])

/-- Runs a chain and gives the result of its last forward. It may run again from what it has
done. -/
def execute (c : Chain) (forward : Forwarder ω) (params : Json) (r : Run ω) :
    ForwardResult × Run ω :=
  match c.runNodes forward params c.nodes r with
  | (.error s, r) => (.error s.error, r)
  | (.ok (), r) => (c.lastResult r, r)

end Chain

end ApiGateway
