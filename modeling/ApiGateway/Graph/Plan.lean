import ApiGateway.Validation.Document

/-
Plans: what each endpoint of a valid document will do.

* `Document.plan` - the plan of a document: its validation, and if it is valid its endpoints with
  their parameters, dependency graphs and forwards.
-/

namespace ApiGateway

structure PlannedParam where
  source : ParamSource
  name : String
  type : String
  required : Bool

structure PlannedForward where
  name : String
  service : String
  target : String
  dependsOn : List String
  onFail : OnFail
  mapping : Mapping
  test : List String

structure EndpointPlan where
  method : Method
  url : String
  params : List PlannedParam
  graph : ForwardGraph
  forwards : List PlannedForward

structure Plan where
  version : String
  baseUrl : String
  endpoints : List EndpointPlan

/-- What validation says of a document. -/
structure ValidationSummary where
  errors : List String
  warnings : List String

/-- A document's validation, with its plan if it is valid. -/
structure PlanningOutcome where
  validation : ValidationSummary
  plan : Option Plan

inductive PlanError where
  | graph (cause : GraphError)
  | endpoint (message : String)

namespace PlanError

def message : PlanError → String
  | .graph e => "failed to build forward dependency graph: " ++ e.message
  | .endpoint s => s

end PlanError

namespace EndpointPlan

def label (e : EndpointPlan) : String := e.method.name ++ " " ++ e.url

end EndpointPlan

namespace Plan

/-- The number of forwards of all endpoints. -/
def forwardCount (p : Plan) : Nat := p.endpoints.foldl (fun n e => n + e.forwards.length) 0

end Plan

namespace ValidationSummary

def isValid (s : ValidationSummary) : Bool := s.errors.isEmpty

end ValidationSummary

namespace Forward

/-- The plan of a forward in a graph, for a route. -/
def plan (f : Forward) (graph : ForwardGraph) (route : String) :
    Except PlanError PlannedForward := do
  match f.expressionErrors with
  | (dest, e) :: _ => .error (.endpoint
      (route ++ ": forward '" ++ f.name ++ "' field '" ++ dest ++ "': " ++ e.message))
  | [] =>
    let test ← match f.test with
      | none => pure []
      | some t => match Condition.ofTest t with
        | .ok c => pure c.lines
        | .error e => .error (.endpoint ("forward '" ++ f.name ++ "': " ++ e.message))
    match f.target? with
    | none => .error (.endpoint ("forward '" ++ f.name ++ "' has no target"))
    | some t =>
      return { name := f.name, service := f.service, target := t.kind
               dependsOn := graph.dependsOn.of f.name, onFail := f.onFail
               mapping := f.expressions, test }

end Forward

namespace Endpoint

def plannedParams (e : Endpoint) : List PlannedParam :=
  e.params.flatMap fun (source, ms) =>
    ms.map fun (name, m) => ⟨source, name, m.type.display, m.required⟩

/-- The plan of an endpoint under a base url. -/
def plan (e : Endpoint) (base : String) : Except PlanError EndpointPlan := do
  let method ← e.httpMethod.mapError (.endpoint ·.message)
  let url := joinUrl base e.url
  let graph ← (ForwardGraph.build e.forwards).mapError .graph
  let forwards ← e.forwards.mapM fun f => f.plan graph (method.name ++ " " ++ url)
  return { method, url, params := e.plannedParams, graph, forwards }

end Endpoint

namespace Document

def plan (d : Document) : Except PlanError PlanningOutcome := do
  let summary : ValidationSummary :=
    ⟨d.violations.map Violation.line, d.warnings.map Violation.line⟩
  if summary.isValid then
    let endpoints ← d.endpoints.mapM (·.plan d.baseUrl)
    return ⟨summary, some ⟨d.version, d.baseUrl, endpoints⟩⟩
  else return ⟨summary, none⟩

end Document

/-! ### As JSON -/

namespace PlannedParam

def toJson (p : PlannedParam) : Json :=
  .object [("source", .string p.source.name), ("name", .string p.name), ("type", .string p.type),
    ("required", .bool p.required)]

end PlannedParam

namespace PlannedForward

def toJson (f : PlannedForward) : Json :=
  .object ([("name", .string f.name), ("service", .string f.service),
      ("target", .string f.target), ("depends_on", Json.strings f.dependsOn),
      ("on_fail", .string f.onFail.name),
      ("mapping", .object (f.mapping.map fun (dest, e) => (dest, e.toJson)))] ++
    if f.test.isEmpty then [] else [("test", Json.strings f.test)])

end PlannedForward

namespace EndpointPlan

def toJson (e : EndpointPlan) : Json :=
  .object [("method", .string e.method.name), ("url", .string e.url),
    ("params", .array (e.params.map PlannedParam.toJson)), ("graph", e.graph.toJson),
    ("forwards", .array (e.forwards.map PlannedForward.toJson))]

end EndpointPlan

namespace Plan

def toJson (p : Plan) : Json :=
  .object [("summary", .object [("version", .string p.version), ("base_url", .string p.baseUrl),
      ("endpoint_count", Json.nat p.endpoints.length), ("forward_count", Json.nat p.forwardCount)]),
    ("endpoints", .array (p.endpoints.map EndpointPlan.toJson))]

end Plan

namespace PlanningOutcome

def toJson (o : PlanningOutcome) : Json :=
  .object ([("validation", .object [("is_valid", .bool o.validation.isValid),
      ("errors", Json.strings o.validation.errors),
      ("warnings", Json.strings o.validation.warnings)])] ++
    Json.optionalEntry "plan" (o.plan.map Plan.toJson))

end PlanningOutcome

end ApiGateway
