import ApiGateway.Schema.Endpoint
import ApiGateway.Expression.Mapping
import ApiGateway.Expression.Condition
import ApiGateway.Graph.Basic
import ApiGateway.Validation.Violation
import ApiGateway.Text.Blank

/-
The rules for the forwards of an endpoint: distinct names, one complete target each, dependencies
that exist and run in no circle, and expressions that refer only to what is there.
-/

namespace ApiGateway

namespace Target

/-- A text begins with the scheme of a web address. -/
def isAbsoluteUrl (url : String) : Bool :=
  url.startsWith "http://" || url.startsWith "https://"

def violations (t : Target) (path : String) : List Violation :=
  match t with
  | .grpc t =>
    Violation.of (Text.isBlankText t.method) (path ++ ".grpc.method") "is required"
  | .redis t =>
    Violation.of (Text.isBlankText t.key) (path ++ ".redis.key") "is required" ++
    Violation.of (t.valueType ≠ "string" && t.valueType ≠ "hash") (path ++ ".redis.type")
      "must be 'string' or 'hash'"
  | .http t =>
    Violation.of (!isAbsoluteUrl t.url) (path ++ ".http.url") "must be an absolute http(s) url" ++
    match t.method with
    | none => []
    | some m =>
      match Method.parse m with
      | .ok _ => []
      | .error _ => [⟨path ++ ".http.method", "invalid method '" ++ m ++ "'"⟩]

/-- Only a call over HTTP names no service. -/
def needsService : Target → Bool
  | .http _ => false
  | _ => true

/-- The path of the fields of a target. -/
def fieldsPath (t : Target) (path : String) : String :=
  match t with
  | .grpc _ => path ++ ".grpc.paramMapper"
  | .redis _ => path ++ ".redis"
  | .http _ => path ++ ".http.paramMapper"

end Target

namespace Forward

/-- The violations of the rules on names, given the forwards before this one. -/
def nameViolations (f : Forward) (before : List Forward) (path : String) : List Violation :=
  let path := path ++ ".name"
  if f.name.isEmpty then [⟨path, "is required"⟩]
  else if !Text.isIdentifier f.name then [⟨path, "must match regex [A-Za-z0-9_\\-]+"⟩]
  else Violation.of (before.any (·.name == f.name)) path "must be unique within the forward chain"

def targetViolations (f : Forward) (path : String) : List Violation :=
  match f.targets with
  | [] => [⟨path, "must declare one of grpc, redis or http"⟩]
  | t :: more =>
    Violation.of (!more.isEmpty) path "must declare exactly one of grpc, redis or http" ++
    Violation.of (t.needsService && Text.isBlankText f.service) (path ++ ".service")
      "is required" ++
    t.violations path

/-- The fault of one dependency, given the names of all forwards. -/
def depFault? (f : Forward) (names : List String) (dep : String) : Option String :=
  if dep = f.name then some "must not depend on itself"
  else if names.contains dep then none
  else some ("unknown dependency '" ++ dep ++ "'")

def depViolations (f : Forward) (names : List String) (path : String) : List Violation :=
  f.deps.filterMap fun dep => (f.depFault? names dep).map (⟨path ++ ".deps", ·⟩)

/-- The violations of the rules on fields, given the names of the declared parameters. -/
def mappingViolations (f : Forward) (params : List String) (path : String) : List Violation :=
  match f.target? with
  | none => []
  | some t =>
    let fields := t.fieldsPath path
    (f.expressionErrors.map fun (dest, e) => ⟨fields ++ "." ++ dest, e.message⟩) ++
    f.expressions.flatMap fun (dest, e) =>
      (e.nodeRefs.flatMap fun (node, _) =>
        Violation.of (!f.deps.contains node) (fields ++ "." ++ dest)
          ("references forward '" ++ node ++ "' which is not listed in deps")) ++
      (e.paramRefs.flatMap fun field =>
        Violation.of (!params.contains field) (fields ++ "." ++ dest)
          ("references undeclared parameter '" ++ field ++ "'"))

def testViolations (f : Forward) (path : String) : List Violation :=
  match f.test with
  | none => []
  | some test =>
    match Condition.ofTest test with
    | .ok _ => []
    | .error e => [⟨path ++ ".test", e.message⟩]

/-- The names of the forward and its dependencies let the graph be drawn. -/
def fitsGraph (f : Forward) (before : List Forward) (names : List String) : Bool :=
  !f.name.isEmpty && !(Text.isIdentifier f.name && before.any (·.name == f.name)) &&
    f.deps.all fun dep => (f.depFault? names dep).isNone

end Forward

namespace Endpoint

/-- The forwards with the forwards before each and their paths. -/
def numberedForwards (e : Endpoint) (path : String) : List (Forward × List Forward × String) :=
  e.forwards.zipIdx.map fun (f, i) => (f, e.forwards.take i, itemPath path i)

/-- The violations of the rules on an endpoint's forwards. Circles are looked for only among
forwards whose names and dependencies are in order. -/
def forwardViolations (e : Endpoint) (path : String) : List Violation :=
  let names := e.forwards.map (·.name)
  let each := (e.numberedForwards path).flatMap fun (f, before, path) =>
    f.nameViolations before path ++ f.targetViolations path ++ f.depViolations names path ++
      f.mappingViolations e.paramNames path ++ f.testViolations path
  let fits := (e.numberedForwards path).all fun (f, before, _) => f.fitsGraph before names
  each ++
    if fits then
      match ForwardGraph.build e.forwards with
      | .error (.cyclicDependency nodes) => [⟨path, (GraphError.cyclicDependency nodes).message⟩]
      | _ => []
    else []

end Endpoint

end ApiGateway
