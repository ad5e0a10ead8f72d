import ApiGateway.Schema.Document
import ApiGateway.Validation.Members
import ApiGateway.Validation.Forwards

/-
The rules for whole documents.

* `Document.violations` - every violation in the order of the document.
* `Document.validate` - a document without violations, or the error that reports them all.
* `Document.warnings` - what is allowed but likely a mistake.
-/

namespace ApiGateway

namespace Return

/-- A three-digit status of an HTTP reply. -/
def isStatus (s : String) : Bool :=
  match s.toList with
  | [a, b, c] => '1' ≤ a && a ≤ '5' && b.isDigit && c.isDigit
  | _ => false

def dataViolations (known : List String) (r : Return) (path : String) : List Violation :=
  match r.kind with
  | .error word => [⟨path ++ ".type", "unsupported return type '" ++ word ++ "'"⟩]
  | .ok kind =>
    match r.data with
    | none => Violation.of (kind = .json) (path ++ ".data") "is required for json returns"
    | some (.typeName name) =>
      Violation.of (!known.contains name) (path ++ ".data") ("unknown type '" ++ name ++ "'")
    | some (.members ms) => ms.violations known (path ++ ".data")

def violations (known : List String) (status : String) (r : Return) (path : String) :
    List Violation :=
  Violation.of (!isStatus status) path "status must be a three-digit http status code" ++
    r.dataViolations known path

end Return

namespace Endpoint

def urlViolations (e : Endpoint) (path : String) : List Violation :=
  if Text.isBlankText e.url then [⟨path ++ ".url", "is required"⟩]
  else Violation.of (e.url.toList.head? ≠ some '/') (path ++ ".url") "must start with '/'"

def methodViolations (e : Endpoint) (path : String) : List Violation :=
  match e.httpMethod with
  | .ok _ => []
  | .error err => [⟨path ++ ".method", err.message⟩]

def returnViolations (known : List String) (e : Endpoint) (path : String) : List Violation :=
  let path := path ++ ".returns"
  if e.returns.isEmpty then [⟨path, "must declare at least one return"⟩]
  else e.returns.flatMap fun (status, r) => r.violations known status (path ++ "." ++ status)

def violations (known : List String) (e : Endpoint) (path : String) : List Violation :=
  e.urlViolations path ++ e.methodViolations path ++
    (e.params.flatMap fun (source, ms) =>
      ms.violations known (path ++ ".params." ++ source.name)) ++
    e.returnViolations known path ++ e.forwardViolations (path ++ ".forwards")

/-- The route of an endpoint with a url and a method, under a base url. -/
def route? (e : Endpoint) (base : String) : Option (Method × String) :=
  match e.httpMethod with
  | .ok m => if e.url.isEmpty then none else some (m, joinUrl base e.url)
  | .error _ => none

end Endpoint

namespace DataType

/-- The violations of the rules on names, given the types before this one. -/
def nameViolations (t : DataType) (before : List DataType) (path : String) : List Violation :=
  let path := path ++ ".name"
  if t.name.isEmpty then [⟨path, "is required"⟩]
  else if !Text.isIdentifier t.name then [⟨path, "must match regex [A-Za-z0-9_\\-]+"⟩]
  else if builtinTypes.contains t.name then [⟨path, "must not redefine a builtin type"⟩]
  else Violation.of (before.any (·.name == t.name)) path "duplicate type name"

def violations (known : List String) (t : DataType) (before : List DataType) (path : String) :
    List Violation :=
  t.nameViolations before path ++
    Violation.of t.members.isEmpty (path ++ ".members") "must have at least one member" ++
    t.members.violations known (path ++ ".members")

end DataType

/-- The report of a document's violations. -/
structure ValidationError where
  violations : List Violation
deriving DecidableEq

namespace ValidationError

def message (e : ValidationError) : String :=
  "api document failed validation (" ++ toString e.violations.length ++ " violations)"

def lines (e : ValidationError) : List String := e.violations.map Violation.line

end ValidationError

namespace Document

/-- The routes taken by the endpoints before an index. -/
def routesBefore (d : Document) (i : Nat) : List (Method × String) :=
  (d.endpoints.take i).filterMap (·.route? d.baseUrl)

/-- Two endpoints must not share a route. -/
def routeViolations (d : Document) (e : Endpoint) (i : Nat) (path : String) : List Violation :=
  match e.route? d.baseUrl with
  | none => []
  | some r => Violation.of ((d.routesBefore i).contains r) (path ++ ".url")
      "method and url must be unique across apis"

/-- Every violation of the rules. -/
def violations (d : Document) : List Violation :=
  let known := knownTypes d.types
  Violation.of (Text.isBlankText d.version) "$.version" "is required" ++
    Violation.of (Text.isBlankText d.baseUrl) "$.baseUrl" "is required" ++
    (d.types.zipIdx.flatMap fun (t, i) =>
      t.violations known (d.types.take i) (itemPath "$.types" i)) ++
    Violation.of d.endpoints.isEmpty "$.apis" "must have at least one entry" ++
    d.endpoints.zipIdx.flatMap fun (e, i) =>
      let path := itemPath "$.apis" i
      e.violations known path ++ d.routeViolations e i path

/-- A document without violations passes. -/
def validate (d : Document) : Except ValidationError Unit :=
  match d.violations with
  | [] => .ok ()
  | vs => .error ⟨vs⟩

end Document

namespace Endpoint

/-- All declared parameters with their sources, in the order of declaration. -/
def declaredParams (e : Endpoint) : List (ParamSource × String) :=
  e.params.flatMap fun (source, ms) => ms.map fun (name, _) => (source, name)

/-- A parameter declared in two groups: the later group wins. -/
def warnings (e : Endpoint) (path : String) : List Violation :=
  let declared := e.declaredParams
  declared.zipIdx.filterMap fun ((source, name), i) =>
    ((declared.take i).reverse.find? (·.2 == name)).map fun (earlier, _) =>
      ⟨path ++ ".params." ++ source.name ++ "." ++ name,
        "also declared in the '" ++ earlier.name ++ "' group; the later group wins"⟩

end Endpoint

namespace Document

/-- What is allowed but likely a mistake. -/
def warnings (d : Document) : List Violation :=
  d.endpoints.zipIdx.flatMap fun (e, i) => e.warnings (itemPath "$.apis" i)

end Document

end ApiGateway
