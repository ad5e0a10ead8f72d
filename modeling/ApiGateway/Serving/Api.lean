import ApiGateway.Forwarding.Chain
import ApiGateway.Schema.Document
import ApiGateway.Validation.Document
import ApiGateway.Value.Params

/-
Documents ready to serve.

* `Route` - an endpoint with its full url, its parameters and its chain of forwards.
* `Api` - the routes of a document and the types it declares.
* `Api.compile`, `Api.parse` - the API of a document or of its text; any defect rejects the whole.
* `Api.find?` - the first route of a method and url.
-/

namespace ApiGateway

/-- Why a document cannot be served. -/
inductive CompileError where
  | parse (cause : Reading.ParseError)
  | invalid (cause : ValidationError)
  | types (cause : SchemaError)
  /-- An endpoint's method is none. -/
  | method (written url : String) (cause : InvalidMethod)
  | forward (url : String) (cause : ForwardError)

namespace CompileError

def message : CompileError → String
  | .parse cause => cause.message
  | .invalid cause => cause.message
  | .types cause => cause.message
  | .method written url cause => "api " ++ written ++ " " ++ url ++ ": " ++ cause.message
  | .forward url cause => "api " ++ url ++ ": " ++ cause.message

end CompileError

/-- An endpoint ready to serve. -/
structure Route where
  method : Method
  url : String
  binder : ParamBinder
  chain : Chain

namespace Route

/-- The route of an endpoint below a base url, with the types its parameters may have. -/
def compile (base : String) (types : TypeRegistry) (e : Endpoint) : Except CompileError Route := do
  let method ← e.httpMethod.mapError (.method (e.method.getD "") e.url)
  let url := joinUrl base e.url
  let chain ← (Chain.compile e.forwards).mapError (.forward url)
  return { method, url, binder := { types, groups := e.params }, chain }

/-- The route answers requests of this method and url. -/
def serves (r : Route) (method : Method) (url : String) : Bool := r.method = method && r.url == url

end Route

/-- A document ready to serve. -/
structure Api where
  version : String
  types : TypeRegistry
  routes : List Route

namespace Api

def compile (d : Document) : Except CompileError Api := do
  d.validate.mapError .invalid
  let types ← (TypeRegistry.ofTypes d.types).mapError .types
  let routes ← d.endpoints.mapM (Route.compile d.baseUrl types)
  return { version := d.version, types, routes }

def parse (text : String) : Except CompileError Api := do
  let (d, _) ← (Document.parse .either text).mapError .parse
  compile d

/-- The position of the first route that serves a method and url. -/
def indexOf? (a : Api) (method : Method) (url : String) : Option Nat :=
  a.routes.findIdx? (·.serves method url)

/-- The first route that serves a method and url. -/
def find? (a : Api) (method : Method) (url : String) : Option Route :=
  a.routes.find? (·.serves method url)

end Api

end ApiGateway
