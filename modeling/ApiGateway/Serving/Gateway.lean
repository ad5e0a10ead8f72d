import ApiGateway.Serving.Api
import ApiGateway.Serving.Response
import ApiGateway.Forwarding.Engine

/-
The gateway: installed documents and the requests they serve.

* `Gateway` - the documents under their names, in the order in which the names were first installed.
* `Gateway.add`, `Gateway.remove` - install, replace and remove a document. No route may be served
  by two documents. An addition reads its document first (`Gateway.prepare`) and then looks at what
  is installed (`Gateway.install`).
* `Gateway.listings` - every route installed.
* `Gateway.handle` - serves a request: writes a response and gives its status, which says how it
  went.
-/

namespace ApiGateway

inductive GatewayError where
  | blankName
  | blankContent (name : String)
  | compile (name : String) (cause : CompileError)
  /-- The owner serves the route already. -/
  | routeConflict (name : String) (method : Method) (url owner : String)

namespace GatewayError

def message : GatewayError → String
  | .blankName => "api document name must not be empty"
  | .blankContent name => "api document '" ++ name ++ "' is empty"
  | .compile name cause => "api document '" ++ name ++ "': " ++ cause.message
  | .routeConflict name method url owner =>
    "api document '" ++ name ++ "': " ++ method.name ++ " " ++ url ++ " is already served by '" ++
      owner ++ "'"

end GatewayError

/-- An installed route and the document that has it. -/
structure Listing where
  document : String
  method : Method
  url : String
  forwards : Nat
deriving DecidableEq

structure Gateway where
  documents : List (String × Api) := []

namespace Gateway

/-! ### Documents -/

/-- The first route of an API that another API serves too. -/
def sharedRoute? (a other : Api) : Option Route :=
  a.routes.find? fun r => (other.find? r.method r.url).isSome

/-- The first installed document of another name that serves a route of an API, and that route. -/
def conflict? (g : Gateway) (name : String) (a : Api) : Option (String × Route) :=
  g.documents.findSome? fun (owner, other) =>
    if owner = name then none else (sharedRoute? a other).map (owner, ·)

/-- The API of a text that is to be installed under a name. Neither may be blank. -/
def prepare (name content : String) : Except GatewayError Api := do
  if Text.isBlankText name then throw .blankName
  if Text.isBlankText content then throw (.blankContent name)
  (Api.parse content).mapError (.compile name)

/-- Installs an API under a name, in the place of one that has it. -/
def install (g : Gateway) (name : String) (a : Api) : Except GatewayError Gateway :=
  match g.conflict? name a with
  | some (owner, r) => .error (.routeConflict name r.method r.url owner)
  | none => .ok ⟨Reading.putEntry g.documents name a⟩

/-- Installs a document under a name. Only the last part looks at what is installed. -/
def add (g : Gateway) (name content : String) : Except GatewayError Gateway := do
  g.install name (← prepare name content)

/-- A document of this name is installed. -/
def contains (g : Gateway) (name : String) : Bool := g.documents.any (·.1 = name)

/-- The gateway without the document of a name. -/
def remove (g : Gateway) (name : String) : Gateway := ⟨g.documents.filter (·.1 ≠ name)⟩

def listings (g : Gateway) : List Listing :=
  g.documents.flatMap fun (name, a) =>
    a.routes.map fun r => ⟨name, r.method, r.url, r.chain.nodes.length⟩

/-- The document that serves a method and url, and the position of the route in it. -/
def find? (g : Gateway) (method : Method) (url : String) : Option (Api × Nat) :=
  g.documents.findSome? fun (_, a) => (a.indexOf? method url).map (a, ·)

/-- The route that serves a method and url. -/
def route? (g : Gateway) (method : Method) (url : String) : Option Route := do
  let (a, i) ← g.find? method url
  a.routes[i]?

/-! ### Requests -/

variable {ω : Type}

/-- Serves a request by a route: its parameters are bound, its forwards run, and what comes of it is
written. -/
def serve (r : Route) (forward : Forwarder ω) (reader : ParamReader) (x : Exchange ω) :
    Nat × Exchange ω :=
  match r.binder.bind reader with
  | .error e => x.fail 400 e.message
  | .ok params =>
    let (result, run) := r.chain.execute forward params.toValue { world := x.world }
    let x := { x with world := run.world }
    match result with
    | .error e => x.fail 500 e.message
    | .ok [] => x.write { status := 204 }
    | .ok body => x.write { status := 200, body }

/-- Serves a request: writes a response and gives its status. -/
def handle (g : Gateway) (forward : Forwarder ω) (method : Method) (url : String)
    (reader : ParamReader) (x : Exchange ω) : Nat × Exchange ω :=
  match g.route? method url with
  | none => x.fail 404 "not found"
  | some r => serve r forward reader x

end Gateway

end ApiGateway
