import ApiGateway.Cli.Inspect
import ApiGateway.Forwarding.Delivery
import ApiGateway.Launching.Backends
import ApiGateway.Serving.Config
import ApiGateway.Serving.Gateway

/-
The commands that run something: `invoke` serves one request by a document, `call` calls one
service. Both start the backends that they need.

* `requiredServices` - the services that a request may need.
* `run` - what a command prints and how it ends.
-/

namespace ApiGateway.Cli

open Reading (Readable)

/-! ### Settings and parameters -/

/-- The settings with those of the command line in their place. -/
def override (g : GatewayOptions) (c : GatewayConfig) : GatewayConfig where
  bindAddress := c.bindAddress
  httpTimeoutMs := g.httpTimeoutMs.getD c.httpTimeoutMs
  proxy := {
    callTimeoutMs := g.callTimeoutMs.getD c.proxy.callTimeoutMs
    maxFrameLength := c.proxy.maxFrameLength
    directory := g.proxyDir.getD c.proxy.directory
    suffix := g.proxySuffix.getD c.proxy.suffix }

/-- The settings of the file that is named, or the default ones. -/
def loadConfig (fs : Files) (o : OutputOptions) (g : GatewayOptions) : Action GatewayConfig :=
  match g.config with
  | none => return override g {}
  | some path => do
    let text ← (fs.readText path).mapError fun e =>
      Outcome.failure o .runtimeError ("failed to read config " ++ path ++ ": " ++ e.message)
    let c ← (GatewayConfig.parse text).mapError fun e =>
      Outcome.failure o .runtimeError ("invalid config: " ++ e.message)
    return override g c

/-- A value in JSON, or else in YAML. -/
def parseValue? (text : String) : Option Json :=
  match Json.parse? text with
  | some v => some v
  | none => Reading.parseAs? Readable.json? text .yaml

/-- The raw parameters of the file that is named, none without one. -/
def loadParams (fs : Files) (o : OutputOptions) : Option String → Action Json
  | none => return .object []
  | some path => do
    let text ← (fs.readText path).mapError fun e =>
      Outcome.failure o .runtimeError ("failed to read params: " ++ e.message)
    match parseValue? text with
    | some v => return v
    | none => throw (.failure o .runtimeError "params file is neither valid JSON nor YAML")

/-- The name of a document: its file's name without the last extension. -/
def documentName (path : String) : String :=
  let name := (Network.fileName path).toList
  let extension := name.reverse.takeWhile (· ≠ '.')
  let stem := name.take (name.length - extension.length - 1)
  if stem.isEmpty then String.ofList name else String.ofList stem

/-! ### Requests -/

/-- The service that a forward reaches through a proxy. -/
def proxiedService? (n : ForwardNode) : Option String :=
  match n.destination with
  | .http _ _ => none
  | _ => some n.service

/-- The services that the forwards of a request reach through proxies, in ascending order. -/
def requiredServices (g : Gateway) (method : Method) (url : String) : List String :=
  match g.route? method url with
  | none => []
  | some r => Text.sortNames (r.chain.nodes.filterMap proxiedService?)

/-- The network with all backends of the directory, once the services are there. -/
def startBackends (fs : Files) (o : OutputOptions) (c : ProxyConfig) (services : List String)
    (milliseconds : Nat) : Action Network := do
  if services.isEmpty then return {}
  let started ← (({} : Network).launchAll fs c).mapError fun e =>
    Outcome.failure o .runtimeError e.message
  match started.waitForServices services milliseconds with
  | (.ok (), n) => return n
  | (.error e, _) => throw (.failure o .runtimeError e.message)

/-- The response in the format asked for. -/
def responseOutcome (o : OutputOptions) (r : Response) : Outcome :=
  let body := bodyValue r.body
  let code : ExitCode := if r.isSuccess then .success else .runFailed
  let shown := .object [("status", Json.nat r.status), ("content_type", .string r.contentType),
    ("body", body)]
  .resultOr o code shown
    (("status: " ++ toString r.status) :: if body.isNull then [] else [body.prettyText])

def invoke (fs : Files) (http : HttpTransport) (o : OutputOptions) (path method url : String)
    (params : Option String) (g : GatewayOptions) : Action Outcome := do
  let config ← loadConfig fs o g
  let text ← readDocument fs o path
  let method ← (Method.parse method).mapError fun e => Outcome.failure o .runtimeError e.message
  let params ← loadParams fs o params
  let raw ← (RawParams.ofJson params).mapError fun e => Outcome.failure o .runtimeError e.message
  let gateway ← (({} : Gateway).add (documentName path) text).mapError fun e =>
    Outcome.failure o .validationFailed e.message
  let services := requiredServices gateway method url
  let network ← startBackends fs o config.proxy services g.registerTimeoutMs
  let (_, x) := gateway.handle (deliver http) method url raw { world := network }
  return responseOutcome o x.response

/-! ### Calls -/

def callService (fs : Files) (o : OutputOptions) (proxy service method : String)
    (params : Option String) (g : GatewayOptions) : Action Outcome := do
  let config ← loadConfig fs o g
  let params := params.getD "{}"
  if (Json.parse? params).isNone then
    throw (.failure o .runtimeError "--params is not valid JSON: ...")
  let (_, launched) ← (({} : Network).launch fs config.proxy proxy).mapError fun e =>
    Outcome.failure o .runtimeError e.message
  let network ← match launched.waitForServices [service] g.registerTimeoutMs with
    | (.ok (), n) => pure n
    | (.error e, _) => throw (.failure o .runtimeError e.message)
  match (network.callService ⟨service, method, Text.encode params⟩).1 with
  | some (.ok body) =>
    let reply := bodyValue body
    return .resultOr o .success (.object [("service", .string service),
      ("method", .string method), ("reply", reply)]) [reply.prettyText]
  | some (.error e) => return .failure o .runFailed e.message
  | none => return .failure o .runFailed ProxyError.streamClosed.message

/-! ### Commands -/

/-- What a command prints and how it ends. -/
def run (fs : Files) (http : HttpTransport) (i : Invocation) : Outcome :=
  let action := match i.command with
    | .validate path => validate fs i.output path
    | .plan path => plan fs i.output path
    | .endpoints path => endpoints fs i.output path
    | .invoke path method url params g => invoke fs http i.output path method url params g
    | .call proxy service method params g => callService fs i.output proxy service method params g
  action.outcome

end ApiGateway.Cli
