import ApiGateway.Proxy.Connection
import ApiGateway.Proxy.Backend

/-
A gateway's connections and the registry that its proxies share.

Time is virtual: it passes only while nothing can move. So a call that is not answered once every
connection waits will not be answered at all, and runs into its limit if it has one.

* `Network.connect` - a new connection.
* `Network.settle` - runs every connection until nothing can move.
* `Network.await` - the result of a call; none if it would wait for ever.
* `Network.callWithin`, `Network.call`, `Network.callService` - whole calls.
* `Network.announce` - the registration of a backend's services.
-/

namespace ApiGateway

structure Network where
  connections : List Connection := []
  registry : ProxyRegistry := {}

namespace Network

/-! ### Connections -/

/-- How many bytes a direction of a connection holds by default. -/
def defaultCapacity : Nat := 1024 * 1024

/-- Adds a connection and gives its number. -/
def connect (n : Network) (near far : Party) (capacity : Nat) : Nat × Network :=
  (n.connections.length, { n with connections := n.connections ++
    [{ capacity := capacity, near := { party := near }, far := { party := far } }] })

def connection? (n : Network) (number : Nat) : Option Connection := n.connections[number]?

def setConnection (n : Network) (number : Nat) (c : Connection) : Network :=
  { n with connections := n.connections.set number c }

def proxy? (n : Network) (p : ProxyRef) : Option Proxy := do
  (← n.connection? p.connection).proxy? p.side

/-- Changes a proxy. -/
def update (n : Network) (p : ProxyRef) (f : Proxy → Proxy) : Network :=
  match n.connection? p.connection, n.proxy? p with
  | some c, some x => n.setConnection p.connection (c.setProxy p.side (f x))
  | _, _ => n

/-- Settles the connections whose numbers follow one another from the first on. -/
def settleFrom (number : Nat) : List Connection → ProxyRegistry → List Connection × ProxyRegistry
  | [], r => ([], r)
  | c :: cs, r =>
    let (c, r) := c.settle number r
    let (cs, r) := settleFrom (number + 1) cs r
    (c :: cs, r)

/-- Runs every connection until nothing can move. -/
def settle (n : Network) : Network :=
  let (cs, r) := settleFrom 0 n.connections n.registry
  { connections := cs, registry := r }

/-! ### Calls -/

/-- Begins a call of a proxy. -/
def startCall (n : Network) (p : ProxyRef) (body : Bytes) : Except ProxyError Nat × Network :=
  match n.proxy? p with
  | none => (.error .streamClosed, n)
  | some x =>
    let (handle, x) := x.call body
    (handle, n.update p fun _ => x)

/-- Takes the result of a call, if it is there. -/
def collect (n : Network) (p : ProxyRef) (handle : Nat) : Option CallResult × Network :=
  match n.proxy? p with
  | none => (none, n)
  | some x =>
    let (result, x) := x.collect handle
    (result, n.update p fun _ => x)

/-- Stops waiting for a call. -/
def giveUp (n : Network) (p : ProxyRef) (handle milliseconds : Nat) :
    Option CallResult × Network :=
  match n.proxy? p with
  | none => (none, n)
  | some x =>
    let (result, x) := x.giveUp handle milliseconds
    (result, n.update p fun _ => x)

/-- Waits for the result of a call, for a number of milliseconds or for ever. No time leaves no room
for anything to move. A call that would wait for ever has no result and is dropped. -/
def await (n : Network) (p : ProxyRef) (handle : Nat) (limit : Option Nat) :
    Option CallResult × Network :=
  let n := if limit = some 0 then n else n.settle
  match n.collect p handle with
  | (some result, n) => (some result, n)
  | (none, n) =>
    match limit with
    | some ms => n.giveUp p handle ms
    | none => (none, n.update p (·.abandon handle))

/-- A call with a limit of its own. -/
def callWithin (n : Network) (p : ProxyRef) (body : Bytes) (limit : Option Nat) :
    Option CallResult × Network :=
  match n.startCall p body with
  | (.error e, n) => (some (.error e), n)
  | (.ok handle, n) => n.await p handle limit

/-- A call with the limit of its proxy. -/
def call (n : Network) (p : ProxyRef) (body : Bytes) : Option CallResult × Network :=
  n.callWithin p body ((n.proxy? p).bind (·.callTimeout))

/-- Calls a service through a proxy. -/
def callThrough (n : Network) (p : ProxyRef) (c : ServiceCall) : Option CallResult × Network :=
  match c.encode with
  | .error e => (some (.error e), n)
  | .ok body => n.call p body

/-- Calls a service through the proxy that owns it. -/
def callService (n : Network) (c : ServiceCall) : Option CallResult × Network :=
  match n.registry.lookup c.service with
  | .error e => (some (.error e), n)
  | .ok p => n.callThrough p c

/-- Announces a backend's services to the other end; none if no answer comes. -/
def announce (n : Network) (p : ProxyRef) (services : List String) :
    Option (Except ProxyError Registration) × Network :=
  let reg : Registration := ⟨services⟩
  let (result, n) := n.call p reg.encode
  (result.map reg.acknowledged, n)

/-- The first of several services that nobody owns. -/
def missing? (n : Network) (services : List String) : Option String :=
  services.find? fun s => !n.registry.contains s

end Network

end ApiGateway
