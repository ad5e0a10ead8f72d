import ApiGateway.Proxy.Error
import ApiGateway.Proxy.Frame
import ApiGateway.Proxy.Registry
import ApiGateway.Json.Text
import ApiGateway.Text.Quoted

/-
Proxies: one end of a stream of frames, that makes calls and answers calls.

A call takes a fresh identifier and a slot in the table of outstanding calls. The first reply with
its identifier answers it and frees the slot; a reply without a slot is dropped. When the stream
ends, every outstanding call is answered with the reason, and no further call gets a slot.

* `CallHandler` - answers calls; it may change the registry.
* `Proxy` - the state of a proxy; `Proxy.calls` holds every call ever made, under its handle.
* `Proxy.call` - begins a call: `Proxy.takeId`, `Proxy.register` and `Proxy.enqueue` in turn.
* `Proxy.enqueue`, `Proxy.post` - queue any frame, of a live proxy or of any.
* `Proxy.receive` - what a frame from the peer does.
* `Proxy.answer` - answers one call of the peer.
* `Proxy.collect`, `Proxy.giveUp`, `Proxy.abandon` - take a result, stop waiting, drop a call.
* `Proxy.close`, `Proxy.markDead` - the end of the stream.
-/

namespace ApiGateway

/-- What a call comes to. -/
abbrev CallResult := Except ProxyError Bytes

/-- Answers the calls that arrive at a proxy. -/
abbrev CallHandler := ProxyRef → Bytes → ProxyRegistry → CallResult × ProxyRegistry

inductive CallState where
  | waiting
  /-- The result is there and not collected. -/
  | answered (result : CallResult)
  /-- The caller has the result. -/
  | resolved (result : CallResult)
  /-- The caller dropped the call. -/
  | abandoned

/-- A call that was made. -/
structure OutgoingCall where
  id : UInt64
  body : Bytes
  state : CallState := .waiting

/-- The call with a result, if it waits for one. -/
def OutgoingCall.answer (c : OutgoingCall) (result : CallResult) : OutgoingCall :=
  match c.state with
  | .waiting => { c with state := .answered result }
  | _ => c

/-- A call of the peer that is being handled. -/
structure InboundCall where
  id : UInt64
  body : Bytes
deriving DecidableEq

structure Proxy where
  name : String
  /-- The limit of a synchronous call in milliseconds; without one it waits for ever. -/
  callTimeout : Option Nat := none
  /-- The longest body that the peer may send. -/
  maxFrameLength : Nat := 16 * 1024 * 1024
  handler : Option CallHandler := none
  /-- How many identifiers were taken. -/
  issued : Nat := 0
  /-- The stream has not ended for this proxy. -/
  alive : Bool := true
  /-- The table of outstanding calls takes no more. -/
  closed : Bool := false
  /-- The outstanding calls: identifiers with handles. -/
  slots : List (UInt64 × Nat) := []
  calls : List OutgoingCall := []
  /-- The frames that wait for the writer. -/
  outbound : List Frame := []
  inbound : List InboundCall := []
  /-- The bodies of the peer's calls that were handled, in order. -/
  handled : List Bytes := []

namespace Proxy

/-! ### Slots -/

/-- The number of outstanding calls. -/
def pendingCalls (p : Proxy) : Nat := p.slots.length

def slot? (p : Proxy) (id : UInt64) : Option Nat := p.slots.lookup id

def freeSlot (p : Proxy) (id : UInt64) : Proxy := { p with slots := p.slots.filter (·.1 ≠ id) }

/-- The call of a handle with a new state. -/
def setState (p : Proxy) (handle : Nat) (state : CallState) : Proxy :=
  { p with calls := p.calls.modify handle fun c => { c with state := state } }

/-- Gives a call that waits its result. -/
def resolve (p : Proxy) (handle : Nat) (result : CallResult) : Proxy :=
  { p with calls := p.calls.modify handle (·.answer result) }

/-- Takes a slot. A call that had it before will get no reply. -/
def occupy (p : Proxy) (id : UInt64) (handle : Nat) : Proxy :=
  let before := match p.slot? id with
    | some old => p.resolve old (.error .streamClosed)
    | none => p
  { before.freeSlot id with slots := (before.freeSlot id).slots ++ [(id, handle)] }

/-! ### Sending -/

/-- A fresh identifier: they count from one and run through 64 bits. -/
def takeId (p : Proxy) : UInt64 × Proxy :=
  (UInt64.ofNat (p.issued + 1), { p with issued := p.issued + 1 })

/-- Queues a frame for the writer and gives its identifier; identifier zero asks for a fresh one. -/
def post (p : Proxy) (f : Frame) : UInt64 × Proxy :=
  if f.id = 0 then
    let (id, p) := p.takeId
    (id, { p with outbound := p.outbound ++ [{ f with id := id }] })
  else (f.id, { p with outbound := p.outbound ++ [f] })

/-- Queues a frame of a live proxy. -/
def enqueue (p : Proxy) (f : Frame) : Except ProxyError UInt64 × Proxy :=
  if !p.alive then (.error .streamClosed, p)
  else
    let (id, p) := p.post f
    (.ok id, p)

/-- Takes a slot for a call of an identifier and gives the call's handle. -/
def register (p : Proxy) (id : UInt64) (body : Bytes) : Except ProxyError Nat × Proxy :=
  if p.closed then (.error .streamClosed, p)
  else
    let handle := p.calls.length
    let p := p.occupy id handle
    (.ok handle, { p with calls := p.calls ++ [{ id := id, body := body }] })

/-! ### The caller's side -/

/-- The call of a handle. -/
def call? (p : Proxy) (handle : Nat) : Option OutgoingCall := p.calls[handle]?

/-- Takes the result of a call, if it is there. -/
def collect (p : Proxy) (handle : Nat) : Option CallResult × Proxy :=
  match p.call? handle with
  | some ⟨id, _, .answered result⟩ =>
    (some result, (p.freeSlot id).setState handle (.resolved result))
  | _ => (none, p)

/-- The result of a call for which nobody waits longer than a number of milliseconds. -/
def expire (p : Proxy) (handle milliseconds : Nat) : Option CallResult × Proxy :=
  match p.call? handle with
  | some ⟨id, _, .waiting⟩ =>
    let result : CallResult := .error (.timedOut id milliseconds)
    (some result, p.setState handle (.resolved result))
  | _ => (none, p)

/-- Frees the slot of a call. -/
def release (p : Proxy) (handle : Nat) : Proxy :=
  match p.call? handle with
  | some c => p.freeSlot c.id
  | none => p

/-- Stops waiting for a call after a number of milliseconds. -/
def giveUp (p : Proxy) (handle milliseconds : Nat) : Option CallResult × Proxy :=
  match p.expire handle milliseconds with
  | (some result, p) => (some result, p.release handle)
  | (none, p) => (none, p)

/-- Drops a call whose result was not taken. -/
def abandon (p : Proxy) (handle : Nat) : Proxy :=
  match p.call? handle with
  | some ⟨_, _, .resolved _⟩ => p
  | some ⟨id, _, _⟩ => (p.freeSlot id).setState handle .abandoned
  | none => p

/-- Begins a call and gives its handle. A call that cannot be sent keeps no slot. -/
def call (p : Proxy) (body : Bytes) : Except ProxyError Nat × Proxy :=
  let (id, p) := p.takeId
  match p.register id body with
  | (.error e, p) => (.error e, p)
  | (.ok handle, p) =>
    match p.enqueue ⟨id, .call, body⟩ with
    | (.error e, p) => (.error e, p.abandon handle)
    | (.ok _, p) => (.ok handle, p)

/-! ### The end of the stream -/

/-- Answers every outstanding call with the reason and refuses further ones. -/
def close (p : Proxy) (reason : ProxyError) : Proxy :=
  let p := p.slots.foldl (fun p (_, handle) => p.resolve handle (.error reason)) p
  { p with slots := [], closed := true }

def markDead (p : Proxy) (reason : ProxyError) : Proxy := { p.close reason with alive := false }

def shutdown (p : Proxy) : Proxy := p.markDead .streamClosed

/-! ### Frames of the peer -/

/-- Gives a reply to the call that waits for it, if one does. -/
def complete (p : Proxy) (id : UInt64) (body : Bytes) : Proxy :=
  match p.slot? id with
  | some handle => (p.freeSlot id).resolve handle (.ok body)
  | none => p

def receive (p : Proxy) (f : Frame) : Proxy :=
  match f.kind with
  | .reply => p.complete f.id f.body
  | .call => { p with inbound := p.inbound ++ [⟨f.id, f.body⟩] }

/-- The body that tells the peer of an error. -/
def errorBody (e : ProxyError) : Bytes :=
  Text.encode (Json.object [("error", .string e.message)]).text

/-- The body of the reply to a call. Without a handler it is empty. -/
def replyBody (handler : Option CallHandler) (self : ProxyRef) (body : Bytes) (r : ProxyRegistry) :
    Bytes × ProxyRegistry :=
  match handler with
  | none => ([], r)
  | some handle =>
    match handle self body r with
    | (.ok reply, r) => (reply, r)
    | (.error e, r) => (errorBody e, r)

/-- The proxy when a call of the peer was handled. -/
def dismiss (p : Proxy) (position : Nat) (c : InboundCall) : Proxy :=
  { p with inbound := p.inbound.eraseIdx position, handled := p.handled ++ [c.body] }

/-- Handles the peer's call at a position and queues the reply; the reply of a dead proxy is
lost. -/
def answer (p : Proxy) (self : ProxyRef) (position : Nat) (r : ProxyRegistry) :
    Proxy × ProxyRegistry :=
  match p.inbound[position]? with
  | none => (p, r)
  | some c =>
    let (body, r) := replyBody p.handler self c.body r
    (((p.dismiss position c).enqueue ⟨c.id, .reply, body⟩).2, r)

/-! ### In listings -/

/-- The state of a proxy in one line. -/
def summary (p : Proxy) : String :=
  "ServiceProxy \x7b name: " ++ Text.quoted p.name ++ ", alive: " ++ toString p.alive ++
    ", closed: " ++ toString p.closed ++ ", pending: " ++ toString p.pendingCalls ++ " \x7d"

end Proxy

end ApiGateway
