import ApiGateway.Proxy.Basic

/-
Connections: two ends of a byte stream in both directions, each with a proxy or a raw peer.

A proxy at an end has a reader and a writer. The writer takes one queued frame after another and
writes its bytes as far as the other end has room; the reader takes bytes as they come and acts on
each frame once it is whole. An end is released when both have stopped; what was written before can
still be read at the other end.

* `Terminal` - an end: who sits there, and the bytes that have come and are not taken.
* `Step` - what a connection does by itself, `Connection.step?` - the connection after it.
* `Connection.settle` - a run of steps until each task waits, with the calls handled on the way.
-/

namespace ApiGateway

/-- A proxy with its reader and its writer. -/
structure Session where
  proxy : Proxy
  /-- The bytes of a frame that is not whole yet; none when the reader has stopped. -/
  reading : Option Bytes := some []
  /-- The bytes of a frame that are not written yet; none when the writer has stopped. -/
  writing : Option Bytes := some []

/-- Who sits at an end. -/
inductive Party where
  | session (s : Session)
  /-- A peer that reads and writes bytes as it likes. -/
  | raw

structure Terminal where
  party : Party
  /-- The bytes that the other end has written and this end has not taken. -/
  inbox : Bytes := []
  /-- This end is not released. -/
  isOpen : Bool := true

structure Connection where
  /-- How many bytes an inbox holds. -/
  capacity : Nat
  near : Terminal
  far : Terminal

/-- The steps of a connection. Bytes move in chunks of any length. A reader or a writer may take
further steps before it stops because its proxy is dead. -/
inductive Step where
  /-- The reader takes bytes. -/
  | take (side : Side) (count : Nat)
  /-- The reader stops, because the proxy is dead. -/
  | stop (side : Side)
  /-- The reader acts on a whole frame, on a fault or on the end of the stream. -/
  | dispatch (side : Side)
  /-- The writer stops, because the proxy is dead. -/
  | halt (side : Side)
  /-- The writer takes a queued frame. -/
  | load (side : Side)
  /-- The writer writes bytes. -/
  | write (side : Side) (count : Nat)
  /-- An end whose reader and writer have stopped is released. -/
  | release (side : Side)

namespace Session

/-- The reader stops and the proxy is dead. -/
def stopReading (s : Session) (reason : ProxyError) : Session :=
  { s with proxy := s.proxy.markDead reason, reading := none }

/-- The writer stops, because the other end is gone: no frame can be sent any more. -/
def failWriting (s : Session) : Session :=
  { s with proxy := { s.proxy with alive := false }, writing := none }

/-- Why a reader stops where the stream ends after these bytes of a frame. -/
def endReason (bytes : Bytes) : ProxyError :=
  if bytes.isEmpty then .streamClosed else .malformedFrame FrameError.truncated.message

/-- The reader finds its proxy dead. -/
def stop? (s : Session) : Option Session := do
  let _ ← s.reading
  if s.proxy.alive then none else return s.stopReading .streamClosed

/-- What the reader does, unless it waits for more bytes. `ended` says that no more will come. -/
def dispatch? (s : Session) (ended : Bool) : Option Session := do
  let bytes ← s.reading
  match Frame.next s.proxy.maxFrameLength bytes with
  | .frame f rest => return { s with proxy := s.proxy.receive f, reading := some rest }
  | .fault e => return s.stopReading (.malformedFrame e.message)
  | .more => if ended then return s.stopReading (endReason bytes) else none

/-- The writer finds its proxy dead. It looks between two frames. -/
def halt? (s : Session) : Option Session := do
  let [] ← s.writing | none
  if s.proxy.alive then none else return { s with writing := none }

/-- The writer takes the next frame; it waits when none is queued. -/
def load? (s : Session) : Option Session := do
  let [] ← s.writing | none
  match s.proxy.outbound with
  | [] => none
  | f :: fs =>
    let s := { s with proxy := { s.proxy with outbound := fs } }
    match f.encode with
    | .ok bytes => return { s with writing := some bytes }
    | .error _ => return s.failWriting

end Session

namespace Connection

def terminal (c : Connection) : Side → Terminal
  | .near => c.near
  | .far => c.far

def setTerminal (c : Connection) (side : Side) (t : Terminal) : Connection :=
  match side with
  | .near => { c with near := t }
  | .far => { c with far := t }

/-- The session at an end. -/
def session? (c : Connection) (side : Side) : Option Session :=
  match (c.terminal side).party with
  | .session s => some s
  | .raw => none

/-- The proxy at an end. -/
def proxy? (c : Connection) (side : Side) : Option Proxy := (c.session? side).map (·.proxy)

def setSession (c : Connection) (side : Side) (s : Session) : Connection :=
  c.setTerminal side { c.terminal side with party := .session s }

/-- The connection with a new state of the proxy at an end. -/
def setProxy (c : Connection) (side : Side) (p : Proxy) : Connection :=
  match c.session? side with
  | some s => c.setSession side { s with proxy := p }
  | none => c

def setInbox (c : Connection) (side : Side) (bytes : Bytes) : Connection :=
  c.setTerminal side { c.terminal side with inbox := bytes }

/-- How many bytes an end can be sent. -/
def room (c : Connection) (side : Side) : Nat := c.capacity - (c.terminal side).inbox.length

/-- Nothing more comes to an end: its inbox is empty and the other end is released. -/
def ended (c : Connection) (side : Side) : Bool :=
  (c.terminal side).inbox.isEmpty && !(c.terminal side.other).isOpen

/-! ### Steps -/

def take? (c : Connection) (side : Side) (count : Nat) : Option Connection := do
  let s ← c.session? side
  let bytes ← s.reading
  let inbox := (c.terminal side).inbox
  let taken := inbox.take count
  if taken.isEmpty then none
  else
    let c := c.setSession side { s with reading := some (bytes ++ taken) }
    return c.setInbox side (inbox.drop count)

def stop? (c : Connection) (side : Side) : Option Connection := do
  let s ← c.session? side
  return c.setSession side (← s.stop?)

def dispatch? (c : Connection) (side : Side) : Option Connection := do
  let s ← c.session? side
  return c.setSession side (← s.dispatch? (c.ended side))

def halt? (c : Connection) (side : Side) : Option Connection := do
  let s ← c.session? side
  return c.setSession side (← s.halt?)

def load? (c : Connection) (side : Side) : Option Connection := do
  let s ← c.session? side
  return c.setSession side (← s.load?)

def write? (c : Connection) (side : Side) (count : Nat) : Option Connection := do
  let s ← c.session? side
  let bytes ← s.writing
  let other := c.terminal side.other
  let count := min count (c.room side.other)
  if bytes.isEmpty then none
  else if !other.isOpen then return c.setSession side s.failWriting
  else if count = 0 then none
  else
    let c := c.setSession side { s with writing := some (bytes.drop count) }
    return c.setInbox side.other (other.inbox ++ bytes.take count)

def release? (c : Connection) (side : Side) : Option Connection := do
  let s ← c.session? side
  let t := c.terminal side
  if t.isOpen && s.reading.isNone && s.writing.isNone then
    return c.setTerminal side { t with isOpen := false }
  else none

/-- The connection after a step; none if it cannot be taken. -/
def step? (c : Connection) : Step → Option Connection
  | .take side count => c.take? side count
  | .stop side => c.stop? side
  | .dispatch side => c.dispatch? side
  | .halt side => c.halt? side
  | .load side => c.load? side
  | .write side count => c.write? side count
  | .release side => c.release? side

/-! ### Running until every task waits -/

/-- The steps in the order in which they are tried: readers come first, those of dead proxies stop
at once, and chunks are as long as can be. -/
def schedule (c : Connection) : List Step :=
  [.stop .near, .dispatch .near, .stop .far, .dispatch .far, .take .near c.near.inbox.length,
    .take .far c.far.inbox.length, .halt .near, .load .near, .halt .far, .load .far,
    .write .near c.capacity, .write .far c.capacity, .release .near, .release .far]

/-- The next step of the schedule, if any task can take one. -/
def next? (c : Connection) : Option Connection := c.schedule.findSome? c.step?

/-- Takes steps as long as there are any. -/
def drain : Nat → Connection → Connection
  | 0, c => c
  | fuel + 1, c =>
    match c.next? with
    | some c => drain fuel c
    | none => c

/-- The steps that an end has still to take, at most. -/
def work (c : Connection) (side : Side) : Nat :=
  let t := c.terminal side
  let queued := match t.party with
    | .session s => (s.reading.getD []).length + 2 * (s.writing.getD []).length +
        s.proxy.outbound.foldl (fun n f => n + 3 * (Frame.headerLength + f.body.length) + 1) 0
    | .raw => 0
  2 * t.inbox.length + queued + 4

/-- Takes steps until every task waits: each step leaves less work. -/
def quiet (c : Connection) : Connection := c.drain (2 * (c.work .near + c.work .far))

/-- Handles the calls that wait at an end. -/
def answerAll (number : Nat) (side : Side) : Nat → Connection → ProxyRegistry →
    Connection × ProxyRegistry
  | 0, c, r => (c, r)
  | count + 1, c, r =>
    match c.proxy? side with
    | none => (c, r)
    | some p =>
      let (p, r) := p.answer ⟨number, side⟩ 0 r
      answerAll number side count (c.setProxy side p) r

/-- The number of calls that wait at an end. -/
def waitingCalls (c : Connection) (side : Side) : Nat :=
  match c.proxy? side with
  | some p => p.inbound.length
  | none => 0

/-- Runs the connection of a number until every task waits. Handlers make no calls, so that once
their replies have moved nothing is left to do. -/
def settle (number : Nat) (c : Connection) (r : ProxyRegistry) : Connection × ProxyRegistry :=
  let c := c.quiet
  let (c, r) := answerAll number .near (c.waitingCalls .near) c r
  let (c, r) := answerAll number .far (c.waitingCalls .far) c r
  (c.quiet, r)

end Connection

end ApiGateway
