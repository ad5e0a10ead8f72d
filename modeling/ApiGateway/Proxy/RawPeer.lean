import ApiGateway.Proxy.Network

/-
Raw peers: the other end of a proxy's connection, that reads and writes bytes as it likes.

* `Network.peerWrite` - writes bytes; they arrive as far as the proxy takes them.
* `Network.peerRead` - reads a frame.
* `Network.peerClose` - releases the peer's end.
-/

namespace ApiGateway

/-- What a raw peer reads. -/
inductive PeerRead where
  | frame (f : Frame)
  /-- No whole frame came; the bytes of one that began are lost. -/
  | nothing
  | ended
  | fault (e : FrameError)

namespace Connection

/-- Puts as many bytes as there is room for into the inbox of an end, and gives the rest. -/
def push (c : Connection) (side : Side) (bytes : Bytes) : Bytes × Connection :=
  let count := c.room side
  (bytes.drop count, c.setInbox side ((c.terminal side).inbox ++ bytes.take count))

/-- Empties the inbox of an end. -/
def pull (c : Connection) (side : Side) : Bytes × Connection :=
  ((c.terminal side).inbox, c.setInbox side [])

/-- Releases an end. -/
def releaseEnd (c : Connection) (side : Side) : Connection :=
  c.setTerminal side { c.terminal side with isOpen := false }

end Connection

namespace Network

/-- Writes bytes to the end at which a proxy sits. It fails when that end is released before the
last byte, or takes no more. Each round writes a byte at least. -/
def writeAll (n : Network) (p : ProxyRef) : Nat → Bytes → Bool × Network
  | 0, bytes => (bytes.isEmpty, n)
  | rounds + 1, bytes =>
    if bytes.isEmpty then (true, n)
    else match n.connection? p.connection with
      | none => (false, n)
      | some c =>
        if !(c.terminal p.side).isOpen || c.room p.side = 0 then (false, n)
        else
          let (rest, c) := c.push p.side bytes
          writeAll (n.setConnection p.connection c).settle p rounds rest

/-- The raw peer of a proxy writes bytes. -/
def peerWrite (n : Network) (p : ProxyRef) (bytes : Bytes) : Bool × Network :=
  n.writeAll p bytes.length bytes

/-- Reads on from the bytes of a frame that has begun. Each round takes a byte at least, and a frame
within the limit has no more bytes than there are rounds. -/
def readOn (n : Network) (p : ProxyRef) (limit : Nat) : Nat → Bytes → PeerRead × Network
  | 0, _ => (.nothing, n)
  | rounds + 1, begun =>
    match n.connection? p.connection with
    | none => (.ended, n)
    | some c =>
      let peer := p.side.other
      let (more, c') := c.pull peer
      let bytes := begun ++ more
      match Frame.next limit bytes with
      | .frame f rest =>
        (.frame f, (n.setConnection p.connection (c'.setInbox peer rest)).settle)
      | .fault e =>
        let rest := bytes.drop Frame.headerLength
        (.fault e, (n.setConnection p.connection (c'.setInbox peer rest)).settle)
      | .more =>
        let n := (n.setConnection p.connection c').settle
        if more.isEmpty then
          if (c.terminal p.side).isOpen then (.nothing, n)
          else if bytes.isEmpty then (.ended, n)
          else (.fault .truncated, n)
        else readOn n p limit rounds bytes

/-- The raw peer of a proxy reads a frame of a body within a limit. -/
def peerRead (n : Network) (p : ProxyRef) (limit : Nat) : PeerRead × Network :=
  n.readOn p limit (limit + Frame.headerLength + 1) []

/-- The raw peer of a proxy releases its end. -/
def peerClose (n : Network) (p : ProxyRef) : Network :=
  match n.connection? p.connection with
  | none => n
  | some c => (n.setConnection p.connection (c.releaseEnd p.side.other)).settle

/-- The raw peer of a proxy, if it has one that is there. -/
def hasRawPeer (n : Network) (p : ProxyRef) : Bool :=
  match n.connection? p.connection with
  | none => false
  | some c =>
    let t := c.terminal p.side.other
    match t.party with
    | .raw => t.isOpen
    | .session _ => false

end Network

end ApiGateway
