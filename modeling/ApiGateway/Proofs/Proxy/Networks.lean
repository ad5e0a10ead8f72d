import ApiGateway.Proofs.Proxy.Settling
import ApiGateway.Proxy.Network

/-
Calls through a network arrive.

A proxy sits at an end of a connection that works; whatever is under way there, whatever the other
connections are. A call that it makes is handled at the other end, once, behind all that was sent
before it (`Network.record?_callWithin`). A caller without time gives up before anything has moved,
and its call is handled all the same once the network has settled.

* `Network.connection?_settle` - a network settles each of its connections.
* `Network.Connected` - a proxy sits at an end of a connection that works.
* `Network.Owes` - what the other end has handled once the network has settled.
* `Network.await_induction` - who waits lets the network settle, and then frees slots at most.
-/

namespace ApiGateway

namespace Proxy

theorem Narrows.trans {p q r : Proxy} (first : p.Narrows q) (second : q.Narrows r) : p.Narrows r := by
  obtain ⟨⟨slots, calls, rfl⟩, sublist⟩ := first
  obtain ⟨⟨slots', calls', rfl⟩, sublist'⟩ := second
  exact ⟨⟨slots', calls', rfl⟩, sublist'.trans sublist⟩

theorem narrows_giveUp (p : Proxy) (handle milliseconds : Nat) :
    p.Narrows (p.giveUp handle milliseconds).2 := by
  have expired := p.narrows_expire handle milliseconds
  rw [giveUp]
  split
  next expire =>
    rw [expire] at expired
    exact expired.trans (narrows_release _ handle)
  next expire =>
    rw [expire] at expired
    exact expired

/-- A call of a live proxy is queued. -/
theorem call_of_open {p : Proxy} (alive : p.alive = true) (isOpen : p.closed = false) (body : Bytes) :
    ∃ handle id slots calls issued, p.call body = (.ok handle,
      { p with
        issued := issued
        slots := slots
        calls := calls
        outbound := p.outbound ++ [⟨id, .call, body⟩] }) := by
  have isOpen' : p.takeId.2.closed = false := isOpen
  obtain ⟨slots, calls, registered, -⟩ := register_of_open isOpen' p.takeId.1 body
  let q : Proxy := { p.takeId.2 with slots := slots, calls := calls }
  have lives : (!q.alive) = false := by
    rw [show q.alive = true from alive]
    rfl
  have sent : q.enqueue ⟨p.takeId.1, .call, body⟩ =
      (.ok (q.post ⟨p.takeId.1, .call, body⟩).1, (q.post ⟨p.takeId.1, .call, body⟩).2) := by
    rw [enqueue, lives]
    rfl
  have called : p.call body =
      (.ok p.takeId.2.calls.length, (q.post ⟨p.takeId.1, .call, body⟩).2) := by
    simp only [call, registered]
    rw [sent]
  rw [called, post_eq]
  exact ⟨_, _, _, _, _, rfl⟩

end Proxy

namespace Network

variable {n : Network} {p q : ProxyRef}

/-! ### Settling -/

theorem getElem?_settleFrom (first : Nat) (cs : List Connection) (r : ProxyRegistry) (i : Nat) :
    ∃ r', (settleFrom first cs r).1[i]? = cs[i]?.map fun c => (c.settle (first + i) r').1 := by
  induction cs generalizing first r i with
  | nil => exact ⟨r, rfl⟩
  | cons c cs ih =>
    cases i with
    | zero => exact ⟨r, rfl⟩
    | succ i =>
      obtain ⟨r', settled⟩ := ih (first + 1) (c.settle first r).2 i
      refine ⟨r', ?_⟩
      rw [settleFrom, List.getElem?_cons_succ, ← Nat.add_assoc, Nat.add_right_comm]
      exact settled

/-- A network settles each of its connections, with the registry as it is at its turn. -/
theorem connection?_settle (n : Network) (number : Nat) :
    ∃ r, n.settle.connection? number =
      (n.connection? number).map fun c => (c.settle number r).1 := by
  obtain ⟨r, settled⟩ := getElem?_settleFrom 0 n.connections n.registry number
  rw [Nat.zero_add] at settled
  exact ⟨r, settled⟩

def record? (n : Network) (p : ProxyRef) : Option (Option CallHandler × List Bytes) :=
  (n.proxy? p).map Proxy.record

theorem connection?_setConnection_self {c : Connection} (found : n.connection? p.connection = some c)
    (c' : Connection) : (n.setConnection p.connection c').connection? p.connection = some c' := by
  rw [connection?, setConnection, List.getElem?_set_self]
  exact (List.getElem?_eq_some_iff.mp found).1

theorem connection?_setConnection_of_ne {number other : Nat} (apart : other ≠ number) (c : Connection) :
    (n.setConnection number c).connection? other = n.connection? other :=
  List.getElem?_set_ne (Ne.symm apart)

/-- A change of one proxy leaves the others. -/
theorem proxy?_update_of_ne (apart : q ≠ p) (f : Proxy → Proxy) :
    (n.update p f).proxy? q = n.proxy? q := by
  unfold update
  split
  next c x found _ =>
    by_cases same : q.connection = p.connection
    · have sides : q.side ≠ p.side := fun sides => apart (by
        obtain ⟨_, _⟩ := p
        obtain ⟨_, _⟩ := q
        cases same
        cases sides
        rfl)
      rw [proxy?, proxy?, same, connection?_setConnection_self found, found]
      exact Connection.proxy?_setProxy_of_ne sides
    · rw [proxy?, proxy?, connection?_setConnection_of_ne same]
  next => rfl

/-- A proxy sits at an end of a connection that works. -/
structure Connected (n : Network) (p : ProxyRef) (d : Duplex Station) (fs : Side → List Frame) :
    Prop where
  there : n.connection? p.connection = some d.connection
  carries : d.Carries fs

variable {d : Duplex Station} {fs : Side → List Frame}

theorem Connected.proxy? (connected : n.Connected p d fs) (side : Side) :
    n.proxy? ⟨p.connection, side⟩ = some (d.ends side).proxy := by
  rw [Network.proxy?, connected.there]
  simp [Connection.proxy?, Duplex.session?_connection, Station.session]

/-- Settled, the other end has handled all that was due to it. -/
theorem Connected.settle (connected : n.Connected p d fs) :
    n.settle.record? p.peer =
      some ((d.ends p.side.other).proxy.handler, d.due fs p.side.other) := by
  obtain ⟨r, settled⟩ := n.connection?_settle p.connection
  rw [connected.there, Option.map_some] at settled
  rw [record?, Network.proxy?, ProxyRef.peer, settled]
  have record := connected.carries.settle p.connection r p.side.other
  rw [Connection.record?_eq] at record
  exact record

theorem Connected.update {f : Proxy → Proxy} {fs' : Side → List Frame}
    (connected : n.Connected p d fs)
    (carries : (d.set p.side { d.ends p.side with proxy := f (d.ends p.side).proxy }).Carries fs') :
    (n.update p f).Connected p
      (d.set p.side { d.ends p.side with proxy := f (d.ends p.side).proxy }) fs' := by
  refine ⟨?_, carries⟩
  have moved : d.connection.setProxy p.side (f (d.ends p.side).proxy) =
      (d.set p.side { d.ends p.side with proxy := f (d.ends p.side).proxy }).connection := by
    rw [Connection.setProxy_eq (d.session?_connection p.side), ← Duplex.setSession_connection]
    · rfl
    · rfl
  have proxy : n.proxy? p = some (d.ends p.side).proxy := connected.proxy? p.side
  rw [Network.update, connected.there, proxy, ← moved]
  exact connection?_setConnection_self connected.there _

/-! ### Waiting for a result -/

theorem snd_collect (n : Network) (p : ProxyRef) (handle : Nat) :
    (n.collect p handle).2 = n.update p fun x => (x.collect handle).2 := by
  unfold collect update
  cases n.proxy? p <;> cases n.connection? p.connection <;> rfl

theorem snd_giveUp (n : Network) (p : ProxyRef) (handle milliseconds : Nat) :
    (n.giveUp p handle milliseconds).2 = n.update p fun x => (x.giveUp handle milliseconds).2 := by
  unfold giveUp update
  cases n.proxy? p <;> cases n.connection? p.connection <;> rfl

/-- Who waits for a result lets the network settle if there is time, and then frees slots at most. -/
theorem await_induction {P : Network → Prop} {handle : Nat} {limit : Option Nat}
    (start : P (if limit = some 0 then n else n.settle))
    (narrow : ∀ m (f : Proxy → Proxy), (∀ x : Proxy, x.Narrows (f x)) → P m → P (m.update p f)) :
    P (n.await p handle limit).2 := by
  rw [await]
  generalize (if limit = some 0 then n else n.settle) = m at start
  have collected : P (m.collect p handle).2 := by
    rw [snd_collect]
    exact narrow m _ (fun x => x.narrows_collect handle) start
  generalize m.collect p handle = outcome at collected
  obtain ⟨result, m'⟩ := outcome
  cases result with
  | some result => exact collected
  | none =>
    cases limit with
    | none => exact narrow m' _ (fun x => x.narrows_abandon handle) collected
    | some milliseconds =>
      show P (m'.giveUp p handle milliseconds).2
      rw [snd_giveUp]
      exact narrow m' _ (fun x => x.narrows_giveUp handle milliseconds) collected

/-! ### Calls -/

/-- Settled, the proxy at the other end has handled these bodies, and it still has its handler. -/
def Owes (n : Network) (p : ProxyRef) (record : Option CallHandler × List Bytes) : Prop :=
  ∃ d fs, n.Connected p d fs ∧
    ((d.ends p.side.other).proxy.handler, d.due fs p.side.other) = record

theorem Owes.settle {record : Option CallHandler × List Bytes} (owes : n.Owes p record) :
    n.settle.record? p.peer = some record := by
  obtain ⟨d, fs, connected, rfl⟩ := owes
  exact connected.settle

/-- A proxy with more frames to send, which the other end admits. -/
theorem Connected.post (connected : n.Connected p d fs) (f : Proxy → Proxy) (more : List Frame)
    (alive : (f (d.ends p.side).proxy).alive = true)
    (limit : (f (d.ends p.side).proxy).maxFrameLength = (d.ends p.side).proxy.maxFrameLength)
    (outbound : (f (d.ends p.side).proxy).outbound = (d.ends p.side).proxy.outbound ++ more)
    (short : ∀ g ∈ more, g.body.length ≤ (d.ends p.side.other).proxy.maxFrameLength ∧
      g.body.length < 2 ^ 32) :
    (n.update p f).Owes p ((d.ends p.side.other).proxy.handler,
      d.due fs p.side.other ++ Frame.callBodies more) := by
  have carries : (d.set p.side { d.ends p.side with proxy := f (d.ends p.side).proxy }).Carries
      (Function.update fs p.side (fs p.side ++ more)) := by
    refine connected.carries.set alive ?_ ?_
    · obtain ⟨⟨written, encodes, all⟩, admitted⟩ := connected.carries.sends p.side
      rw [Function.update_self]
      refine ⟨⟨written, encodes, ?_⟩, ?_⟩
      · rw [outbound, all, List.append_assoc]
      · intro g mem
        obtain old | new := List.mem_append.mp mem
        · exact admitted g old
        · exact short g new
    · obtain ⟨stream, admitted⟩ := connected.carries.backward p.side
      rw [Function.update_of_ne p.side.other_ne]
      refine ⟨stream, fun g mem => ?_⟩
      rw [limit]
      exact admitted g mem
  refine ⟨_, _, connected.update carries, ?_⟩
  rw [Duplex.ends_set_other, Duplex.due, Duplex.due, Duplex.ends_set_other, Side.other_other,
    Function.update_self, Frame.callBodies_append, List.append_assoc]

theorem Owes.update {f : Proxy → Proxy} {record : Option CallHandler × List Bytes}
    (owes : n.Owes p record) (narrow : ∀ x : Proxy, x.Narrows (f x)) : (n.update p f).Owes p record := by
  obtain ⟨d, fs, connected, rfl⟩ := owes
  obtain ⟨slots, calls, same⟩ := (narrow (d.ends p.side).proxy).rest
  have posted := connected.post f [] (by rw [same]; exact connected.carries.alive p.side)
    (by rw [same]) (by rw [same, List.append_nil]) nofun
  rwa [Frame.callBodies, List.filter_nil, List.map_nil, List.append_nil] at posted

variable {body : Bytes}

/-- A call that a live proxy begins is owed. -/
theorem Connected.startCall (connected : n.Connected p d fs)
    (isOpen : (d.ends p.side).proxy.closed = false)
    (short : body.length ≤ (d.ends p.side.other).proxy.maxFrameLength ∧ body.length < 2 ^ 32) :
    ∃ handle m, n.startCall p body = (.ok handle, m) ∧
      m.Owes p ((d.ends p.side.other).proxy.handler, d.due fs p.side.other ++ [body]) := by
  obtain ⟨handle, id, slots, calls, issued, called⟩ :=
    Proxy.call_of_open (connected.carries.alive p.side) isOpen body
  have proxy : n.proxy? p = some (d.ends p.side).proxy := connected.proxy? p.side
  refine ⟨handle, n.update p fun _ => ((d.ends p.side).proxy.call body).2, ?_, ?_⟩
  · rw [Network.startCall, proxy]
    dsimp only
    rw [called]
  · rw [called]
    refine connected.post _ [⟨id, .call, body⟩] ?_ rfl rfl ?_
    · exact connected.carries.alive p.side
    · intro g mem
      rw [List.mem_singleton.mp mem]
      exact short

end Network

end ApiGateway
