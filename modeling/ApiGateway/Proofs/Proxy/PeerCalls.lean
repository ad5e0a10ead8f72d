import ApiGateway.Proofs.Proxy.Concurrent
import Mathlib.Data.List.Perm.Basic

/-
What becomes of the calls of the peer.

* `ConcurrentProxy.peerCallsIn` - the calls of the peer that are read in a run.
* `ConcurrentProxy.handlingsIn` - those that a handler is done with, with the frames queued then.
* `Handling.Replied` - a live proxy queues one reply; its identifier is that of the call, unless it
  is zero, which asks the queue for a fresh one.

Each call that is read is handled once or still in hand, and each that is handled is replied to
(`ConcurrentProxy.peerCalls_run`). A reply to a call of identifier zero does not find back to its
call (`ConcurrentProxy.not_id_zeroCall`).
-/

namespace ApiGateway

/-- A call of the peer that a handler is done with. -/
structure Handling where
  call : InboundCall
  /-- What the handler made of the call's body. -/
  body : Bytes
  /-- The task found the proxy alive. -/
  live : Bool
  /-- The frames that the task queued. -/
  queued : List Frame
deriving DecidableEq

/-- How a call is replied to while the proxy's counter goes up from one number of identifiers to
another. -/
structure Handling.Replied (h : Handling) (issued issued' : Nat) : Prop where
  lost : h.live = false → h.queued = []
  same : h.live = true → h.call.id ≠ 0 → h.queued = [⟨h.call.id, .reply, h.body⟩]
  fresh : h.live = true → h.call.id = 0 → ∃ n, issued ≤ n ∧ n < issued' ∧
    h.queued = [⟨UInt64.ofNat (n + 1), .reply, h.body⟩]

theorem Handling.Replied.mono {h : Handling} {m m' n n' : Nat} (replied : h.Replied m m')
    (lower : n ≤ m) (upper : m' ≤ n') : h.Replied n n' := by
  refine ⟨replied.lost, replied.same, fun live zero => ?_⟩
  obtain ⟨k, least, less, queued⟩ := replied.fresh live zero
  exact ⟨k, Nat.le_trans lower least, Nat.lt_of_lt_of_le less upper, queued⟩

namespace Proxy

/-- The identifier with which a frame is queued. -/
def sentId (p : Proxy) (id : UInt64) : UInt64 := if id = 0 then p.takeId.1 else id

theorem post_eq (p : Proxy) (f : Frame) : (p.post f).2 = { p with
    issued := p.issued + if f.id = 0 then 1 else 0
    outbound := p.outbound ++ [⟨p.sentId f.id, f.kind, f.body⟩] } := by
  unfold post sentId
  split <;> rfl

/-- A frame is queued where the task finds the proxy alive, and lost elsewhere. -/
theorem queue_eq (p : Proxy) (late : Bool) (f : Frame) :
    (p.queue late f).2 = if (late || p.alive) = true then (p.post f).2 else p := by
  unfold queue enqueue
  cases late with
  | true => rfl
  | false => cases alive : p.alive <;> simp

theorem inbound_queue (p : Proxy) (late : Bool) (f : Frame) :
    (p.queue late f).2.inbound = p.inbound := by
  rw [queue_eq, post_eq]
  split <;> rfl

theorem inbound_reply (p : Proxy) (self : ProxyRef) (position : Nat) (registry : ProxyRegistry)
    (late : Bool) :
    (p.reply self position registry late).inbound = p.inbound.eraseIdx position := by
  unfold reply
  split
  next missing =>
    rw [List.eraseIdx_of_length_le (List.getElem?_eq_none_iff.mp missing)]
  next c found => exact inbound_queue _ _ _

section

variable {p : Proxy} {position : Nat} {c : InboundCall} (found : p.inbound[position]? = some c)
  (self : ProxyRef) (registry : ProxyRegistry) (late : Bool)

include found

/-- The reply comes behind the frames that wait. -/
theorem outbound_reply : (p.reply self position registry late).outbound = p.outbound ++
    if (late || p.alive) = true then
      [⟨p.sentId c.id, .reply, (replyBody p.handler self c.body registry).1⟩]
    else [] := by
  have alive : (p.dismiss position c).alive = p.alive := rfl
  simp only [reply, found]
  rw [queue_eq, post_eq, alive]
  split
  · rfl
  · exact (List.append_nil _).symm

theorem issued_reply_of_zero (live : (late || p.alive) = true) (zero : c.id = 0) :
    (p.reply self position registry late).issued = p.issued + 1 := by
  have alive : (p.dismiss position c).alive = p.alive := rfl
  simp only [reply, found]
  rw [queue_eq, post_eq, alive, if_pos live, if_pos zero]
  rfl

end

end Proxy

namespace ConcurrentProxy

/-- The call of the peer that is read in an event. -/
def peerCalls (s : ConcurrentProxy) : ProxyEvent → List InboundCall
  | .receive ⟨id, .call, body⟩ => if s.reading then [⟨id, body⟩] else []
  | _ => []

/-- The call of the peer that a handler is done with in an event. -/
def handlings (s : ConcurrentProxy) : ProxyEvent → List Handling
  | .act (.reply self position registry late) =>
    match s.proxy.inbound[position]? with
    | none => []
    | some c => [{
        call := c
        body := (Proxy.replyBody s.proxy.handler self c.body registry).1
        live := late || s.proxy.alive
        queued := (s.proxy.reply self position registry late).outbound.drop
          s.proxy.outbound.length }]
  | _ => []

/-- The calls of the peer that are read in a run. -/
def peerCallsIn (s : ConcurrentProxy) : List ProxyEvent → List InboundCall
  | [] => []
  | e :: es => s.peerCalls e ++ (s.step e).peerCallsIn es

/-- The calls of the peer that handlers are done with in a run. -/
def handlingsIn (s : ConcurrentProxy) : List ProxyEvent → List Handling
  | [] => []
  | e :: es => s.handlings e ++ (s.step e).handlingsIn es

/-! ### One event -/

/-- Nothing but the end of a handler takes a call of the peer away. -/
theorem inbound_act (s : ConcurrentProxy) {a : ProxyAction}
    (other : ∀ self position registry late, a ≠ .reply self position registry late) :
    (s.act a).proxy.inbound = s.proxy.inbound := by
  have touches := s.touches_act a
  generalize (s.act a).proxy = q at touches
  cases touches with
  | narrows narrows =>
    obtain ⟨⟨slots, calls, rfl⟩, -⟩ := narrows
    rfl
  | allots => rfl
  | registers id body =>
    cases closed : s.proxy.closed with
    | true => rw [Proxy.register_of_closed closed]
    | false =>
      obtain ⟨slots, calls, registered, -⟩ := Proxy.register_of_open closed id body
      rw [registered]
  | sends => exact Proxy.inbound_queue _ _ _
  | replies self position registry late => exact absurd rfl (other self position registry late)
  | closes reason =>
    obtain ⟨calls, close⟩ := s.proxy.close_eq reason
    rw [close]
  | dies => rfl

/-- A call that is read comes to hand, and one that is handled leaves it. -/
theorem peerCalls_step (s : ConcurrentProxy) (e : ProxyEvent) :
    (s.proxy.inbound ++ s.peerCalls e).Perm
      ((s.handlings e).map (·.call) ++ (s.step e).proxy.inbound) := by
  have unchanged : s.peerCalls e = [] → s.handlings e = [] →
      (s.step e).proxy.inbound = s.proxy.inbound →
      (s.proxy.inbound ++ s.peerCalls e).Perm
        ((s.handlings e).map (·.call) ++ (s.step e).proxy.inbound) := by
    intro none none' same
    rw [none, none', same, List.append_nil]
    exact .refl _
  cases e with
  | act a =>
    cases a with
    | reply self position registry late =>
      have after : (s.step (.act (.reply self position registry late))).proxy.inbound =
          s.proxy.inbound.eraseIdx position := s.proxy.inbound_reply _ _ _ _
      cases found : s.proxy.inbound[position]? with
      | none =>
        refine unchanged rfl (by simp only [handlings, found]) (after.trans ?_)
        exact List.eraseIdx_of_length_le (List.getElem?_eq_none_iff.mp found)
      | some c =>
        obtain ⟨inside, rfl⟩ := List.getElem?_eq_some_iff.mp found
        have none : s.peerCalls (.act (.reply self position registry late)) = [] := rfl
        rw [after, none, List.append_nil]
        simp only [handlings, found, List.map_cons, List.map_nil, List.singleton_append]
        exact (List.getElem_cons_eraseIdx_perm inside).symm
    | _ => exact unchanged rfl rfl (inbound_act s nofun)
  | enqueue f late => exact unchanged rfl rfl (s.proxy.inbound_queue late f)
  | receive f =>
    obtain ⟨id, kind, body⟩ := f
    cases kind with
    | call =>
      have none : s.handlings (.receive ⟨id, .call, body⟩) = [] := rfl
      rw [none, List.map_nil, List.nil_append]
      cases reading : s.reading <;> simp [step, peerCalls, Proxy.receive, reading]
    | reply =>
      obtain ⟨⟨slots, calls, complete⟩, -⟩ := s.proxy.narrows_complete id body
      refine unchanged rfl rfl ?_
      cases reading : s.reading <;> simp [step, Proxy.receive, reading, complete]
  | load => exact unchanged rfl rfl rfl
  | stop reason =>
    obtain ⟨calls, close⟩ := s.proxy.close_eq reason
    refine unchanged rfl rfl ?_
    rw [step]
    split
    · rw [Proxy.markDead, close]
    · rfl

/-- A live proxy queues the reply to a handled call behind the frames that wait. -/
theorem replied_step (s : ConcurrentProxy) (e : ProxyEvent) {h : Handling}
    (mem : h ∈ s.handlings e) : h.Replied s.proxy.issued (s.step e).proxy.issued := by
  unfold handlings at mem
  split at mem
  next self position registry late =>
    cases found : s.proxy.inbound[position]? with
    | none =>
      rw [found] at mem
      cases mem
    | some c =>
    rw [found] at mem
    obtain rfl := List.mem_singleton.mp mem
    have queued := congrArg (List.drop s.proxy.outbound.length)
      (Proxy.outbound_reply found self registry late)
    rw [List.drop_left] at queued
    constructor
    · intro lost
      exact queued.trans (if_neg (Bool.eq_false_iff.mp lost))
    · intro live nonzero
      rw [if_pos live, Proxy.sentId, if_neg nonzero] at queued
      exact queued
    · intro live zero
      rw [if_pos live, Proxy.sentId, if_pos zero] at queued
      refine ⟨s.proxy.issued, Nat.le_refl _, ?_, queued⟩
      have issued := Proxy.issued_reply_of_zero found self registry late live zero
      exact Nat.lt_of_lt_of_eq (Nat.lt_succ_self _) issued.symm
  next => cases mem

/-! ### Whole runs -/

/-- **Each call of the peer that is read is handled once or still in hand, and each that is handled
is replied to.** -/
theorem peerCalls_run (s : ConcurrentProxy) (es : List ProxyEvent) :
    (s.proxy.inbound ++ s.peerCallsIn es).Perm
        ((s.handlingsIn es).map (·.call) ++ (s.run es).proxy.inbound) ∧
      ∀ h ∈ s.handlingsIn es, h.Replied s.proxy.issued (s.run es).proxy.issued := by
  induction es generalizing s with
  | nil => exact ⟨by simp [peerCallsIn, handlingsIn], nofun⟩
  | cons e es ih =>
    obtain ⟨rest, replied⟩ := ih (s.step e)
    rw [peerCallsIn, handlingsIn, run_cons]
    constructor
    · have now := (s.peerCalls_step e).append_right ((s.step e).peerCallsIn es)
      rw [List.append_assoc, List.append_assoc] at now
      rw [List.map_append, List.append_assoc]
      exact now.trans (rest.append_left _)
    · intro h mem
      rcases List.mem_append.mp mem with now | later
      · exact (s.replied_step e now).mono (Nat.le_refl _) ((s.step e).issued_le_run es)
      · exact (replied h later).mono (s.passes_step e).issued (Nat.le_refl _)

/-! ### Identifier zero -/

/-- A proxy without a handler. -/
def unhandled : ConcurrentProxy := { proxy := .attached "gw" none (16 * 1024 * 1024) none }

/-- The peer calls with the identifier zero, and the call is handled. -/
def zeroCall : List ProxyEvent :=
  [.receive ⟨0, .call, [0x7a]⟩, .act (.reply ⟨0, .near⟩ 0 {} false)]

/-- The reply to a call of identifier zero has another identifier. -/
theorem not_id_zeroCall :
    ¬ ∀ h ∈ unhandled.handlingsIn zeroCall, ∀ f ∈ h.queued, f.id = h.call.id := by
  intro same
  have reply : unhandled.handlingsIn zeroCall =
      [{ call := ⟨0, [0x7a]⟩, body := [], live := true, queued := [⟨1, .reply, []⟩] }] := rfl
  rw [reply] at same
  exact absurd (same _ List.mem_cons_self _ List.mem_cons_self) (by decide)

end ConcurrentProxy

end ApiGateway
