import ApiGateway.Proofs.Attempts
import ApiGateway.Proofs.Proxy.Networks

/-
What a call through a proxy can fail with.

A call gets its result from a reply, from the end of the stream or from the time that is over,
whatever state the network is in and whatever else it does. So it never fails for want of an owner,
which only the registry reports.

* `ProxyError.OfCall` - what a call can fail with.
* `Proxy.Stable` - what a proxy keeps, whatever its connection does; `Network.has_settle` - it keeps
  it while the network settles.
* `Proxy.Regular` - the result of a call, if it is there, is no other failure.
* `Network.callThrough_fails` - nor is the result of any call through a proxy.
-/

namespace ApiGateway

namespace ProxyError

/-- Why the calls of a stream end with it. -/
inductive OfStream : ProxyError → Prop where
  | closed : OfStream .streamClosed
  | malformed (reason : String) : OfStream (.malformedFrame reason)

/-- What a call through a proxy can fail with. -/
inductive OfCall : ProxyError → Prop where
  | ended {e : ProxyError} : e.OfStream → OfCall e
  | late (id : UInt64) (milliseconds : Nat) : OfCall (.timedOut id milliseconds)
  | unsent (fault : CallFault) : OfCall (.malformedCall fault)

theorem OfCall.ne_notFound {e : ProxyError} (own : e.OfCall) (service : String) :
    e ≠ .notFound service := by
  rintro rfl
  cases own with
  | ended stream => cases stream

end ProxyError

/-! ### What a proxy keeps -/

/-- What a proxy keeps, whatever its connection does. -/
structure Proxy.Stable (P : Proxy → Prop) : Prop where
  receive : ∀ p f, P p → P (p.receive f)
  markDead : ∀ p reason, reason.OfStream → P p → P (p.markDead reason)
  /-- The writer takes a frame, or cannot write. -/
  unload : ∀ p outbound alive, P p → P { p with outbound := outbound, alive := alive }
  answer : ∀ p self position r, P p → P (p.answer self position r).1

/-- The proxy at an end, if one sits there, has a property. -/
def Connection.Has (c : Connection) (side : Side) (P : Proxy → Prop) : Prop :=
  ∀ x, c.proxy? side = some x → P x

def Network.Has (n : Network) (p : ProxyRef) (P : Proxy → Prop) : Prop :=
  ∀ x, n.proxy? p = some x → P x

namespace Proxy.Stable

variable {P : Proxy → Prop} {s t : Session}

theorem stop (stable : Stable P) (stopped : s.stop? = some t) (own : P s.proxy) : P t.proxy := by
  obtain ⟨bytes, -, stopped⟩ := Option.bind_eq_some_iff.mp stopped
  split at stopped
  · cases stopped
  · cases stopped
    exact stable.markDead _ _ .closed own

theorem dispatch (stable : Stable P) {ended : Bool} (dispatched : s.dispatch? ended = some t)
    (own : P s.proxy) : P t.proxy := by
  obtain ⟨bytes, -, dispatched⟩ := Option.bind_eq_some_iff.mp dispatched
  split at dispatched
  · cases dispatched
    exact stable.receive _ _ own
  · cases dispatched
    exact stable.markDead _ _ (.malformed _) own
  · split at dispatched
    · cases dispatched
      refine stable.markDead _ _ ?_ own
      unfold Session.endReason
      split
      · exact .closed
      · exact .malformed _
    · cases dispatched

theorem halt (halted : s.halt? = some t) (own : P s.proxy) : P t.proxy := by
  obtain ⟨bytes, -, halted⟩ := Option.bind_eq_some_iff.mp halted
  split at halted
  · split at halted
    · cases halted
    · cases halted
      exact own
  · cases halted

theorem load (stable : Stable P) (loaded : s.load? = some t) (own : P s.proxy) : P t.proxy := by
  obtain ⟨bytes, -, loaded⟩ := Option.bind_eq_some_iff.mp loaded
  split at loaded
  · split at loaded
    · cases loaded
    · dsimp only at loaded
      split at loaded
      · cases loaded
        exact stable.unload s.proxy _ _ own
      · cases loaded
        exact stable.unload s.proxy _ _ own
  · cases loaded

end Proxy.Stable

/-! ### While a connection settles -/

namespace Connection

variable {P : Proxy → Prop} {c c' : Connection} {s t : Session} {side other : Side}

theorem Has.session (has : c.Has side P) (found : c.session? side = some s) : P s.proxy := by
  refine has s.proxy ?_
  rw [proxy?, found]
  rfl

theorem has_setTerminal {x : Terminal} (has : c.Has other P)
    (new : other = side → ∀ s, x.party = .session s → P s.proxy) :
    (c.setTerminal side x).Has other P := by
  intro p found
  obtain ⟨s, there, rfl⟩ := exists_session? found
  by_cases same : other = side
  · subst same
    have party := party_of_session? there
    rw [terminal_setTerminal] at party
    exact new rfl s party
  · rw [session?, terminal_setTerminal_of_ne c x same] at there
    exact has.session there

theorem has_setSession (has : c.Has other P) (found : c.session? side = some s)
    (turn : P s.proxy → P t.proxy) : (c.setSession side t).Has other P := by
  refine has_setTerminal has fun same s' party => ?_
  cases party
  subst same
  exact turn (has.session found)

theorem has_setInbox (has : c.Has other P) (side : Side) (bytes : Bytes) :
    (c.setInbox side bytes).Has other P := by
  refine has_setTerminal has fun same s party => ?_
  subst same
  refine has.session ?_
  rw [session?, party]

/-- A turn of a session. -/
theorem has_turn (has : c.Has other P) (turn : Session → Option Session)
    (keeps : ∀ s t, turn s = some t → P s.proxy → P t.proxy)
    (taken : ((c.session? side).bind fun s => (turn s).bind fun t => some (c.setSession side t)) =
      some c') : c'.Has other P := by
  obtain ⟨s, found, taken⟩ := Option.bind_eq_some_iff.mp taken
  obtain ⟨t, turned, same⟩ := Option.bind_eq_some_iff.mp taken
  cases same
  exact has_setSession has found (keeps s t turned)

theorem has_take {count : Nat} (has : c.Has other P) (taken : c.take? side count = some c') :
    c'.Has other P := by
  obtain ⟨s, found, taken⟩ := Option.bind_eq_some_iff.mp taken
  obtain ⟨bytes, reading, taken⟩ := Option.bind_eq_some_iff.mp taken
  dsimp only at taken
  split at taken
  · cases taken
  · cases taken
    refine has_setInbox ?_ _ _
    exact has_setSession has found fun own => own

theorem has_write (stable : Proxy.Stable P) {count : Nat} (has : c.Has other P)
    (taken : c.write? side count = some c') : c'.Has other P := by
  obtain ⟨s, found, taken⟩ := Option.bind_eq_some_iff.mp taken
  obtain ⟨bytes, writing, taken⟩ := Option.bind_eq_some_iff.mp taken
  dsimp only at taken
  split at taken
  · cases taken
  · split at taken
    · cases taken
      exact has_setSession has found fun own => stable.unload s.proxy _ _ own
    · split at taken
      · cases taken
      · cases taken
        refine has_setInbox ?_ _ _
        exact has_setSession has found fun own => own

theorem has_release (has : c.Has other P) (taken : c.release? side = some c') : c'.Has other P := by
  obtain ⟨s, found, taken⟩ := Option.bind_eq_some_iff.mp taken
  dsimp only at taken
  split at taken
  · cases taken
    refine has_setTerminal has fun same s' party => ?_
    subst same
    refine has.session ?_
    rw [session?, party]
  · cases taken

theorem has_step (stable : Proxy.Stable P) {step : Step} (has : c.Has other P)
    (taken : c.step? step = some c') : c'.Has other P := by
  cases step with
  | take side count => exact has_take has taken
  | stop side => exact has_turn has _ (fun _ _ => stable.stop) taken
  | dispatch side =>
    exact has_turn has (fun s => s.dispatch? (c.ended side)) (fun _ _ => stable.dispatch) taken
  | halt side => exact has_turn has _ (fun _ _ => Proxy.Stable.halt) taken
  | load side => exact has_turn has _ (fun _ _ => stable.load) taken
  | write side count => exact has_write stable has taken
  | release side => exact has_release has taken

theorem has_drain (stable : Proxy.Stable P) (fuel : Nat) (has : c.Has other P) :
    (c.drain fuel).Has other P := by
  induction fuel generalizing c with
  | zero => exact has
  | succ fuel ih =>
    rw [drain]
    cases next : c.next? with
    | none => exact has
    | some c' =>
      obtain ⟨step, -, taken⟩ := List.exists_of_findSome?_eq_some next
      exact ih (has_step stable has taken)

theorem has_answerAll (stable : Proxy.Stable P) (number : Nat) (side : Side) (count : Nat)
    (r : ProxyRegistry) (has : c.Has other P) :
    (answerAll number side count c r).1.Has other P := by
  induction count generalizing c r with
  | zero => exact has
  | succ count ih =>
    rw [answerAll]
    cases found : c.proxy? side with
    | none => exact has
    | some p =>
      dsimp only
      obtain ⟨s, there, rfl⟩ := exists_session? found
      refine ih _ ?_
      rw [setProxy_eq there]
      exact has_setSession has there fun own => stable.answer _ _ _ _ own

theorem has_settle (stable : Proxy.Stable P) (number : Nat) (r : ProxyRegistry)
    (has : c.Has other P) : (c.settle number r).1.Has other P := by
  unfold settle
  refine has_drain stable _ ?_
  refine has_answerAll stable number .far _ _ ?_
  refine has_answerAll stable number .near _ _ ?_
  exact has_drain stable _ has

end Connection

/-- What a proxy keeps, it keeps while its network settles. -/
theorem Network.has_settle {n : Network} {p : ProxyRef} {P : Proxy → Prop} (stable : Proxy.Stable P)
    (has : n.Has p P) : n.settle.Has p P := by
  obtain ⟨r, settled⟩ := n.connection?_settle p.connection
  intro x found
  rw [proxy?, settled] at found
  cases there : n.connection? p.connection with
  | none =>
    rw [there] at found
    cases found
  | some c =>
    rw [there] at found
    have before : c.Has p.side P := by
      intro y at_
      refine has y ?_
      rw [proxy?, there]
      exact at_
    exact Connection.has_settle stable p.connection r before x found

/-! ### The result of a call -/

namespace Proxy

/-- The result of a call, if it is there and not collected, is a reply or a failure of calls. -/
def Regular (handle : Nat) (p : Proxy) : Prop :=
  ∀ c result, p.call? handle = some c → c.state = .answered result →
    OnlyFails result ProxyError.OfCall

variable {p q : Proxy} {handle : Nat}

theorem Regular.congr (regular : p.Regular handle) (same : q.calls = p.calls) :
    q.Regular handle := by
  intro c result found
  rw [call?, same] at found
  exact regular c result found

theorem Regular.resolve (regular : p.Regular handle) (other : Nat) {result : CallResult}
    (own : OnlyFails result ProxyError.OfCall) : (p.resolve other result).Regular handle := by
  intro c given found answered
  rw [Proxy.resolve, call?_modify] at found
  split at found
  · obtain ⟨before, there, rfl⟩ := Option.map_eq_some_iff.mp found
    by_cases waits : before.state = .waiting
    · rw [OutgoingCall.answer_of_waiting waits] at answered
      cases answered
      exact own
    · rw [OutgoingCall.answer_of_ne_waiting waits] at answered
      exact regular before given there answered
  · exact regular c given found answered

theorem Regular.close (regular : p.Regular handle) {reason : ProxyError}
    (stream : reason.OfStream) : (p.close reason).Regular handle := by
  have failed : OnlyFails (.error reason : CallResult) ProxyError.OfCall := .error (.ended stream)
  suffices ∀ slots : List (UInt64 × Nat), ∀ p : Proxy, p.Regular handle →
      (slots.foldl (fun p slot => p.resolve slot.2 (.error reason)) p).Regular handle from
    (this p.slots p regular).congr rfl
  intro slots
  induction slots with
  | nil => exact fun p regular => regular
  | cons slot slots ih => exact fun p regular => ih _ (regular.resolve slot.2 failed)

theorem stable_regular (handle : Nat) : Stable (Regular handle) where
  receive := by
    intro p f regular
    unfold receive
    split
    · unfold complete
      split
      · exact (regular.congr rfl : (p.freeSlot f.id).Regular handle).resolve _ (.ok _)
      · exact regular
    · exact regular.congr rfl
  markDead := fun p reason stream regular => (regular.close stream).congr rfl
  unload := fun p outbound alive regular => regular.congr rfl
  answer := by
    intro p self position r regular
    unfold answer
    split
    · exact regular
    · exact regular.congr (keepsTable_enqueue _ _).calls

/-- A call that begins waits. -/
theorem regular_call {body : Bytes} (called : p.call body = (.ok handle, q)) :
    q.Regular handle := by
  unfold call at called
  dsimp only at called
  cases closed : p.takeId.2.closed with
  | true =>
    rw [register_of_closed closed] at called
    cases called
  | false =>
    obtain ⟨slots, calls, registered, new⟩ := register_of_open closed p.takeId.1 body
    rw [registered] at called
    dsimp only at called
    have kept := keepsTable_enqueue { p.takeId.2 with slots := slots, calls := calls }
      ⟨p.takeId.1, .call, body⟩
    split at called
    · cases called
    next sent =>
      rw [sent] at kept
      cases called
      refine Regular.congr (p := { p.takeId.2 with slots := slots, calls := calls }) ?_ kept.calls
      intro c result found answered
      cases new.symm.trans found
      cases answered

theorem call_fails {body : Bytes} : OnlyFails (p.call body).1 ProxyError.OfCall := by
  unfold call
  dsimp only
  cases closed : p.takeId.2.closed with
  | true =>
    rw [register_of_closed closed]
    exact .error (.ended .closed)
  | false =>
    obtain ⟨slots, calls, registered, -⟩ := register_of_open closed p.takeId.1 body
    rw [registered]
    dsimp only
    split
    next e q sent =>
      unfold enqueue at sent
      split at sent
      · cases sent
        exact .error (.ended .closed)
      · cases sent
    next => exact .ok _

end Proxy

namespace Network

variable {n m : Network} {p : ProxyRef} {handle : Nat} {result : CallResult}

/-- A change of a proxy that is there is made. -/
theorem proxy?_update_self {x : Proxy} (there : n.proxy? p = some x) (f : Proxy → Proxy) :
    (n.update p f).proxy? p = some (f x) := by
  obtain ⟨c, found, proxy⟩ := Option.bind_eq_some_iff.mp there
  rw [update, found, there]
  dsimp only
  rw [proxy?, connection?_setConnection_self found]
  exact Connection.proxy?_setProxy proxy

theorem startCall_fails {body : Bytes} : OnlyFails (n.startCall p body).1 ProxyError.OfCall := by
  unfold startCall
  split
  · exact .error (.ended .closed)
  · exact Proxy.call_fails

theorem has_startCall {body : Bytes} (started : n.startCall p body = (.ok handle, m)) :
    m.Has p (Proxy.Regular handle) := by
  unfold startCall at started
  split at started
  · cases started
  next x there =>
    obtain ⟨same, rfl⟩ := Prod.mk.inj started
    intro y found
    rw [proxy?_update_self there] at found
    cases found
    exact Proxy.regular_call (Prod.ext same rfl)

/-- Who waits for a call is given its result, or the error that its time is over. -/
theorem await_fails (regular : n.Has p (Proxy.Regular handle)) {limit : Option Nat}
    (given : (n.await p handle limit).1 = some result) : OnlyFails result ProxyError.OfCall := by
  rw [await] at given
  have settled : (if limit = some 0 then n else n.settle).Has p (Proxy.Regular handle) := by
    split
    · exact regular
    · exact has_settle (Proxy.stable_regular handle) regular
  generalize (if limit = some 0 then n else n.settle) = m at settled given
  split at given
  next result' m' collected =>
    cases given
    unfold collect at collected
    split at collected
    · cases collected
    next x there =>
      obtain ⟨c, found, call, answered, same⟩ | ⟨-, same⟩ := x.collect_cases handle
      · rw [same] at collected
        cases collected
        exact settled x there c _ call answered
      · rw [same] at collected
        cases collected
  next m' collected =>
    split at given
    next milliseconds =>
      unfold giveUp at given
      split at given
      · cases given
      next x there =>
        unfold Proxy.giveUp at given
        obtain ⟨c, -, -, expired⟩ | expired := x.expire_cases handle milliseconds
        · rw [expired] at given
          cases given
          exact .error (.late _ _)
        · rw [expired] at given
          cases given
    · cases given

theorem callWithin_fails {body : Bytes} {limit : Option Nat}
    (given : (n.callWithin p body limit).1 = some result) : OnlyFails result ProxyError.OfCall := by
  have failed : OnlyFails (n.startCall p body).1 ProxyError.OfCall := startCall_fails
  unfold callWithin at given
  split at given
  next e m started =>
    rw [started] at failed
    cases given
    exact .error (failed e rfl)
  next handle m started => exact await_fails (has_startCall started) given

/-- **A call through a proxy fails as calls do**, whatever state the network is in. -/
theorem callThrough_fails {call : ServiceCall} (given : (n.callThrough p call).1 = some result) :
    OnlyFails result ProxyError.OfCall := by
  unfold callThrough at given
  split at given
  next e encoded =>
    cases given
    unfold ServiceCall.encode at encoded
    dsimp only at encoded
    split at encoded
    · cases encoded
      exact .error (.unsent _)
    · cases encoded
  next => exact callWithin_fails given

end Network

end ApiGateway
