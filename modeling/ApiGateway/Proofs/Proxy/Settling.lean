import ApiGateway.Proofs.Proxy.Link
import ApiGateway.Proofs.Proxy.PeerCalls
import ApiGateway.Proofs.Proxy.Stations

/-
What the proxies of a connection have handled once it has settled.

A step handles no call, whatever happens to the connection; between the steps every proxy handles the
calls that have come to it. So on a connection that works, each end has handled all that was due to
it (`Duplex.Carries.settle`), in the order in which it was sent.

* `Proxy.record` - the handler of a proxy and the bodies that it has handled.
* `Connection.record?_step`, `Connection.record?_quiet` - steps keep it.
* `Connection.record?_answerAll` - an end handles every call that has come.
-/

namespace ApiGateway

namespace Proxy

/-- Who handles the peer's calls, and the bodies that were handled. -/
def record (p : Proxy) : Option CallHandler × List Bytes := (p.handler, p.handled)

theorem record_receive (p : Proxy) (f : Frame) : (p.receive f).record = p.record := by
  obtain ⟨slots, calls, received⟩ := p.receive_eq f
  rw [received]
  rfl

theorem record_markDead (p : Proxy) (reason : ProxyError) : (p.markDead reason).record = p.record := by
  obtain ⟨calls, closed⟩ := p.close_eq reason
  rw [markDead, closed]
  rfl

end Proxy

theorem Session.Turns.record {s t : Session} (turns : s.Turns t) : t.proxy.record = s.proxy.record := by
  cases turns with
  | received => exact Proxy.record_receive _ _
  | stopped => exact Proxy.record_markDead _ _
  | halted => rfl
  | loaded => rfl
  | failed => rfl

/-- The record of the proxy at an end, if one sits there. -/
def Party.record? : Party → Option (Option CallHandler × List Bytes)
  | .session s => some s.proxy.record
  | .raw => none

namespace Connection

variable {c c' : Connection} {side : Side} {s t : Session}

def record? (c : Connection) (side : Side) : Option (Option CallHandler × List Bytes) :=
  (c.terminal side).party.record?

theorem record?_eq (c : Connection) (side : Side) :
    c.record? side = (c.proxy? side).map Proxy.record := by
  rw [record?, proxy?, session?]
  cases (c.terminal side).party <;> rfl

theorem party_of_session? (found : c.session? side = some s) :
    (c.terminal side).party = .session s := by
  rw [session?] at found
  split at found
  next s' party =>
    cases found
    exact party
  next => cases found

/-! ### Steps -/

@[simp] theorem terminal_setTerminal (c : Connection) (side : Side) (x : Terminal) :
    (c.setTerminal side x).terminal side = x := by
  cases side <;> rfl

theorem terminal_setTerminal_of_ne (c : Connection) {side other : Side} (x : Terminal)
    (apart : other ≠ side) : (c.setTerminal side x).terminal other = c.terminal other := by
  cases side <;> cases other <;> first | rfl | exact absurd rfl apart

theorem record?_setTerminal {x : Terminal} (same : x.party.record? = c.record? side) (other : Side) :
    (c.setTerminal side x).record? other = c.record? other := by
  by_cases changed : other = side
  · subst changed
    rw [record?, terminal_setTerminal, same]
  · rw [record?, terminal_setTerminal_of_ne c x changed, record?]

theorem record?_setSession (found : c.session? side = some s) (same : t.proxy.record = s.proxy.record)
    (other : Side) : (c.setSession side t).record? other = c.record? other := by
  refine record?_setTerminal ?_ other
  rw [record?, party_of_session? found]
  exact congrArg some same

theorem record?_setInbox (c : Connection) (side : Side) (bytes : Bytes) (other : Side) :
    (c.setInbox side bytes).record? other = c.record? other := by
  refine record?_setTerminal ?_ other
  rfl

/-- A turn of a session. -/
theorem record?_turn (turn : Session → Option Session)
    (turns : ∀ s t, turn s = some t → s.Turns t)
    (taken : ((c.session? side).bind fun s => (turn s).bind fun t => some (c.setSession side t)) =
      some c') (other : Side) : c'.record? other = c.record? other := by
  obtain ⟨s, found, taken⟩ := Option.bind_eq_some_iff.mp taken
  obtain ⟨t, turned, same⟩ := Option.bind_eq_some_iff.mp taken
  cases same
  exact record?_setSession found (turns s t turned).record other

theorem record?_take {count : Nat} (taken : c.take? side count = some c') (other : Side) :
    c'.record? other = c.record? other := by
  obtain ⟨s, found, taken⟩ := Option.bind_eq_some_iff.mp taken
  obtain ⟨bytes, reading, taken⟩ := Option.bind_eq_some_iff.mp taken
  dsimp only at taken
  split at taken
  · cases taken
  · cases taken
    rw [record?_setInbox]
    refine record?_setSession found ?_ other
    rfl

theorem record?_write {count : Nat} (taken : c.write? side count = some c') (other : Side) :
    c'.record? other = c.record? other := by
  obtain ⟨s, found, taken⟩ := Option.bind_eq_some_iff.mp taken
  obtain ⟨bytes, writing, taken⟩ := Option.bind_eq_some_iff.mp taken
  dsimp only at taken
  split at taken
  · cases taken
  · split at taken
    · cases taken
      refine record?_setSession found ?_ other
      rfl
    · split at taken
      · cases taken
      · cases taken
        rw [record?_setInbox]
        refine record?_setSession found ?_ other
        rfl

theorem record?_release (taken : c.release? side = some c') (other : Side) :
    c'.record? other = c.record? other := by
  obtain ⟨s, found, taken⟩ := Option.bind_eq_some_iff.mp taken
  dsimp only at taken
  split at taken
  · cases taken
    refine record?_setTerminal ?_ other
    rfl
  · cases taken

/-- No step handles a call. -/
theorem record?_step {step : Step} (taken : c.step? step = some c') (other : Side) :
    c'.record? other = c.record? other := by
  cases step with
  | take side count => exact record?_take taken other
  | stop side => exact record?_turn _ (fun _ _ => Session.turns_stop) taken other
  | dispatch side =>
    exact record?_turn (fun s => s.dispatch? (c.ended side))
      (fun _ _ => Session.turns_dispatch (c.ended side)) taken other
  | halt side => exact record?_turn _ (fun _ _ => Session.turns_halt) taken other
  | load side => exact record?_turn _ (fun _ _ => Session.turns_load) taken other
  | write side count => exact record?_write taken other
  | release side => exact record?_release taken other

theorem record?_drain (fuel : Nat) (c : Connection) (side : Side) :
    (c.drain fuel).record? side = c.record? side := by
  induction fuel generalizing c with
  | zero => rfl
  | succ fuel ih =>
    rw [drain]
    cases next : c.next? with
    | none => rfl
    | some c' =>
      obtain ⟨step, -, taken⟩ := List.exists_of_findSome?_eq_some next
      exact (ih c').trans (record?_step taken side)

theorem record?_quiet (c : Connection) (side : Side) : c.quiet.record? side = c.record? side :=
  record?_drain _ c side

/-! ### Calls are handled -/

theorem exists_session? {p : Proxy} (found : c.proxy? side = some p) :
    ∃ s, c.session? side = some s ∧ s.proxy = p :=
  Option.map_eq_some_iff.mp found

theorem setProxy_eq {p : Proxy} (found : c.session? side = some s) :
    c.setProxy side p = c.setSession side { s with proxy := p } := by
  rw [setProxy, found]

theorem proxy?_setProxy {p q : Proxy} (found : c.proxy? side = some p) :
    (c.setProxy side q).proxy? side = some q := by
  obtain ⟨s, found, -⟩ := exists_session? found
  rw [setProxy_eq found, proxy?, session?, setSession, terminal_setTerminal]
  rfl

theorem proxy?_setProxy_of_ne {p : Proxy} {other : Side} (apart : other ≠ side) :
    (c.setProxy side p).proxy? other = c.proxy? other := by
  cases found : c.session? side with
  | none => rw [setProxy, found]
  | some s =>
    rw [setProxy_eq found, proxy?, session?, setSession, terminal_setTerminal_of_ne c _ apart]
    rfl

end Connection

namespace Proxy

theorem record_queue (p : Proxy) (late : Bool) (f : Frame) : (p.queue late f).2.record = p.record := by
  rw [queue_eq, post_eq]
  split <;> rfl

/-- When the first of the peer's calls is handled, it is due no longer and handled as the last. -/
theorem due_answer {p : Proxy} {c : InboundCall} {rest : List InboundCall}
    (first : p.inbound = c :: rest) (self : ProxyRef) (r : ProxyRegistry) :
    (p.answer self 0 r).1.handler = p.handler ∧ (p.answer self 0 r).1.due = p.due ∧
      (p.answer self 0 r).1.inbound = rest := by
  have found : p.inbound[0]? = some c := by rw [first, List.getElem?_cons_zero]
  have answered : (p.answer self 0 r).1 =
      ((p.dismiss 0 c).queue false ⟨c.id, .reply, (replyBody p.handler self c.body r).1⟩).2 := by
    rw [answer, found]
    rfl
  have record := record_queue (p.dismiss 0 c) false
    ⟨c.id, .reply, (replyBody p.handler self c.body r).1⟩
  have inbound := inbound_queue (p.dismiss 0 c) false
    ⟨c.id, .reply, (replyBody p.handler self c.body r).1⟩
  rw [← answered] at record inbound
  obtain ⟨handler, handled⟩ := Prod.mk.inj record
  have left : (p.dismiss 0 c).inbound = rest := by
    rw [dismiss, first, List.eraseIdx_cons_zero]
  refine ⟨handler, ?_, inbound.trans left⟩
  rw [due, due, handled, inbound, left, first, dismiss, List.map_cons, List.append_assoc,
    List.singleton_append]

end Proxy

namespace Connection

variable {c : Connection} {side : Side}

theorem proxy?_answerAll_of_ne (number : Nat) {other : Side} (apart : other ≠ side) (count : Nat)
    (c : Connection) (r : ProxyRegistry) :
    (answerAll number side count c r).1.proxy? other = c.proxy? other := by
  induction count generalizing c r with
  | zero => rfl
  | succ count ih =>
    rw [answerAll]
    cases found : c.proxy? side with
    | none => rfl
    | some p =>
      dsimp only
      rw [ih]
      exact proxy?_setProxy_of_ne apart

/-- An end handles every call that has come to it. -/
theorem record?_answerAll {p : Proxy} (found : c.proxy? side = some p) (number : Nat)
    (r : ProxyRegistry) :
    (answerAll number side p.inbound.length c r).1.record? side = some (p.handler, p.due) := by
  induction inbound : p.inbound generalizing c p r with
  | nil =>
    rw [List.length_nil, answerAll, record?_eq, found, Option.map_some, Proxy.record, Proxy.due,
      inbound, List.map_nil, List.append_nil]
  | cons call rest ih =>
    obtain ⟨handler, due, left⟩ := Proxy.due_answer inbound ⟨number, side⟩ r
    rw [List.length_cons, answerAll, found]
    dsimp only
    rw [← handler, ← due]
    exact ih (proxy?_setProxy found) _ left

theorem waitingCalls_eq {p : Proxy} (found : c.proxy? side = some p) :
    c.waitingCalls side = p.inbound.length := by
  rw [waitingCalls, found]

/-- Both ends handle the calls that have come to them. -/
theorem record?_settle {p : Side → Proxy} (found : ∀ side, c.quiet.proxy? side = some (p side))
    (number : Nat) (r : ProxyRegistry) (side : Side) :
    (c.settle number r).1.record? side = some ((p side).handler, (p side).due) := by
  rw [settle, waitingCalls_eq (found .near)]
  dsimp only
  have near := record?_answerAll (found .near) number r
  have apart : Side.far ≠ .near := nofun
  have kept := proxy?_answerAll_of_ne number apart (p .near).inbound.length c.quiet r
  generalize answerAll number .near (p .near).inbound.length c.quiet r = answered at near kept
  obtain ⟨c₁, r₁⟩ := answered
  -- The near end's handlers may have changed the registry, but no call comes to the far end.
  have far : c₁.proxy? .far = some (p .far) := kept.trans (found .far)
  rw [record?_quiet, waitingCalls_eq far]
  cases side with
  | near =>
    have apart : Side.near ≠ .far := nofun
    rw [record?_eq, proxy?_answerAll_of_ne number apart, ← record?_eq]
    exact near
  | far => exact record?_answerAll far number r₁

end Connection

namespace Duplex

variable {d : Duplex Station} {fs : Side → List Frame}

/-- **On a connection that works, each end has handled in the end all that was due to it.** -/
theorem Carries.settle (carries : d.Carries fs) (number : Nat) (r : ProxyRegistry) (side : Side) :
    (d.connection.settle number r).1.record? side =
      some ((d.ends side).proxy.handler, d.due fs side) := by
  obtain ⟨e, quiet, -, due⟩ := carries.quiet
  have found : ∀ side, d.connection.quiet.proxy? side = some (e.ends side).proxy := by
    intro side
    rw [quiet, Connection.proxy?, session?_connection]
    rfl
  have handler : (e.ends side).proxy.handler = (d.ends side).proxy.handler := by
    have record := d.connection.record?_quiet side
    rw [quiet, Connection.record?, Connection.record?, terminal_through, terminal_through]
      at record
    exact (Prod.mk.inj (Option.some.inj record)).1
  rw [Connection.record?_settle found, handler, due]

end Duplex

end ApiGateway
