import ApiGateway.Proofs.Proxy.Table

/-
What the tasks at a proxy send, and where the results of its calls come from.

A task that makes a call queues a frame with the identifier and the body of a call; a task that
handles a call queues a reply with the identifier of a call of the peer. Nothing else is queued
while nobody uses the queue directly.

* `ConcurrentProxy.Sends` - the frame that an action queues.
* `ConcurrentProxy.posts_act` - what an action does to the queue and to the calls of the peer.
* `ConcurrentProxy.Sound.result_step` - a result is old, or is the body of the reply that came.
-/

namespace ApiGateway

namespace ConcurrentProxy

variable {s : ConcurrentProxy}

/-- The frame that an action queues. -/
inductive Sends (s : ConcurrentProxy) : ProxyAction → Frame → Prop where
  | call {handle : Nat} {late : Bool} {c : OutgoingCall} (mem : c ∈ s.proxy.calls) :
      Sends s (.send handle late) ⟨c.id, .call, c.body⟩
  | reply {self : ProxyRef} {position : Nat} {registry : ProxyRegistry} {late : Bool}
      {c : InboundCall} (found : s.proxy.inbound[position]? = some c) :
      Sends s (.reply self position registry late)
        ⟨c.id, .reply, (Proxy.replyBody s.proxy.handler self c.body registry).1⟩

/-- An action queues one frame at most, and handles calls of the peer. -/
structure Posts (s : ConcurrentProxy) (a : ProxyAction) (q : Proxy) : Prop where
  inbound : q.inbound.Sublist s.proxy.inbound
  outbound : q.outbound = s.proxy.outbound ∨
    ∃ f, s.Sends a f ∧ q.outbound = s.proxy.outbound ++ [f]

theorem Posts.refl (s : ConcurrentProxy) (a : ProxyAction) : s.Posts a s.proxy :=
  ⟨.refl _, .inl rfl⟩

theorem Posts.of_narrows {a : ProxyAction} {q : Proxy} (narrows : s.proxy.Narrows q) :
    s.Posts a q := by
  obtain ⟨⟨slots, calls, rfl⟩, _⟩ := narrows
  exact ⟨.refl _, .inl rfl⟩

theorem queue_of_ne_zero (p : Proxy) (late : Bool) {f : Frame} (nonzero : f.id ≠ 0) :
    (p.queue late f).2 = p ∨ (p.queue late f).2 = { p with outbound := p.outbound ++ [f] } := by
  have post : (p.post f).2 = { p with outbound := p.outbound ++ [f] } := by
    simp [Proxy.post, nonzero]
  unfold Proxy.queue Proxy.enqueue
  split
  · exact .inr post
  · split
    · exact .inl rfl
    · exact .inr post

theorem posts_reply (inbound : ∀ c ∈ s.proxy.inbound, c.id ≠ 0) (self : ProxyRef) (position : Nat)
    (registry : ProxyRegistry) (late : Bool) :
    s.Posts (.reply self position registry late)
      (s.proxy.reply self position registry late) := by
  unfold Proxy.reply
  split
  · exact .refl s _
  next c found =>
    have nonzero := inbound c (List.mem_of_getElem? found)
    obtain same | queued := queue_of_ne_zero (s.proxy.dismiss position c) late
      (f := ⟨c.id, .reply, (Proxy.replyBody s.proxy.handler self c.body registry).1⟩) nonzero
    · rw [same]
      exact ⟨List.eraseIdx_sublist _ _, .inl rfl⟩
    · rw [queued]
      exact ⟨List.eraseIdx_sublist _ _, .inr ⟨_, .reply found, rfl⟩⟩

/-- What an action does to the queue and to the calls of the peer, where no call has the identifier
that asks for a fresh one. -/
theorem posts_act (calls : ∀ c ∈ s.proxy.calls, c.id ≠ 0)
    (inbound : ∀ c ∈ s.proxy.inbound, c.id ≠ 0) (a : ProxyAction) :
    s.Posts a (s.act a).proxy := by
  have touches := s.touches_act a
  generalize (s.act a).proxy = q at touches
  cases touches with
  | narrows narrows => exact .of_narrows narrows
  | allots => exact ⟨.refl _, .inl rfl⟩
  | registers id body =>
    cases closed : s.proxy.closed with
    | true =>
      rw [Proxy.register_of_closed closed]
      exact .refl s _
    | false =>
      obtain ⟨slots, calls', registered, _⟩ := Proxy.register_of_open closed id body
      rw [registered]
      exact ⟨.refl _, .inl rfl⟩
  | @sends _ late c mem =>
    obtain same | queued := queue_of_ne_zero s.proxy late (f := ⟨c.id, .call, c.body⟩)
      (calls c mem)
    · rw [same]
      exact .refl s _
    · rw [queued]
      exact ⟨.refl _, .inr ⟨_, .call mem, rfl⟩⟩
  | replies self position registry late => exact posts_reply inbound self position registry late
  | closes reason =>
    obtain ⟨calls', close⟩ := s.proxy.close_eq reason
    rw [close]
    exact ⟨.refl _, .inl rfl⟩
  | dies => exact ⟨.refl _, .inl rfl⟩

/-- A result of a call is old, or is the body of the reply that came. -/
theorem Sound.result_step (sound : s.Sound) (e : ProxyEvent) {c : OutgoingCall}
    (mem : c ∈ (s.step e).proxy.calls) {body : Bytes} (has : c.state.result? = some (.ok body)) :
    (∃ d ∈ s.proxy.calls, d.id = c.id ∧ d.body = c.body ∧ d.state.result? = some (.ok body)) ∨
      e = .receive ⟨c.id, .reply, body⟩ := by
  obtain ⟨handle, found⟩ := List.mem_iff_getElem?.mp mem
  cases present : s.proxy.call? handle with
  | none =>
    have waits := (sound.changes e).waiting_of_new present found
    rw [waits] at has
    cases has
  | some d =>
    obtain ⟨state, found', fate⟩ := (sound.changes e).fate sound present
    rw [Proxy.call?, found] at found'
    cases found'
    obtain old | ⟨reply, _⟩ := fate.of_result_ok has
    · exact .inl ⟨d, Proxy.mem_calls_of_call? present, rfl, rfl, old⟩
    · exact .inr reply

end ConcurrentProxy

end ApiGateway
