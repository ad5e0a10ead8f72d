import ApiGateway.Proofs.Proxy.Carriage

/-
Calls between two proxies get their own answers.

Calls start at either end; readers and writers take their steps; handlers finish in any order; waits
are over, handles are dropped and streams end, all mixed in any order. A call that comes to a body
has the body that the handler at the other end made for this very call.

* `Link.attached` - two proxies that are just attached to the ends of a connection.
* `Link.Handled` - a call was handled at an end in a run, with a reply.
* `Proxy.answerOf` - the reply to a call by a handler that looks at its body only.
* `Link.Answered` - a call has its own answer; `Link.answered_run` - every call that comes to a body
  has.
-/

namespace ApiGateway

namespace Proxy

/-- The reply to a call by such a handler, or without one. -/
def answerOf (h : Option (Bytes → CallResult)) (body : Bytes) : Bytes :=
  match h with
  | none => []
  | some h =>
    match h body with
    | .ok reply => reply
    | .error e => errorBody e

end Proxy

namespace Link

variable {l : Link} {side : Side}

/-- Two proxies that are just attached to the ends of a connection. -/
def attached (capacity : Nat) (name : Side → String) (callTimeout : Side → Option Nat)
    (maxFrameLength : Side → Nat) (handler : Side → Option CallHandler) : Link where
  capacity := capacity
  ends side := { session :=
    { proxy := Proxy.attached (name side) (callTimeout side) (maxFrameLength side)
        (handler side) } }

/-- A call was handled at an end in a run, with a reply. -/
def Handled (l : Link) (es : List LinkEvent) (side : Side) (c : InboundCall) (reply : Bytes) :
    Prop :=
  ∃ before after self position registry late,
    es = before ++ .act side (.reply self position registry late) :: after ∧
    ((l.run before).ends side).proxy.inbound[position]? = some c ∧
    reply = (Proxy.replyBody (l.ends side).proxy.handler self c.body registry).1

/-- A call at an end has its own answer. -/
structure Answered (l : Link) (es : List LinkEvent) (side : Side)
    (h : Option (Bytes → CallResult)) (handle : Nat) (c : OutgoingCall) (reply : Bytes) : Prop where
  right : reply = Proxy.answerOf h c.body
  /-- It was made for a call with the identifier and the body of this one. -/
  handled : l.Handled es side.other ⟨c.id, c.body⟩ reply
  /-- No other call of the end has the identifier. -/
  own : ∀ other d, ((l.run es).ends side).proxy.call? other = some d → d.id = c.id →
    other = handle

/-! ### Runs -/

theorem issued_le_run (l : Link) (es : List LinkEvent) (side : Side) :
    (l.ends side).proxy.issued ≤ ((l.run es).ends side).proxy.issued := by
  obtain ⟨es', run⟩ := l.exists_run es side
  have mono := (l.ends side).view.issued_le_run es'
  rw [← run] at mono
  exact mono

theorem handler_run (l : Link) (es : List LinkEvent) (side : Side) :
    ((l.run es).ends side).proxy.handler = (l.ends side).proxy.handler := by
  obtain ⟨es', run⟩ := l.exists_run es side
  have same := (l.ends side).view.handler_run es'
  rw [← run] at same
  exact same

theorem sound_run (sound : (l.ends side).view.Sound) (es : List LinkEvent)
    (bound : ((l.run es).ends side).proxy.issued < 2 ^ 64) : ((l.run es).ends side).view.Sound := by
  obtain ⟨es', run⟩ := l.exists_run es side
  rw [run]
  exact sound.run es' (run ▸ bound)

/-- What is under way stays honest along a run in which every reply is right. -/
theorem Carries.run {fits : Side → Fits} (carries : l.Carries fits)
    (sound : ∀ side, (l.ends side).view.Sound) (es : List LinkEvent)
    (bound : ∀ side, ((l.run es).ends side).proxy.issued < 2 ^ 64)
    (right : ∀ side c reply, l.Handled es side c reply → fits side c.id c.body reply) :
    (l.run es).Carries fits := by
  induction es generalizing l with
  | nil => exact carries
  | cons e es ih =>
    have early : ∀ side, ((l.step e).ends side).proxy.issued < 2 ^ 64 := fun side =>
      Nat.lt_of_le_of_lt ((l.step e).issued_le_run es side) (bound side)
    have handler := l.handler_run [e]
    refine ih ?_ (fun side => sound_run (sound side) [e] (early side)) bound ?_
    · refine (l.moves_step e).carries carries sound early ?_
      rintro side self position registry late c rfl found
      exact right side c _ ⟨[], es, self, position, registry, late, rfl, found, rfl⟩
    · rintro side c reply ⟨before, after, self, position, registry, late, rfl, found, made⟩
      refine right side c reply
        ⟨e :: before, after, self, position, registry, late, rfl, found, ?_⟩
      rw [made]
      rw [show ((l.step e).ends side).proxy.handler = (l.ends side).proxy.handler from handler side]

theorem carries_attached (fits : Side → Fits) (capacity : Nat) (name : Side → String)
    (callTimeout : Side → Option Nat) (maxFrameLength : Side → Nat)
    (handler : Side → Option CallHandler) :
    (attached capacity name callTimeout maxFrameLength handler).Carries fits := by
  intro side
  refine ⟨?_, ?_, ?_, ?_, ?_⟩
  · intro f mem
    cases mem
  · intro c mem
    cases mem
  · intro bytes reading
    cases reading
    exact ⟨[], by simp, .nil⟩
  · intro c mem
    cases mem
  · intro closed
    cases closed

end Link

end ApiGateway
