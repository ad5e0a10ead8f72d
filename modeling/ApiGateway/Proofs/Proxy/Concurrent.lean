import ApiGateway.Proofs.Proxy.Calls

/-
A proxy among concurrent tasks.

Callers, handlers, the reader, the writer and whoever ends the stream act on one proxy at once. Each
access to the table of calls, to the flags and to the queue is a step of its own, and the steps of
several tasks mix in any order: a call takes its identifier, registers, is sent, and if that fails
gives its slot back, while anything else happens between. So a `ConcurrentProxy` is a proxy with the
operations that have begun and not ended.

* `ProxyAction` - the steps of callers, of handlers and of the end of a stream.
* `ProxyEvent` - those of the reader and the writer too, and direct use of the queue.
* `ConcurrentProxy.step`, `ConcurrentProxy.run` - what an event does; one that cannot happen does
  nothing.
* `ConcurrentProxy.run_call`, `ConcurrentProxy.run_giveUp` - a call and the end of a wait, taken
  without pause, are runs of steps.
* `ConcurrentProxy.Touches` - what an action makes of the proxy.
* `ConcurrentProxy.Passes` - what holds of each step whatever the identifiers are: the counter goes
  up, and a closed table stays closed and empty.
-/

namespace ApiGateway

namespace Proxy

/-- A proxy as it is attached to a stream. -/
def attached (name : String) (callTimeout : Option Nat) (maxFrameLength : Nat)
    (handler : Option CallHandler) : Proxy :=
  { name := name, callTimeout := callTimeout, maxFrameLength := maxFrameLength, handler := handler }

/-- Queues a frame. A task that saw the proxy alive may be late, and queue it after the end. -/
def queue (p : Proxy) (late : Bool) (f : Frame) : Except ProxyError UInt64 × Proxy :=
  if late then
    let (id, p) := p.post f
    (.ok id, p)
  else p.enqueue f

/-- Handles the peer's call at a position and queues the reply. -/
def reply (p : Proxy) (self : ProxyRef) (position : Nat) (r : ProxyRegistry) (late : Bool) : Proxy :=
  match p.inbound[position]? with
  | none => p
  | some c =>
    ((p.dismiss position c).queue late ⟨c.id, .reply, (replyBody p.handler self c.body r).1⟩).2

theorem reply_false (p : Proxy) (self : ProxyRef) (position : Nat) (r : ProxyRegistry) :
    p.reply self position r false = (p.answer self position r).1 := by
  unfold reply answer
  cases p.inbound[position]? <;> rfl

theorem keepsTable_queue (p : Proxy) (late : Bool) (f : Frame) :
    p.KeepsTable (p.queue late f).2 := by
  unfold queue
  split
  · exact p.keepsTable_post f
  · exact p.keepsTable_enqueue f

theorem keepsTable_reply (p : Proxy) (self : ProxyRef) (position : Nat) (r : ProxyRegistry)
    (late : Bool) : p.KeepsTable (p.reply self position r late) := by
  unfold reply
  cases p.inbound[position]? with
  | none => exact .refl p
  | some c =>
    have kept := (p.dismiss position c).keepsTable_queue late
      ⟨c.id, .reply, (replyBody p.handler self c.body r).1⟩
    exact ⟨kept.calls, kept.slots, kept.closed, kept.handler, kept.issued⟩

end Proxy

/-- A proxy with the operations on it that have begun and not ended. -/
structure ConcurrentProxy where
  proxy : Proxy
  /-- Calls with an identifier and without a slot, each with its body. -/
  allotted : List (UInt64 × Bytes) := []
  /-- Calls with a slot whose frame is not queued. -/
  registered : List Nat := []
  /-- Calls whose frame could not be queued, and that still have their slot. -/
  unsent : List Nat := []
  /-- Calls for which nobody waits longer, and whose slot is not given back. -/
  expired : List Nat := []
  /-- The reader has not ended. -/
  reading : Bool := true

/-- The steps of callers, of handlers and of the end of a stream. -/
inductive ProxyAction where
  /-- A call takes its identifier. -/
  | allot (body : Bytes)
  | register (id : UInt64) (body : Bytes)
  /-- A registered call is queued; the caller then has its handle. -/
  | send (handle : Nat) (late : Bool)
  /-- A call that could not be queued gives its slot back. -/
  | retract (handle : Nat)
  /-- The caller takes the result that is there. -/
  | collect (handle : Nat)
  /-- The caller's time is over. -/
  | expire (handle milliseconds : Nat)
  /-- A call whose time was over gives its slot back. -/
  | release (handle : Nat)
  /-- The caller drops the handle. -/
  | abandon (handle : Nat)
  /-- A handler is done with the peer's call at a position. -/
  | reply (self : ProxyRef) (position : Nat) (registry : ProxyRegistry) (late : Bool)
  /-- The end of the stream begins: the table is closed. -/
  | close (reason : ProxyError)
  /-- The proxy is dead: a shutdown ends, or the writer fails. -/
  | die

inductive ProxyEvent where
  | act (a : ProxyAction)
  /-- A frame of any kind is queued directly. -/
  | enqueue (f : Frame) (late : Bool)
  /-- The reader acts on a frame of the peer. -/
  | receive (f : Frame)
  /-- The writer takes a frame from the queue. -/
  | load
  /-- The reader ends, for any reason. -/
  | stop (reason : ProxyError)

namespace ConcurrentProxy

/-- The call has begun and its caller does not have the handle yet. -/
def begins (s : ConcurrentProxy) (handle : Nat) : Prop := handle ∈ s.registered ∨ handle ∈ s.unsent

instance (s : ConcurrentProxy) (handle : Nat) : Decidable (s.begins handle) :=
  inferInstanceAs (Decidable (_ ∨ _))

def act (s : ConcurrentProxy) : ProxyAction → ConcurrentProxy
  | .allot body =>
    let (id, p) := s.proxy.takeId
    { s with proxy := p, allotted := s.allotted ++ [(id, body)] }
  | .register id body =>
    if (id, body) ∈ s.allotted then
      let s := { s with allotted := s.allotted.erase (id, body) }
      match s.proxy.register id body with
      | (.error _, p) => { s with proxy := p }
      | (.ok handle, p) => { s with proxy := p, registered := s.registered ++ [handle] }
    else s
  | .send handle late =>
    if handle ∈ s.registered then
      match s.proxy.call? handle with
      | none => s
      | some c =>
        let s := { s with registered := s.registered.erase handle }
        match s.proxy.queue late ⟨c.id, .call, c.body⟩ with
        | (.error _, p) => { s with proxy := p, unsent := s.unsent ++ [handle] }
        | (.ok _, p) => { s with proxy := p }
    else s
  | .retract handle =>
    if handle ∈ s.unsent then
      { s with proxy := s.proxy.abandon handle, unsent := s.unsent.erase handle }
    else s
  | .collect handle =>
    if s.begins handle then s else { s with proxy := (s.proxy.collect handle).2 }
  | .expire handle milliseconds =>
    if s.begins handle then s
    else match s.proxy.expire handle milliseconds with
      | (some _, p) => { s with proxy := p, expired := s.expired ++ [handle] }
      | (none, _) => s
  | .release handle =>
    if handle ∈ s.expired then
      { s with proxy := s.proxy.release handle, expired := s.expired.erase handle }
    else s
  | .abandon handle =>
    if s.begins handle then s else { s with proxy := s.proxy.abandon handle }
  | .reply self position registry late =>
    { s with proxy := s.proxy.reply self position registry late }
  | .close reason => { s with proxy := s.proxy.close reason }
  | .die => { s with proxy := { s.proxy with alive := false } }

/-- What an event does. The reader ends as a whole here; that others act between its closing the
table and its end is the same as that somebody else closed it. -/
def step (s : ConcurrentProxy) : ProxyEvent → ConcurrentProxy
  | .act a => s.act a
  | .enqueue f late => { s with proxy := (s.proxy.queue late f).2 }
  | .receive f => if s.reading then { s with proxy := s.proxy.receive f } else s
  | .load => { s with proxy := { s.proxy with outbound := s.proxy.outbound.tail } }
  | .stop reason =>
    if s.reading then { s with proxy := s.proxy.markDead reason, reading := false } else s

def run (s : ConcurrentProxy) (events : List ProxyEvent) : ConcurrentProxy := events.foldl step s

@[simp] theorem run_nil (s : ConcurrentProxy) : s.run [] = s := rfl

@[simp] theorem run_cons (s : ConcurrentProxy) (e : ProxyEvent) (es : List ProxyEvent) :
    s.run (e :: es) = (s.step e).run es := rfl

@[simp] theorem run_append (s : ConcurrentProxy) (es es' : List ProxyEvent) :
    s.run (es ++ es') = (s.run es).run es' := List.foldl_append

/-! ### Whole operations are runs -/

/-- A call is a run: it takes its identifier, registers, is sent, and gives its slot back if it could
not be sent. -/
theorem run_call (s : ConcurrentProxy) (body : Bytes) (fresh : ¬ s.begins s.proxy.calls.length) :
    (s.run [.act (.allot body), .act (.register s.proxy.takeId.1 body),
      .act (.send s.proxy.calls.length false), .act (.retract s.proxy.calls.length)]).proxy =
      (s.proxy.call body).2 := by
  obtain ⟨notRegistered, notUnsent⟩ := not_or.mp fresh
  simp only [run_cons, run_nil, step, act, Proxy.call, List.mem_append, List.mem_singleton, or_true,
    if_true]
  cases closed : s.proxy.closed with
  | true =>
    have refused : s.proxy.takeId.2.closed = true := closed
    simp only [Proxy.register_of_closed refused, notRegistered, notUnsent, if_false]
  | false =>
    obtain ⟨slots, calls, registered, found⟩ := s.proxy.takeId.2.register_of_open closed
      s.proxy.takeId.1 body
    have handle : s.proxy.takeId.2.calls.length = s.proxy.calls.length := rfl
    rw [handle] at registered found
    have found' : ({ s.proxy.takeId.2 with slots := slots, calls := calls } : Proxy).call?
        s.proxy.calls.length = some { id := s.proxy.takeId.1, body := body } := found
    simp only [registered, List.mem_append, List.mem_singleton, or_true, if_true, found',
      Proxy.queue]
    cases sent : Proxy.enqueue { s.proxy.takeId.2 with slots := slots, calls := calls }
        ⟨s.proxy.takeId.1, .call, body⟩ with
    | mk result q => cases result <;> simp [notUnsent]

/-- The end of a wait is a run: the time is over, then the slot is given back. -/
theorem run_giveUp (s : ConcurrentProxy) (handle milliseconds : Nat) (fresh : ¬ s.begins handle)
    (first : handle ∉ s.expired) :
    (s.run [.act (.expire handle milliseconds), .act (.release handle)]).proxy =
      (s.proxy.giveUp handle milliseconds).2 := by
  simp only [run_cons, run_nil, step, act, if_neg fresh, Proxy.giveUp]
  obtain ⟨c, _, _, expire⟩ | expire := s.proxy.expire_cases handle milliseconds
  · simp [expire]
  · simp [expire, first]

/-! ### Whatever the identifiers -/

/-- The handler stays, identifiers are only used up, and a closed table stays closed and empty. -/
structure Passes (p q : Proxy) : Prop where
  handler : q.handler = p.handler
  issued : p.issued ≤ q.issued
  closed : p.closed = true → q.closed = true
  empty : (p.closed = true → p.slots = []) → q.closed = true → q.slots = []

theorem Passes.refl (p : Proxy) : Passes p p := ⟨rfl, Nat.le_refl _, id, id⟩

theorem Passes.of_narrows {p q : Proxy} (narrows : p.Narrows q) : Passes p q := by
  obtain ⟨⟨slots, calls, rfl⟩, sublist⟩ := narrows
  exact ⟨rfl, Nat.le_refl _, id, fun empty closed => List.sublist_nil.mp (empty closed ▸ sublist)⟩

theorem Passes.of_keepsTable {p q : Proxy} (kept : p.KeepsTable q) : Passes p q :=
  ⟨kept.handler, kept.issued, kept.closed.trans, fun empty closed =>
    kept.slots.trans (empty (kept.closed.symm.trans closed))⟩

theorem Passes.close (p : Proxy) (reason : ProxyError) (alive : Bool) :
    Passes p { p.close reason with alive := alive } := by
  obtain ⟨calls, close⟩ := p.close_eq reason
  rw [close]
  exact ⟨rfl, Nat.le_refl _, fun _ => rfl, fun _ _ => rfl⟩

theorem passes_register (p : Proxy) (id : UInt64) (body : Bytes) :
    Passes p (p.register id body).2 := by
  cases closed : p.closed with
  | true =>
    rw [Proxy.register_of_closed closed]
    exact .refl p
  | false =>
    obtain ⟨slots, calls, registered, _⟩ := Proxy.register_of_open closed id body
    rw [registered]
    refine ⟨rfl, Nat.le_refl _, fun stays => stays, fun _ stays => ?_⟩
    replace stays : p.closed = true := stays
    rw [closed] at stays
    cases stays

/-- What an action makes of the proxy. -/
inductive Touches (s : ConcurrentProxy) : ProxyAction → Proxy → Prop where
  | narrows {a : ProxyAction} {q : Proxy} (narrows : s.proxy.Narrows q) : Touches s a q
  | allots (body : Bytes) : Touches s (.allot body) s.proxy.takeId.2
  | registers (id : UInt64) (body : Bytes) :
      Touches s (.register id body) (s.proxy.register id body).2
  | sends (handle : Nat) (late : Bool) {c : OutgoingCall} (mem : c ∈ s.proxy.calls) :
      Touches s (.send handle late) (s.proxy.queue late ⟨c.id, .call, c.body⟩).2
  | replies (self : ProxyRef) (position : Nat) (registry : ProxyRegistry) (late : Bool) :
      Touches s (.reply self position registry late)
        (s.proxy.reply self position registry late)
  | closes (reason : ProxyError) : Touches s (.close reason) (s.proxy.close reason)
  | dies : Touches s .die { s.proxy with alive := false }

theorem touches_act (s : ConcurrentProxy) (a : ProxyAction) : s.Touches a (s.act a).proxy := by
  cases a with
  | allot body => exact .allots body
  | register id body =>
    have registers := Touches.registers (s := s) id body
    simp only [act]
    split
    · split
      next registered => simpa [registered] using registers
      next registered => simpa [registered] using registers
    · exact .narrows (.refl _)
  | send handle late =>
    simp only [act]
    split
    · split
      · exact .narrows (.refl _)
      next c found =>
        have sends := Touches.sends handle late (Proxy.mem_calls_of_call? found)
        split
        next sent => simpa [sent] using sends
        next sent => simpa [sent] using sends
    · exact .narrows (.refl _)
  | retract handle =>
    simp only [act]
    split
    · exact .narrows (s.proxy.narrows_abandon handle)
    · exact .narrows (.refl _)
  | collect handle =>
    simp only [act]
    split
    · exact .narrows (.refl _)
    · exact .narrows (s.proxy.narrows_collect handle)
  | expire handle milliseconds =>
    have narrows := s.proxy.narrows_expire handle milliseconds
    simp only [act]
    split
    · exact .narrows (.refl _)
    · split
      next expired => exact .narrows (by simpa [expired] using narrows)
      next => exact .narrows (.refl _)
  | release handle =>
    simp only [act]
    split
    · exact .narrows (s.proxy.narrows_release handle)
    · exact .narrows (.refl _)
  | abandon handle =>
    simp only [act]
    split
    · exact .narrows (.refl _)
    · exact .narrows (s.proxy.narrows_abandon handle)
  | reply self position registry late => exact .replies self position registry late
  | close reason => exact .closes reason
  | die => exact .dies

theorem passes_act (s : ConcurrentProxy) (a : ProxyAction) : Passes s.proxy (s.act a).proxy := by
  have touches := s.touches_act a
  generalize (s.act a).proxy = q at touches
  cases touches with
  | narrows narrows => exact .of_narrows narrows
  | allots => exact ⟨rfl, Nat.le_succ _, id, id⟩
  | registers id body => exact passes_register s.proxy id body
  | @sends _ late c => exact .of_keepsTable (s.proxy.keepsTable_queue late ⟨c.id, .call, c.body⟩)
  | replies self position registry late =>
    exact .of_keepsTable (s.proxy.keepsTable_reply self position registry late)
  | closes reason => exact .close s.proxy reason (s.proxy.close reason).alive
  | dies => exact ⟨rfl, Nat.le_refl _, id, id⟩

theorem passes_step (s : ConcurrentProxy) (e : ProxyEvent) :
    Passes s.proxy (s.step e).proxy := by
  cases e with
  | act a => exact s.passes_act a
  | enqueue f late => exact .of_keepsTable (s.proxy.keepsTable_queue late f)
  | receive f =>
    simp only [step]
    split
    · unfold Proxy.receive
      split
      · exact .of_narrows (s.proxy.narrows_complete f.id f.body)
      · exact ⟨rfl, Nat.le_refl _, id, id⟩
    · exact .refl _
  | load => exact ⟨rfl, Nat.le_refl _, id, id⟩
  | stop reason =>
    simp only [step]
    split
    · exact .close s.proxy reason false
    · exact .refl _

theorem reading_act (s : ConcurrentProxy) (a : ProxyAction) : (s.act a).reading = s.reading := by
  cases a <;> simp only [act] <;> (repeat' split) <;> rfl

theorem issued_le_run (s : ConcurrentProxy) (es : List ProxyEvent) :
    s.proxy.issued ≤ (s.run es).proxy.issued := by
  induction es generalizing s with
  | nil => exact Nat.le_refl _
  | cons e es ih => exact Nat.le_trans (s.passes_step e).issued (ih (s.step e))

theorem handler_run (s : ConcurrentProxy) (es : List ProxyEvent) :
    (s.run es).proxy.handler = s.proxy.handler := by
  induction es generalizing s with
  | nil => rfl
  | cons e es ih => exact (ih (s.step e)).trans (s.passes_step e).handler

/-- A table that is closed stays closed. -/
theorem closed_run {s : ConcurrentProxy} (closed : s.proxy.closed = true) (es : List ProxyEvent) :
    (s.run es).proxy.closed = true := by
  induction es generalizing s with
  | nil => exact closed
  | cons e es ih => exact ih ((s.passes_step e).closed closed)

/-- A closed table is empty. -/
theorem slots_run_of_closed {s : ConcurrentProxy} (empty : s.proxy.closed = true → s.proxy.slots = [])
    (es : List ProxyEvent) (closed : (s.run es).proxy.closed = true) :
    (s.run es).proxy.slots = [] := by
  induction es generalizing s with
  | nil => exact empty closed
  | cons e es ih => exact ih ((s.passes_step e).empty empty) closed

end ConcurrentProxy

end ApiGateway
