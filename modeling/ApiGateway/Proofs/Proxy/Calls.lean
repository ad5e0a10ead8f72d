import ApiGateway.Proxy.Basic
import Mathlib.Algebra.Group.Nat.Defs
import Mathlib.Data.List.Nodup

/-
Calls and slots under the operations of a proxy.

* `CallState.LeadsTo` - the ways of a call: it waits, has its result, and is resolved or dropped.
* `Proxy.KeepsTable` - neither calls nor slots change; identifiers may be used up.
* `Proxy.settle` - a call comes to a state and gives its slot back; the reply to a call, the taking
  of its result and its end without one are all of this form.
* `Proxy.Narrows` - calls change and slots are freed, and nothing else.
* `Proxy.enter` - a call enters the table under a fresh identifier.
* `Proxy.call?_close` - the end of a stream answers the calls that have slots, and no others.
-/

namespace ApiGateway

/-! ### The ways of a call -/

namespace CallState

/-- A call in the first state can come to the second. -/
inductive LeadsTo : CallState → CallState → Prop where
  | refl (s : CallState) : LeadsTo s s
  | leave (s : CallState) : LeadsTo .waiting s
  | collect (result : CallResult) : LeadsTo (.answered result) (.resolved result)
  | drop (result : CallResult) : LeadsTo (.answered result) .abandoned

theorem LeadsTo.trans {s t u : CallState} (first : s.LeadsTo t) (second : t.LeadsTo u) :
    s.LeadsTo u := by
  cases first with
  | refl => exact second
  | leave => exact .leave u
  | collect result => cases second; exact .collect result
  | drop result => cases second; exact .drop result

/-- The result that a call has come to. -/
def result? : CallState → Option CallResult
  | .answered result => some result
  | .resolved result => some result
  | _ => none

theorem result?_eq_some_iff {s : CallState} {result : CallResult} :
    s.result? = some result ↔ s = .answered result ∨ s = .resolved result := by
  cases s <;> simp [result?]

/-- A call that once does not wait never waits again. -/
theorem LeadsTo.ne_waiting {s t : CallState} (leads : s.LeadsTo t) (done : s ≠ .waiting) :
    t ≠ .waiting := by
  cases leads with
  | refl => exact done
  | leave => exact absurd rfl done
  | collect => simp
  | drop => simp

/-- The result of a call is not given back and does not change. -/
theorem LeadsTo.of_resolved {t : CallState} {result : CallResult}
    (leads : (CallState.resolved result).LeadsTo t) : t = .resolved result := by
  cases leads
  rfl

end CallState

theorem OutgoingCall.answer_of_waiting {c : OutgoingCall} (waits : c.state = .waiting)
    (result : CallResult) : c.answer result = { c with state := .answered result } := by
  simp only [OutgoingCall.answer, waits]

theorem OutgoingCall.answer_of_ne_waiting {c : OutgoingCall} (done : c.state ≠ .waiting)
    (result : CallResult) : c.answer result = c := by
  unfold OutgoingCall.answer
  split
  · contradiction
  · rfl

theorem OutgoingCall.state_answer_ne_waiting (c : OutgoingCall) (result : CallResult) :
    (c.answer result).state ≠ .waiting := by
  by_cases waits : c.state = .waiting
  · simp [answer_of_waiting waits]
  · rwa [answer_of_ne_waiting waits]

/-- The first result counts. -/
@[simp] theorem OutgoingCall.answer_answer (c : OutgoingCall) (result : CallResult) :
    (c.answer result).answer result = c.answer result := by
  by_cases waits : c.state = .waiting
  · rw [answer_of_waiting waits, answer_of_ne_waiting (by simp)]
  · rw [answer_of_ne_waiting waits, answer_of_ne_waiting waits]

namespace Proxy

variable {p q : Proxy} {c : OutgoingCall}

/-! ### The calls -/

theorem call?_eq_some_iff {handle : Nat} :
    p.call? handle = some c ↔ ∃ bound : handle < p.calls.length, p.calls[handle] = c :=
  List.getElem?_eq_some_iff

theorem mem_calls_of_call? {handle : Nat} (found : p.call? handle = some c) : c ∈ p.calls :=
  List.mem_of_getElem? found

theorem call?_modify (p : Proxy) (f : OutgoingCall → OutgoingCall) (handle other : Nat) :
    ({ p with calls := p.calls.modify handle f } : Proxy).call? other =
      if handle = other then (p.call? other).map f else p.call? other := by
  unfold call?
  rw [List.getElem?_modify]
  split <;> simp

@[simp] theorem call?_freeSlot (p : Proxy) (id : UInt64) (handle : Nat) :
    (p.freeSlot id).call? handle = p.call? handle := rfl

theorem call?_setState (p : Proxy) (handle other : Nat) (state : CallState) :
    (p.setState handle state).call? other =
      if handle = other then (p.call? other).map fun c => { c with state := state }
      else p.call? other :=
  call?_modify p _ handle other

/-- To answer a call is to set its state. -/
theorem resolve_eq_setState {handle : Nat} (found : p.call? handle = some c) (result : CallResult) :
    p.resolve handle result = p.setState handle (c.answer result).state := by
  unfold resolve setState
  congr 1
  apply List.ext_getElem?
  intro other
  rw [List.getElem?_modify, List.getElem?_modify]
  by_cases same : handle = other
  · subst same
    replace found : p.calls[handle]? = some c := found
    rw [found]
    by_cases waits : c.state = .waiting
    · simp [OutgoingCall.answer_of_waiting waits]
    · simp [OutgoingCall.answer_of_ne_waiting waits]
  · simp [same]

/-! ### The slots -/

theorem mem_slots_of_slot? {id : UInt64} {handle : Nat} (found : p.slot? id = some handle) :
    (id, handle) ∈ p.slots := by
  obtain ⟨before, after, split, _⟩ := List.lookup_eq_some_iff.mp found
  rw [split]
  simp

theorem slot?_eq_none_iff {id : UInt64} : p.slot? id = none ↔ id ∉ p.slots.map (·.1) := by
  unfold slot?
  rw [List.lookup_eq_none_iff]
  simp only [List.mem_map, not_exists, not_and, bne_iff_ne, ne_eq]
  constructor
  · intro none slot mem same
    exact none slot mem same.symm
  · intro none slot mem same
    exact none slot mem same.symm

theorem mem_slots_freeSlot {id : UInt64} {slot : UInt64 × Nat} :
    slot ∈ (p.freeSlot id).slots ↔ slot ∈ p.slots ∧ slot.1 ≠ id := by
  simp [freeSlot]

/-! ### Operations that leave the table alone -/

/-- Calls and slots stay; identifiers may be used up. -/
structure KeepsTable (p q : Proxy) : Prop where
  calls : q.calls = p.calls
  slots : q.slots = p.slots
  closed : q.closed = p.closed
  handler : q.handler = p.handler
  issued : p.issued ≤ q.issued

theorem KeepsTable.call? (kept : p.KeepsTable q) (handle : Nat) :
    q.call? handle = p.call? handle := by
  unfold Proxy.call?
  rw [kept.calls]

theorem KeepsTable.refl (p : Proxy) : p.KeepsTable p := ⟨rfl, rfl, rfl, rfl, Nat.le_refl _⟩

theorem keepsTable_post (p : Proxy) (f : Frame) : p.KeepsTable (p.post f).2 := by
  unfold post
  split
  · exact ⟨rfl, rfl, rfl, rfl, Nat.le_succ _⟩
  · exact ⟨rfl, rfl, rfl, rfl, Nat.le_refl _⟩

theorem keepsTable_enqueue (p : Proxy) (f : Frame) : p.KeepsTable (p.enqueue f).2 := by
  unfold enqueue
  split
  · exact .refl p
  · exact p.keepsTable_post f

/-! ### A call gives its slot back -/

/-- A call comes to a state and gives its slot back. -/
def settle (p : Proxy) (handle : Nat) (c : OutgoingCall) (state : CallState) : Proxy :=
  (p.freeSlot c.id).setState handle state

theorem call?_settle (p : Proxy) (handle other : Nat) (c : OutgoingCall) (state : CallState) :
    (p.settle handle c state).call? other =
      if handle = other then (p.call? other).map fun c => { c with state := state }
      else p.call? other :=
  call?_setState (p.freeSlot c.id) handle other state

theorem mem_slots_settle {handle : Nat} {state : CallState} {slot : UInt64 × Nat} :
    slot ∈ (p.settle handle c state).slots ↔ slot ∈ p.slots ∧ slot.1 ≠ c.id :=
  mem_slots_freeSlot

/-- A new state of a call leaves the identifiers as they are. -/
theorem map_id_setState (p : Proxy) (handle : Nat) (state : CallState) :
    (p.setState handle state).calls.map (·.id) = p.calls.map (·.id) := by
  apply List.ext_getElem?
  intro other
  simp only [setState, List.getElem?_map, List.getElem?_modify]
  split <;> simp [Function.comp_def]

/-- A state that a call has already is not a change. -/
theorem setState_self {handle : Nat} (found : p.call? handle = some c) :
    p.setState handle c.state = p := by
  have calls : p.calls.modify handle (fun d => { d with state := c.state }) = p.calls := by
    apply List.ext_getElem?
    intro other
    rw [List.getElem?_modify]
    by_cases same : handle = other
    · subst same
      replace found : p.calls[handle]? = some c := found
      rw [found]
      simp
    · simp [same]
  unfold setState
  rw [calls]

/-- The result of a call is taken where it is there; else nothing happens. -/
theorem collect_cases (p : Proxy) (handle : Nat) :
    (∃ c result, p.call? handle = some c ∧ c.state = .answered result ∧
      p.collect handle = (some result, p.settle handle c (.resolved result))) ∨
    (∀ c result, p.call? handle = some c → c.state ≠ .answered result) ∧
      p.collect handle = (none, p) := by
  unfold collect
  split
  next id body result found => exact .inl ⟨⟨id, body, .answered result⟩, result, found, rfl, rfl⟩
  next other =>
    refine .inr ⟨?_, rfl⟩
    intro c result found answered
    obtain ⟨id, body, state⟩ := c
    subst answered
    exact other id body result found

/-- The time of a call that waits can be over; else nothing happens. -/
theorem expire_cases (p : Proxy) (handle milliseconds : Nat) :
    (∃ c, p.call? handle = some c ∧ c.state = .waiting ∧
      p.expire handle milliseconds = (some (.error (.timedOut c.id milliseconds)),
        p.setState handle (.resolved (.error (.timedOut c.id milliseconds))))) ∨
    p.expire handle milliseconds = (none, p) := by
  unfold expire
  split
  next id body found => exact .inl ⟨⟨id, body, .waiting⟩, found, rfl, rfl⟩
  next => exact .inr rfl

/-- A call without a result in its caller's hands is dropped; else nothing happens. -/
theorem abandon_cases (p : Proxy) (handle : Nat) :
    (∃ c, p.call? handle = some c ∧ (∀ result, c.state ≠ .resolved result) ∧
      p.abandon handle = p.settle handle c .abandoned) ∨
    p.abandon handle = p := by
  unfold abandon
  split
  next => exact .inr rfl
  next id body state other found =>
    refine .inl ⟨⟨id, body, state⟩, found, ?_, rfl⟩
    intro result resolved
    exact other result resolved
  next => exact .inr rfl

/-- A reply with a slot answers the call of the slot, if that call waits, and frees the slot. -/
theorem complete_eq_settle {handle : Nat} (body : Bytes) (found : p.call? handle = some c)
    (slot : p.slot? c.id = some handle) :
    p.complete c.id body = p.settle handle c (c.answer (.ok body)).state := by
  simp only [complete, slot]
  exact resolve_eq_setState (p := p.freeSlot c.id) found _

theorem complete_of_slot?_eq_none {id : UInt64} (none : p.slot? id = none) (body : Bytes) :
    p.complete id body = p := by
  unfold complete
  rw [none]

/-! ### Operations that free slots at most -/

/-- Calls may change and slots may be freed; all else stays. -/
structure Narrows (p q : Proxy) : Prop where
  rest : ∃ slots calls, q = { p with slots := slots, calls := calls }
  slots : q.slots.Sublist p.slots

theorem Narrows.refl (p : Proxy) : p.Narrows p := ⟨⟨p.slots, p.calls, rfl⟩, .refl _⟩

theorem narrows_freeSlot (p : Proxy) (id : UInt64) : p.Narrows (p.freeSlot id) :=
  ⟨⟨_, p.calls, rfl⟩, List.filter_sublist⟩

theorem narrows_settle (p : Proxy) (handle : Nat) (c : OutgoingCall) (state : CallState) :
    p.Narrows (p.settle handle c state) :=
  ⟨⟨_, _, rfl⟩, List.filter_sublist⟩

theorem narrows_collect (p : Proxy) (handle : Nat) : p.Narrows (p.collect handle).2 := by
  obtain ⟨c, result, _, _, collect⟩ | ⟨_, collect⟩ := p.collect_cases handle
  · rw [collect]
    exact p.narrows_settle handle c _
  · rw [collect]
    exact .refl p

theorem narrows_expire (p : Proxy) (handle milliseconds : Nat) :
    p.Narrows (p.expire handle milliseconds).2 := by
  obtain ⟨c, _, _, expire⟩ | expire := p.expire_cases handle milliseconds
  · rw [expire]
    exact ⟨⟨p.slots, _, rfl⟩, .refl _⟩
  · rw [expire]
    exact .refl p

theorem narrows_release (p : Proxy) (handle : Nat) : p.Narrows (p.release handle) := by
  unfold release
  split
  next c _ => exact p.narrows_freeSlot c.id
  next => exact .refl p

theorem narrows_abandon (p : Proxy) (handle : Nat) : p.Narrows (p.abandon handle) := by
  obtain ⟨c, _, _, abandon⟩ | abandon := p.abandon_cases handle
  · rw [abandon]
    exact p.narrows_settle handle c _
  · rw [abandon]
    exact .refl p

theorem narrows_complete (p : Proxy) (id : UInt64) (body : Bytes) :
    p.Narrows (p.complete id body) := by
  unfold complete
  split
  · exact ⟨⟨_, _, rfl⟩, List.filter_sublist⟩
  · exact .refl p

/-- A frame changes calls and slots, and adds a call of the peer if it is one. -/
theorem receive_eq (p : Proxy) (f : Frame) : ∃ slots calls, p.receive f =
    { p with
      slots := slots
      calls := calls
      inbound := p.inbound ++ if f.kind = .call then [⟨f.id, f.body⟩] else [] } := by
  unfold receive
  cases kind : f.kind with
  | call => exact ⟨p.slots, p.calls, rfl⟩
  | reply =>
    obtain ⟨slots, calls, same⟩ := (p.narrows_complete f.id f.body).rest
    exact ⟨slots, calls, by simp [same]⟩

/-! ### New calls -/

theorem register_of_closed (closed : p.closed = true) (id : UInt64) (body : Bytes) :
    p.register id body = (.error .streamClosed, p) := by
  simp [register, closed]

theorem occupy_eq (p : Proxy) (id : UInt64) (handle : Nat) :
    ∃ slots calls, p.occupy id handle = { p with slots := slots, calls := calls } ∧
      calls.length = p.calls.length := by
  unfold occupy
  cases p.slot? id with
  | none => exact ⟨(p.freeSlot id).slots ++ [(id, handle)], p.calls, rfl, rfl⟩
  | some old =>
    exact ⟨(p.freeSlot id).slots ++ [(id, handle)],
      (p.resolve old (.error .streamClosed)).calls, rfl, List.length_modify _ _ _⟩

/-- A call of an open table waits under the handle that it gets. -/
theorem register_of_open (isOpen : p.closed = false) (id : UInt64) (body : Bytes) :
    ∃ slots calls, p.register id body =
        (.ok p.calls.length, { p with slots := slots, calls := calls }) ∧
      calls[p.calls.length]? = some { id := id, body := body } := by
  obtain ⟨slots, calls, occupied, length⟩ := p.occupy_eq id p.calls.length
  refine ⟨slots, calls ++ [{ id := id, body := body }], ?_, ?_⟩
  · simp [register, isOpen, occupied]
  · rw [← length]
    exact List.getElem?_concat_length

/-- A call enters the table under a fresh identifier. -/
def enter (p : Proxy) (id : UInt64) (body : Bytes) : Proxy :=
  { p with
    slots := p.slots ++ [(id, p.calls.length)]
    calls := p.calls ++ [{ id := id, body := body }] }

theorem call?_enter {id : UInt64} {body : Bytes} {handle : Nat} :
    (p.enter id body).call? handle = some c ↔
      p.call? handle = some c ∨ handle = p.calls.length ∧ c = { id := id, body := body } := by
  unfold call? enter
  obtain within | rfl | beyond := Nat.lt_trichotomy handle p.calls.length
  · rw [List.getElem?_append_left within]
    simp [Nat.ne_of_lt within]
  · simp [eq_comm]
  · rw [List.getElem?_eq_none (by simp; omega), List.getElem?_eq_none (by omega)]
    simp [Nat.ne_of_gt beyond]

theorem mem_slots_enter {id other : UInt64} {body : Bytes} {handle : Nat} :
    (other, handle) ∈ (p.enter id body).slots ↔
      (other, handle) ∈ p.slots ∨ other = id ∧ handle = p.calls.length := by
  simp [enter]

/-- A fresh identifier gets its slot beside those that are there. -/
theorem register_of_fresh (isOpen : p.closed = false) {id : UInt64} (fresh : p.slot? id = none)
    (body : Bytes) : p.register id body = (.ok p.calls.length, p.enter id body) := by
  have unused : ∀ slot ∈ p.slots, slot.1 ≠ id := by
    intro slot mem same
    exact slot?_eq_none_iff.mp fresh (same ▸ List.mem_map_of_mem mem)
  have others : p.freeSlot id = p := by
    have same : p.slots.filter (fun slot => decide (slot.1 ≠ id)) = p.slots :=
      List.filter_eq_self.mpr fun slot mem => decide_eq_true (unused slot mem)
    unfold freeSlot
    rw [same]
  simp [register, isOpen, occupy, fresh, others, enter]

/-! ### The end of the stream -/

theorem foldl_resolve (slots : List (UInt64 × Nat)) (reason : ProxyError) (p : Proxy) :
    ∃ calls, slots.foldl (fun p (_, handle) => p.resolve handle (.error reason)) p =
        { p with calls := calls } ∧
      calls.map (·.id) = p.calls.map (·.id) ∧
      ∀ handle, calls[handle]? = (p.call? handle).map fun c =>
        if handle ∈ slots.map (·.2) then c.answer (.error reason) else c := by
  induction slots generalizing p with
  | nil => exact ⟨p.calls, rfl, rfl, fun handle => by simp [call?]⟩
  | cons slot slots ih =>
    obtain ⟨calls, fold, ids, answered⟩ := ih (p.resolve slot.2 (.error reason))
    refine ⟨calls, fold, ?_, ?_⟩
    · rw [ids]
      apply List.ext_getElem?
      intro other
      simp only [resolve, List.getElem?_map, List.getElem?_modify]
      cases p.calls[other]? with
      | none => rfl
      | some c =>
        by_cases waits : c.state = .waiting
        · split <;> simp [OutgoingCall.answer_of_waiting waits]
        · split <;> simp [OutgoingCall.answer_of_ne_waiting waits]
    · intro handle
      rw [answered handle, resolve, call?_modify]
      by_cases same : slot.2 = handle
      · simp only [same, if_true, Option.map_map, Function.comp_def, List.map_cons,
          List.mem_cons, true_or]
        congr 1
        funext c
        split <;> simp
      · simp only [same, if_false, List.map_cons, List.mem_cons, Ne.symm same, false_or]

/-- The end of a stream answers each call that has a slot, if it waits, and no other. -/
theorem call?_close (p : Proxy) (reason : ProxyError) (handle : Nat) :
    (p.close reason).call? handle = (p.call? handle).map fun c =>
      if handle ∈ p.slots.map (·.2) then c.answer (.error reason) else c := by
  obtain ⟨calls, fold, _, answered⟩ := foldl_resolve p.slots reason p
  unfold close
  rw [fold]
  exact answered handle

theorem map_id_close (p : Proxy) (reason : ProxyError) :
    (p.close reason).calls.map (·.id) = p.calls.map (·.id) := by
  obtain ⟨calls, fold, ids, _⟩ := foldl_resolve p.slots reason p
  unfold close
  rw [fold]
  exact ids

/-- The end of a stream changes the table only. -/
theorem close_eq (p : Proxy) (reason : ProxyError) :
    ∃ calls, p.close reason = { p with slots := [], calls := calls, closed := true } := by
  obtain ⟨calls, fold, _⟩ := foldl_resolve p.slots reason p
  refine ⟨calls, ?_⟩
  unfold close
  rw [fold]

theorem issued_close (p : Proxy) (reason : ProxyError) :
    (p.close reason).issued = p.issued := by
  obtain ⟨calls, close⟩ := p.close_eq reason
  rw [close]

end Proxy

end ApiGateway
