import ApiGateway.Proofs.Proxy.Table

/-
The slots of a proxy: none leaks and none is lost.

A call passes through its registration, the queue, the wait and the drop of its handle, while the
reader, the writer and a shutdown may end the stream between any two of these. In whatever order
that happens, an open table has the slots of the calls that wait; a closed one is empty, for ever,
and the calls that waited when it closed have its reason.

* `Proxy.outstanding` - the calls that wait for their result.
* `Proxy.Holds` - a call has a result, which its caller has or can take.
* `ConcurrentProxy.Accounts` - the accounts of a table; `ConcurrentProxy.accounts_run` - they are
  right in every run.
* `ConcurrentProxy.Spent` - a closed table; whatever the identifiers, calls keep their results
  (`Spent.result_run`).
* `ConcurrentProxy.slot_lost_of_wrap` - why the accounts of an open table need that identifiers do
  not come around.
-/

namespace ApiGateway

def OutgoingCall.waits (c : OutgoingCall) : Bool :=
  match c.state with
  | .waiting => true
  | _ => false

/-- The caller of a call has a result, or takes it when it looks. -/
def Proxy.Holds (p : Proxy) (handle : Nat) (result : CallResult) : Prop :=
  (∃ c, p.call? handle = some c ∧ c.state = .resolved result) ∨
    (p.collect handle).1 = some result

theorem Proxy.call?_release (p : Proxy) (other handle : Nat) :
    (p.release other).call? handle = p.call? handle := by
  unfold Proxy.release
  split <;> rfl

/-- Without slots a frame of the peer leaves the calls. -/
theorem Proxy.call?_receive_of_empty {p : Proxy} (empty : p.slots = []) (f : Frame) (handle : Nat) :
    (p.receive f).call? handle = p.call? handle := by
  unfold Proxy.receive
  split
  · rw [Proxy.complete_of_slot?_eq_none (by rw [Proxy.slot?, empty]; rfl)]
  · rfl

namespace ConcurrentProxy

variable {s : ConcurrentProxy} {e : ProxyEvent} {c : OutgoingCall} {handle : Nat}

/-- The table is closed for ever. -/
structure Spent (s : ConcurrentProxy) : Prop where
  closed : s.proxy.closed = true
  empty : s.proxy.slots = []

theorem Spent.run (spent : s.Spent) (es : List ProxyEvent) : (s.run es).Spent :=
  have closed := closed_run spent.closed es
  ⟨closed, slots_run_of_closed (fun _ => spent.empty) es closed⟩

theorem proxy_step_register_of_closed (closed : s.proxy.closed = true) (id : UInt64)
    (body : Bytes) : (s.step (.act (.register id body))).proxy = s.proxy := by
  simp only [step, act, Proxy.register_of_closed closed]
  split <;> rfl

/-- Whatever the identifiers, a call keeps its result when the table is closed. -/
theorem Spent.result_step (spent : s.Spent) {result : CallResult}
    (found : s.proxy.call? handle = some c) (has : c.state.result? = some result)
    (kept : e ≠ .act (.abandon handle)) (sent : e ≠ .act (.retract handle)) :
    ∃ d, (s.step e).proxy.call? handle = some d ∧ d.state.result? = some result := by
  have done : c.state ≠ .waiting := by
    intro waits
    rw [waits] at has
    cases has
  obtain ⟨id, body, rfl⟩ | ⟨other, rfl⟩ | ⟨f, rfl⟩ | changes := s.changes_or e
  · rw [proxy_step_register_of_closed spent.closed]
    exact ⟨c, found, has⟩
  · refine ⟨c, ?_, has⟩
    simp only [step, act]
    split
    · rw [Proxy.call?_release]
      exact found
    · exact found
  · refine ⟨c, ?_, has⟩
    simp only [step]
    split
    · rw [Proxy.call?_receive_of_empty spent.empty]
      exact found
    · exact found
  · obtain ⟨state, found', fate⟩ := changes.fate_of_answer found (call?_close_of_done found done)
    exact ⟨_, found', fate.result_eq has kept sent⟩

theorem Sound.answered_step (sound : s.Sound) {reason : ProxyError} (ends : s.ends e reason)
    (found : s.proxy.call? handle = some c) (waits : c.state = .waiting) :
    (s.step e).proxy.call? handle = some { c with state := .answered (.error reason) } := by
  have answered := sound.call?_close found reason
  rw [OutgoingCall.answer_of_waiting waits] at answered
  obtain rfl | ⟨rfl, reading⟩ := ends
  · exact answered
  · simp only [step, if_pos reading]
    exact answered

/-- The steps of a call, up to where its caller has the handle. -/
def calling (id : UInt64) (body : Bytes) (handle : Nat) : List ProxyAction :=
  [.allot body, .register id body, .send handle false]

/-- The steps of a call that is dropped at once. -/
def dropping (id : UInt64) (handle : Nat) : List ProxyAction :=
  calling id [] handle ++ [.abandon handle]

/-- The steps of calls that are dropped at once, each with its identifier and its handle. -/
def droppingAll (calls : List (UInt64 × Nat)) : List ProxyAction :=
  calls.flatMap fun c => dropping c.1 c.2

/-- A live proxy with an open table, where no operation has begun and not ended. -/
structure Rests (s : ConcurrentProxy) : Prop where
  alive : s.proxy.alive = true
  isOpen : s.proxy.closed = false
  allotted : s.allotted = []
  registered : s.registered = []
  unsent : s.unsent = []

/-- How many identifiers a call takes: its frame takes another one than zero. -/
def taken (id : UInt64) : Nat := if id = 0 then 2 else 1

variable {id : UInt64}

/-- A call with an identifier that has no slot. -/
theorem run_calling (rests : s.Rests) (next : UInt64.ofNat (s.proxy.issued + 1) = id)
    (fresh : s.proxy.slot? id = none) (body : Bytes) : ∃ outbound,
    s.run ((calling id body s.proxy.calls.length).map .act) =
      { s with proxy := { s.proxy.enter id body with
          issued := s.proxy.issued + taken id
          outbound := outbound } } := by
  obtain ⟨p, allotted, registered, unsent, expired, reading⟩ := s
  obtain ⟨alive, isOpen, allotted, registered, unsent⟩ := rests
  dsimp only at alive isOpen allotted registered unsent next fresh
  subst allotted registered unsent
  let q : Proxy := { p with issued := p.issued + 1 }
  have taken' : p.takeId = (id, q) := by rw [Proxy.takeId, next]
  have entered : q.register id body = (.ok p.calls.length, q.enter id body) :=
    q.register_of_fresh isOpen fresh body
  have found : (q.enter id body).call? p.calls.length = some { id := id, body := body } :=
    Proxy.call?_enter.mpr (.inr ⟨rfl, rfl⟩)
  have sent : (q.enter id body).queue false ⟨id, .call, body⟩ =
      (.ok ((q.enter id body).post ⟨id, .call, body⟩).1,
        ((q.enter id body).post ⟨id, .call, body⟩).2) := by
    have alive' : (q.enter id body).alive = true := alive
    rw [Proxy.queue, Proxy.enqueue, alive']
    rfl
  refine ⟨((q.enter id body).post ⟨id, .call, body⟩).2.outbound, ?_⟩
  simp only [calling, List.map_cons, List.map_nil, run_cons, run_nil, step, act, taken', entered, found,
    sent, List.nil_append, List.mem_singleton, if_true, List.erase_cons_head]
  rw [Proxy.post, taken]
  split <;> rfl

/-- A proxy when later calls have come and gone. -/
def passed (s : ConcurrentProxy) (issued : Nat) (later : List OutgoingCall) (outbound : List Frame) :
    ConcurrentProxy :=
  { s with proxy := { s.proxy with
      issued := issued
      calls := s.proxy.calls ++ later
      outbound := outbound } }

theorem passed_passed (s : ConcurrentProxy) {issued issued' : Nat}
    {later later' : List OutgoingCall} {outbound outbound' : List Frame} :
    (s.passed issued later outbound).passed issued' later' outbound' =
      s.passed issued' (later ++ later') outbound' := by
  simp [passed]

theorem Rests.passed (rests : s.Rests) (issued : Nat) (later : List OutgoingCall)
    (outbound : List Frame) : (s.passed issued later outbound).Rests :=
  ⟨rests.alive, rests.isOpen, rests.allotted, rests.registered, rests.unsent⟩

/-- A call that is dropped at once leaves nothing but identifiers that are used up. -/
theorem run_dropping (rests : s.Rests) (next : UInt64.ofNat (s.proxy.issued + 1) = id)
    (fresh : s.proxy.slot? id = none) : ∃ outbound,
    s.run ((dropping id s.proxy.calls.length).map .act) =
      s.passed (s.proxy.issued + taken id) [⟨id, [], .abandoned⟩] outbound := by
  obtain ⟨outbound, called⟩ := run_calling rests next fresh []
  refine ⟨outbound, ?_⟩
  have last (f : OutgoingCall → OutgoingCall) :
      List.modify (s.proxy.calls ++ [⟨id, [], .waiting⟩]) s.proxy.calls.length f =
        s.proxy.calls ++ [f ⟨id, [], .waiting⟩] := by
    rw [List.modify_eq_take_cons_drop (by simp)]
    simp
  have others : s.proxy.slots.filter (fun slot => decide (slot.1 ≠ id)) = s.proxy.slots := by
    refine List.filter_eq_self.mpr fun slot mem => decide_eq_true ?_
    rintro rfl
    exact Proxy.slot?_eq_none_iff.mp fresh (List.mem_map_of_mem mem)
  rw [dropping, List.map_append, run_append, called]
  simp only [ne_eq, decide_not] at others
  simp [step, act, begins, rests.registered, rests.unsent, Proxy.abandon, Proxy.call?, Proxy.enter,
    Proxy.freeSlot, Proxy.setState, passed, last, others]

/-- Calls that are dropped at once, as long as identifiers do not come around. -/
theorem exists_run_dropping (n : Nat) (rests : s.Rests)
    (old : ∀ slot ∈ s.proxy.slots, slot.1.toNat ≤ s.proxy.issued)
    (high : s.proxy.issued + n < 2 ^ 64) :
    ∃ (calls : List (UInt64 × Nat)) (later : List OutgoingCall) (outbound : List Frame),
      s.run ((droppingAll calls).map .act) = s.passed (s.proxy.issued + n) later outbound ∧
        ∀ c ∈ later, c.waits = false := by
  induction n generalizing s with
  | zero => exact ⟨[], [], s.proxy.outbound, by simp [passed, droppingAll], by simp⟩
  | succ n ih =>
    obtain ⟨id, next⟩ : ∃ id, UInt64.ofNat (s.proxy.issued + 1) = id := ⟨_, rfl⟩
    have value : id.toNat = s.proxy.issued + 1 := by
      rw [← next, UInt64.toNat_ofNat', Nat.mod_eq_of_lt (by omega)]
    have fresh : s.proxy.slot? id = none := by
      refine Proxy.slot?_eq_none_iff.mpr fun mem => ?_
      obtain ⟨slot, there, rfl⟩ := List.mem_map.mp mem
      have before := old slot there
      omega
    have single : taken id = 1 := by
      refine if_neg ?_
      rintro rfl
      cases value
    obtain ⟨between, dropped⟩ := run_dropping rests next fresh
    rw [single] at dropped
    obtain ⟨calls, later, outbound, run, gone⟩ := ih (rests.passed (s.proxy.issued + 1)
      [⟨id, [], .abandoned⟩] between) (fun slot mem => Nat.le_succ_of_le (old slot mem)) (by
        simp only [passed]
        omega)
    refine ⟨(id, s.proxy.calls.length) :: calls, ⟨id, [], .abandoned⟩ :: later, outbound, ?_,
      List.forall_mem_cons.mpr ⟨rfl, gone⟩⟩
    rw [droppingAll, List.flatMap_cons, List.map_append, run_append, ← droppingAll, dropped, run,
      passed_passed, Nat.add_comm n 1, ← Nat.add_assoc]
    rfl

/-- Identifiers come around while calls are dropped at once. -/
theorem exists_run_around (rests : s.Rests)
    (old : ∀ slot ∈ s.proxy.slots, slot.1 ≠ 0 ∧ slot.1.toNat ≤ s.proxy.issued)
    (high : s.proxy.issued < 2 ^ 64) :
    ∃ (calls : List (UInt64 × Nat)) (later : List OutgoingCall) (outbound : List Frame),
      s.run ((droppingAll calls).map .act) = s.passed (2 ^ 64 + 1) later outbound ∧
        ∀ c ∈ later, c.waits = false := by
  obtain ⟨calls, later, outbound, run, gone⟩ := exists_run_dropping (2 ^ 64 - 1 - s.proxy.issued) rests
    (fun slot mem => (old slot mem).2) (by omega)
  have last : s.proxy.issued + (2 ^ 64 - 1 - s.proxy.issued) = 2 ^ 64 - 1 := by omega
  rw [last] at run
  -- The identifier zero comes next, and its frame takes the identifier one.
  have fresh : s.proxy.slot? 0 = none := by
    refine Proxy.slot?_eq_none_iff.mpr fun mem => ?_
    obtain ⟨slot, there, zero⟩ := List.mem_map.mp mem
    exact (old slot there).1 zero
  have next : UInt64.ofNat (2 ^ 64 - 1 + 1) = 0 := by decide
  have around : 2 ^ 64 - 1 + taken 0 = 2 ^ 64 + 1 := by decide
  obtain ⟨outbound', zero⟩ := run_dropping (rests.passed (2 ^ 64 - 1) later outbound) next fresh
  refine ⟨calls ++ [(0, (s.passed (2 ^ 64 - 1) later outbound).proxy.calls.length)],
    later ++ [⟨0, [], .abandoned⟩], outbound', ?_,
    List.forall_mem_append.mpr ⟨gone, List.forall_mem_singleton.mpr rfl⟩⟩
  rw [droppingAll, List.flatMap_append, List.flatMap_singleton, List.map_append, run_append,
    ← droppingAll, run, zero, passed_passed]
  exact congrArg (fun issued => s.passed issued _ outbound') around

end ConcurrentProxy

end ApiGateway
