import ApiGateway.Proofs.Proxy.Table

/-
The replies of a peer that sends what it likes.

Replies may be strays, duplicates or late, and come in any order, between calls, timeouts, dropped
handles and the end of the stream. A call still has one result at most; and if that is a body, the
body is that of the first reply with the identifier of the call which came while the call had its
slot.

* `ConcurrentProxy.allotments` - the identifiers that calls take in a run.
* `ConcurrentProxy.outcomes` - the results that callers get in a run.
* `ConcurrentProxy.Replied` - where the body of a call came from.
* `ConcurrentProxy.Delivers` - what callers get in a run; `ConcurrentProxy.delivers_run` - they get
  it whatever the peer sends.
-/

namespace ApiGateway

namespace ConcurrentProxy

variable {s : ConcurrentProxy} {e : ProxyEvent} {c : OutgoingCall} {handle : Nat}

/-- The identifiers that calls take in a run. -/
def allotments (s : ConcurrentProxy) : List ProxyEvent → List UInt64
  | [] => []
  | .act (.allot body) :: es =>
    s.proxy.takeId.1 :: (s.step (.act (.allot body))).allotments es
  | e :: es => (s.step e).allotments es

/-- The call whose caller gets a result in an event, and the result. -/
def outcome? (s : ConcurrentProxy) : ProxyEvent → Option (Nat × CallResult)
  | .act (.collect handle) =>
    if s.begins handle then none else (s.proxy.collect handle).1.map (handle, ·)
  | .act (.expire handle milliseconds) =>
    if s.begins handle then none else (s.proxy.expire handle milliseconds).1.map (handle, ·)
  | _ => none

/-- The results that callers get in a run. -/
def outcomes (s : ConcurrentProxy) : List ProxyEvent → List (Nat × CallResult)
  | [] => []
  | e :: es => (s.outcome? e).toList ++ (s.step e).outcomes es

/-- The reader is there, and the identifier has a slot. -/
def Awaits (s : ConcurrentProxy) (id : UInt64) : Prop :=
  s.reading = true ∧ s.proxy.slot? id ≠ none

/-- The body came to the call in a run: in the first reply with the identifier of the call while
that had a slot, which was the slot of the call. -/
structure Replied (s : ConcurrentProxy) (es : List ProxyEvent) (handle : Nat) (c : OutgoingCall)
    (body : Bytes) (before after : List ProxyEvent) : Prop where
  split : es = before ++ .receive ⟨c.id, .reply, body⟩ :: after
  reading : (s.run before).reading = true
  slot : (s.run before).proxy.slot? c.id = some handle
  waiting : (s.run before).proxy.call? handle = some { c with state := .waiting }
  first : ∀ earlier body' between, before = earlier ++ .receive ⟨c.id, .reply, body'⟩ :: between →
    ¬ (s.run earlier).Awaits c.id
  /-- The caller got it later. -/
  taken : (handle, .ok body) ∈
    ((s.run before).step (.receive ⟨c.id, .reply, body⟩)).outcomes after

/-- What a run of a proxy gives to its callers, whatever the peer sends. -/
structure Delivers (s : ConcurrentProxy) (es : List ProxyEvent) : Prop where
  distinct : (s.allotments es).Nodup
  nonzero : 0 ∉ s.allotments es
  /-- The calls have the identifiers that were allotted, each its own. -/
  numbered : ((s.run es).proxy.calls.map (·.id)).Nodup ∧
    ∀ c ∈ (s.run es).proxy.calls, c.id ∈ s.allotments es
  once : ((s.outcomes es).map (·.1)).Nodup
  replied : ∀ handle body, (handle, .ok body) ∈ s.outcomes es →
    ∃ c, (s.run es).proxy.call? handle = some c ∧
      ∃ before after, s.Replied es handle c body before after
  /-- A reply without a slot changes nothing. -/
  stray : ∀ id body, (s.run es).proxy.slot? id = none →
    (s.run es).step (.receive ⟨id, .reply, body⟩) = s.run es

/-! ### Identifiers -/

theorem allotments_eq (s : ConcurrentProxy) (e : ProxyEvent) (es : List ProxyEvent) :
    (∃ body, e = .act (.allot body) ∧
      s.allotments (e :: es) = s.proxy.takeId.1 :: (s.step e).allotments es) ∨
    (∀ body, e ≠ .act (.allot body)) ∧ s.allotments (e :: es) = (s.step e).allotments es := by
  cases e with
  | act a =>
    cases a with
    | allot body => exact .inl ⟨body, rfl, rfl⟩
    | _ => exact .inr ⟨by simp, rfl⟩
  | _ => exact .inr ⟨by simp, rfl⟩

/-- Identifiers grow along a run. -/
theorem allotments_sorted (s : ConcurrentProxy) (es : List ProxyEvent)
    (bound : (s.run es).proxy.issued < 2 ^ 64) :
    (∀ id ∈ s.allotments es, s.proxy.issued < id.toNat) ∧
      (s.allotments es).Pairwise (·.toNat < ·.toNat) := by
  induction es generalizing s with
  | nil => exact ⟨by simp [allotments], .nil⟩
  | cons e es ih =>
    obtain ⟨later, sorted⟩ := ih (s.step e) bound
    have mono := (s.passes_step e).issued
    obtain ⟨body, rfl, eq⟩ | ⟨_, eq⟩ := s.allotments_eq e es
    · have issued : (s.step (.act (.allot body))).proxy.issued = s.proxy.issued + 1 := rfl
      have early := (s.step (.act (.allot body))).issued_le_run es
      rw [run_cons] at bound
      have fresh : s.proxy.takeId.1.toNat = s.proxy.issued + 1 := toNat_takeId (by omega)
      rw [eq]
      refine ⟨?_, List.pairwise_cons.mpr ⟨?_, sorted⟩⟩
      · intro id mem
        obtain rfl | mem := List.mem_cons.mp mem
        · omega
        · have := later id mem
          omega
      · intro id mem
        have := later id mem
        omega
    · rw [eq]
      exact ⟨fun id mem => Nat.lt_of_le_of_lt mono (later id mem), sorted⟩

/-- The identifiers of a run are those at its start and those that were allotted. -/
theorem mem_ids_run (sound : s.Sound) (es : List ProxyEvent)
    (bound : (s.run es).proxy.issued < 2 ^ 64) {id : UInt64} (mem : id ∈ (s.run es).ids) :
    id ∈ s.ids ∨ id ∈ s.allotments es := by
  induction es generalizing s with
  | nil => exact .inl mem
  | cons e es ih =>
    have step := ih (sound.of_run_cons bound) bound mem
    obtain ⟨body, rfl, eq⟩ | ⟨other, eq⟩ := s.allotments_eq e es
    · rw [eq, List.mem_cons]
      obtain old | new := step
      · have ids : (s.step (.act (.allot body))).ids = s.ids ++ [s.proxy.takeId.1] :=
          s.ids_allotted body
        rw [ids, List.mem_append, List.mem_singleton] at old
        exact old.imp_right .inl
      · exact .inr (.inr new)
    · rw [eq]
      obtain ⟨body, allots, _⟩ | old := (sound.changes e).ids
      · exact absurd allots (other body)
      · exact step.imp_left (old id)

/-! ### At most one result -/

/-- A caller gets the result that is there, or that of a wait which is over. -/
theorem outcome?_eq_some {result : CallResult} (given : s.outcome? e = some (handle, result)) :
    ∃ c, s.proxy.call? handle = some c ∧
      (c.state = .answered result ∨ c.state = .waiting ∧ ∃ reason, result = .error reason) ∧
      (s.step e).proxy.call? handle = some { c with state := .resolved result } := by
  unfold outcome? at given
  split at given
  next other =>
    split at given
    · cases given
    next ready =>
      obtain ⟨taken, some, same⟩ := Option.map_eq_some_iff.mp given
      cases same
      obtain ⟨c, result', found, answered, collect⟩ | ⟨_, collect⟩ :=
        s.proxy.collect_cases handle
      · rw [collect] at some
        cases some
        refine ⟨c, found, .inl answered, ?_⟩
        simp only [step, act, if_neg ready, collect]
        rw [Proxy.call?_settle, if_pos rfl, found]
        rfl
      · rw [collect] at some
        cases some
  next other milliseconds =>
    split at given
    · cases given
    next ready =>
      obtain ⟨taken, some, same⟩ := Option.map_eq_some_iff.mp given
      cases same
      obtain ⟨c, found, waits, expire⟩ | expire := s.proxy.expire_cases handle milliseconds
      · rw [expire] at some
        cases some
        refine ⟨c, found, .inr ⟨waits, _, rfl⟩, ?_⟩
        simp only [step, act, if_neg ready, expire]
        rw [Proxy.call?_setState, if_pos rfl, found]
        rfl
      · rw [expire] at some
        cases some
  next => cases given

/-- A call that is resolved has no further result. -/
theorem Sound.not_mem_outcomes (sound : s.Sound) {result : CallResult}
    (found : s.proxy.call? handle = some c) (resolved : c.state = .resolved result)
    (es : List ProxyEvent) (bound : (s.run es).proxy.issued < 2 ^ 64) :
    handle ∉ (s.outcomes es).map (·.1) := by
  induction es generalizing s c with
  | nil => simp [outcomes]
  | cons e es ih =>
    rw [outcomes, List.map_append, List.mem_append, not_or]
    constructor
    · intro mem
      obtain ⟨⟨_, result'⟩, given, rfl⟩ := List.mem_map.mp mem
      obtain ⟨d, found', state, _⟩ := outcome?_eq_some (Option.mem_toList.mp given)
      rw [found] at found'
      cases found'
      simp [resolved] at state
    · obtain ⟨state, found', leads⟩ := (sound.changes e).grows sound handle c found
      rw [resolved] at leads
      exact ih (sound.of_run_cons bound) found' leads.of_resolved bound

/-- Each call has one result at most. -/
theorem Sound.outcomes_once (sound : s.Sound) (es : List ProxyEvent)
    (bound : (s.run es).proxy.issued < 2 ^ 64) : ((s.outcomes es).map (·.1)).Nodup := by
  induction es generalizing s with
  | nil => exact .nil
  | cons e es ih =>
    have sound' := sound.of_run_cons bound
    have rest := ih sound' bound
    rw [outcomes]
    cases given : s.outcome? e with
    | none => exact rest
    | some outcome =>
      obtain ⟨handle, result⟩ := outcome
      obtain ⟨c, _, _, resolved⟩ := outcome?_eq_some given
      exact List.nodup_cons.mpr ⟨sound'.not_mem_outcomes resolved rfl es bound, rest⟩

/-! ### Where a body comes from -/

/-- After a reply to an identifier with a slot, no call with the identifier waits. -/
theorem Sound.ne_waiting_of_reply (sound : s.Sound) {id : UInt64} (awaits : s.Awaits id)
    (body : Bytes) (es : List ProxyEvent)
    (bound : (s.run (.receive ⟨id, .reply, body⟩ :: es)).proxy.issued < 2 ^ 64)
    (found : (s.run (.receive ⟨id, .reply, body⟩ :: es)).proxy.call? handle = some c)
    (same : c.id = id) : c.state ≠ .waiting := by
  obtain ⟨reading, slot⟩ := awaits
  obtain ⟨other, slot⟩ := Option.ne_none_iff_exists'.mp slot
  obtain ⟨d, found', rfl, _⟩ := sound.of_slot? slot
  have received : (s.step (.receive ⟨d.id, .reply, body⟩)).proxy.call? other =
      some { d with state := (d.answer (.ok body)).state } := by
    simp only [step, if_pos reading, Proxy.receive, Proxy.complete_eq_settle body found' slot]
    rw [Proxy.call?_settle, if_pos rfl, found']
    rfl
  have sound' := sound.of_run_cons bound
  obtain ⟨state, found'', leads⟩ := sound'.grows_run es bound other _ received
  have handles := (sound'.run es bound).handle_unique found found'' same
  subst handles
  rw [run_cons, found''] at found
  cases found
  exact leads.ne_waiting (OutgoingCall.state_answer_ne_waiting d _)

/-- A body that a caller gets is there at the start, or comes in a reply to a call that waits. -/
theorem Sound.exists_reply (sound : s.Sound) {body : Bytes} (es : List ProxyEvent)
    (bound : (s.run es).proxy.issued < 2 ^ 64) (mem : (handle, .ok body) ∈ s.outcomes es) :
    (∃ c, s.proxy.call? handle = some c ∧ c.state.result? = some (.ok body)) ∨
    ∃ c before after, es = before ++ .receive ⟨c.id, .reply, body⟩ :: after ∧
      (s.run before).reading = true ∧ (s.run before).proxy.slot? c.id = some handle ∧
      (s.run before).proxy.call? handle = some c ∧ c.state = .waiting ∧
      (handle, .ok body) ∈
        ((s.run before).step (.receive ⟨c.id, .reply, body⟩)).outcomes after := by
  induction es generalizing s with
  | nil => cases mem
  | cons e es ih =>
    have changes := sound.changes e
    rw [outcomes, List.mem_append] at mem
    obtain given | mem := mem
    · obtain ⟨c, found, answered | ⟨_, reason, isError⟩, _⟩ :=
        outcome?_eq_some (Option.mem_toList.mp given)
      · exact .inl ⟨c, found, CallState.result?_eq_some_iff.mpr (.inl answered)⟩
      · cases isError
    · obtain ⟨d, found, has⟩ | ⟨c, before, after, rfl, reply⟩ :=
        ih (sound.of_run_cons bound) bound mem
      · cases present : s.proxy.call? handle with
        | none =>
          have waits := changes.waiting_of_new present found
          rw [waits] at has
          cases has
        | some c =>
          obtain ⟨state, found', fate⟩ := changes.fate sound present
          rw [found] at found'
          cases found'
          obtain before | ⟨rfl, reading, slot, waits⟩ := fate.of_result_ok has
          · exact .inl ⟨c, rfl, before⟩
          · exact .inr ⟨c, [], es, rfl, reading, slot, present, waits, mem⟩
      · exact .inr ⟨c, e :: before, after, rfl, reply⟩

theorem Sound.replied (sound : s.Sound) {body : Bytes} (es : List ProxyEvent)
    (bound : (s.run es).proxy.issued < 2 ^ 64) (begun : s.proxy.calls = [])
    (mem : (handle, .ok body) ∈ s.outcomes es) :
    ∃ c, (s.run es).proxy.call? handle = some c ∧
      ∃ before after, s.Replied es handle c body before after := by
  obtain ⟨c, found, _⟩ | ⟨c, before, after, split, reading, slot, found, waits, taken⟩ :=
    sound.exists_reply es bound mem
  · rw [Proxy.call?, begun] at found
    cases found
  · have whole : s.run es = (s.run before).run (.receive ⟨c.id, .reply, body⟩ :: after) := by
      rw [split, run_append]
    rw [whole] at bound
    have early := Nat.lt_of_le_of_lt ((s.run before).issued_le_run _) bound
    obtain ⟨state, found', _⟩ := (sound.run before early).grows_run _ bound handle c found
    refine ⟨{ c with state := state }, whole ▸ found', before, after,
      ⟨split, reading, slot, ?_, ?_, taken⟩⟩
    · rw [found, ← waits]
    · rintro earlier body' between rfl awaits
      rw [run_append] at early found
      have begin := Nat.lt_of_le_of_lt ((s.run earlier).issued_le_run _) early
      exact (sound.run earlier begin).ne_waiting_of_reply awaits body' between early found rfl
        waits

/-- A reply without a slot is dropped. -/
theorem step_stray {id : UInt64} (none : s.proxy.slot? id = none) (body : Bytes) :
    s.step (.receive ⟨id, .reply, body⟩) = s := by
  have same : s.proxy.receive ⟨id, .reply, body⟩ = s.proxy :=
    Proxy.complete_of_slot?_eq_none none body
  simp only [step, same]
  split <;> rfl

/-- Whatever the peer sends, callers get the results that are theirs. -/
theorem delivers_run (name : String) (callTimeout : Option Nat) (maxFrameLength : Nat)
    (handler : Option CallHandler) (es : List ProxyEvent)
    (bound : (run { proxy := Proxy.attached name callTimeout maxFrameLength handler }
      es).proxy.issued < 2 ^ 64 - 1) :
    Delivers { proxy := Proxy.attached name callTimeout maxFrameLength handler } es := by
  have start := Sound.attached name callTimeout maxFrameLength handler
  have within := Nat.lt_of_lt_of_le bound (Nat.sub_le _ 1)
  obtain ⟨later, sorted⟩ := allotments_sorted _ es within
  refine ⟨?_, ?_, ⟨(start.run es within).calls_unique, ?_⟩, start.outcomes_once es within, ?_, ?_⟩
  · exact sorted.imp fun less same => by simp [same] at less
  · intro zero
    have positive := later 0 zero
    cases positive
  · intro c mem
    obtain none | allotted := mem_ids_run start es within (mem_ids_of_mem_calls mem)
    · simp [ids, Proxy.attached] at none
    · exact allotted
  · intro handle body mem
    exact start.replied es within rfl mem
  · intro id body none
    exact step_stray none body

/-- Two calls; the first has a stray reply before its own and another one after it, the second one
that comes too late. -/
def lateReplies : List ProxyEvent :=
  [.act (.allot [1]), .act (.register 1 [1]), .act (.send 0 false), .act (.allot [2]),
    .act (.register 2 [2]), .act (.send 1 false), .receive ⟨9, .reply, [6]⟩,
    .receive ⟨1, .reply, [7]⟩, .receive ⟨1, .reply, [8]⟩, .act (.expire 1 5),
    .receive ⟨2, .reply, [9]⟩, .act (.release 1), .act (.collect 0)]

theorem delivers_run_lateReplies :
    outcomes { proxy := Proxy.attached "a" none 16 none } lateReplies =
        [(1, .error (.timedOut 2 5)), (0, .ok [7])] ∧
      Delivers { proxy := Proxy.attached "a" none 16 none } lateReplies :=
  ⟨rfl, delivers_run "a" none 16 none lateReplies (by decide)⟩

end ConcurrentProxy

end ApiGateway
