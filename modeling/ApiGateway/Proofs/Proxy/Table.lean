import ApiGateway.Proofs.Proxy.Concurrent
import Mathlib.Data.List.Perm.Basic

/-
The table of outstanding calls of a proxy among concurrent tasks.

An event leaves the table alone, or it allots an identifier, registers a call, settles one, ends the
wait for one, gives a slot back or closes the table. Identifiers of 64 bits come around again; as
long as they do not, the slots of an open table are those of the calls that wait, and those that are
still to be given back.

* `ConcurrentProxy.Changes` - what an event can do to the table (`Sound.changes`), and most events
  whatever the identifiers (`changes_or`).
* `ConcurrentProxy.Sound` - the invariant of the table; `Changes.sound`, `Sound.run` - it is kept.
* `ConcurrentProxy.Fate` - what an event does to one call (`Changes.fate`).
* `ConcurrentProxy.Grows` - calls are never forgotten and go their way (`Sound.grows_run`).
-/

namespace ApiGateway

namespace ConcurrentProxy

variable {s t : ConcurrentProxy} {e : ProxyEvent} {c : OutgoingCall} {handle : Nat}

/-! ### Changes -/

/-- The event ends the stream for a reason. -/
def ends (s : ConcurrentProxy) (e : ProxyEvent) (reason : ProxyError) : Prop :=
  e = .act (.close reason) ∨ e = .stop reason ∧ s.reading = true

/-- The event brings a call to a state and frees its slot. -/
inductive Settles (s : ConcurrentProxy) (handle : Nat) (c : OutgoingCall) :
    ProxyEvent → CallState → Prop where
  | replied {body : Bytes} (reading : s.reading = true) (slot : s.proxy.slot? c.id = some handle)
      (waits : c.state = .waiting) :
      Settles s handle c (.receive ⟨c.id, .reply, body⟩) (.answered (.ok body))
  /-- The reply comes when nobody waits, and before the slot is given back. -/
  | late {body : Bytes} (reading : s.reading = true) (slot : s.proxy.slot? c.id = some handle)
      (done : c.state ≠ .waiting) :
      Settles s handle c (.receive ⟨c.id, .reply, body⟩) c.state
  | collected {result : CallResult} (answered : c.state = .answered result) :
      Settles s handle c (.act (.collect handle)) (.resolved result)
  | abandoned (unresolved : ∀ result, c.state ≠ .resolved result) :
      Settles s handle c (.act (.abandon handle)) .abandoned
  | retracted (unresolved : ∀ result, c.state ≠ .resolved result) :
      Settles s handle c (.act (.retract handle)) .abandoned

/-- The table stays. An identifier that was allotted may be given up. -/
structure Quiet (s t : ConcurrentProxy) : Prop where
  table : s.proxy.KeepsTable t.proxy
  allotted : t.allotted.Sublist s.allotted
  expired : t.expired = s.expired
  reading : t.reading = s.reading

/-- What an event can do to the table. -/
inductive Changes (s : ConcurrentProxy) : ProxyEvent → ConcurrentProxy → Prop where
  | quiet {e : ProxyEvent} {t : ConcurrentProxy} (same : s.Quiet t) : Changes s e t
  | allotted (body : Bytes) :
      Changes s (.act (.allot body))
        { s with
          proxy := s.proxy.takeId.2
          allotted := s.allotted ++ [(s.proxy.takeId.1, body)] }
  | registered {id : UInt64} {body : Bytes} (mem : (id, body) ∈ s.allotted)
      (isOpen : s.proxy.closed = false) :
      Changes s (.act (.register id body))
        { s with
          proxy := s.proxy.enter id body
          allotted := s.allotted.erase (id, body)
          registered := s.registered ++ [s.proxy.calls.length] }
  | settled {e : ProxyEvent} {handle : Nat} {c : OutgoingCall} {state : CallState}
      {unsent : List Nat} (found : s.proxy.call? handle = some c)
      (settles : s.Settles handle c e state) :
      Changes s e { s with proxy := s.proxy.settle handle c state, unsent := unsent }
  | expired {handle milliseconds : Nat} {c : OutgoingCall}
      (found : s.proxy.call? handle = some c) (waits : c.state = .waiting) :
      Changes s (.act (.expire handle milliseconds))
        { s with
          proxy := s.proxy.setState handle (.resolved (.error (.timedOut c.id milliseconds)))
          expired := s.expired ++ [handle] }
  | released {handle : Nat} {c : OutgoingCall} (found : s.proxy.call? handle = some c)
      (mem : handle ∈ s.expired) :
      Changes s (.act (.release handle))
        { s with proxy := s.proxy.freeSlot c.id, expired := s.expired.erase handle }
  | closed {e : ProxyEvent} {reason : ProxyError} {alive reading : Bool}
      (ends : s.ends e reason) :
      Changes s e
        { s with proxy := { s.proxy.close reason with alive := alive }, reading := reading }

/-! ### The invariant -/

/-- The identifiers of the calls, begun or about to begin. -/
def ids (s : ConcurrentProxy) : List UInt64 :=
  s.proxy.calls.map (·.id) ++ s.allotted.map (·.1)

theorem mem_ids_of_mem_calls (mem : c ∈ s.proxy.calls) : c.id ∈ s.ids :=
  List.mem_append_left _ (List.mem_map_of_mem (f := (·.id)) mem)

structure Sound (s : ConcurrentProxy) : Prop where
  unique : s.ids.Nodup
  /-- Identifiers come from the counter, which has not come around. -/
  issued : ∀ id ∈ s.ids, 0 < id.toNat ∧ id.toNat ≤ s.proxy.issued
  slotsUnique : (s.proxy.slots.map (·.1)).Nodup
  /-- A slot is that of a call that waits or that nobody waits for any more. -/
  slot : ∀ id handle, (id, handle) ∈ s.proxy.slots →
    ∃ c, s.proxy.call? handle = some c ∧ c.id = id ∧ (c.state = .waiting ∨ handle ∈ s.expired)
  waiting : ∀ handle c, s.proxy.call? handle = some c → c.state = .waiting →
    (c.id, handle) ∈ s.proxy.slots
  expired : ∀ handle ∈ s.expired, ∃ c, s.proxy.call? handle = some c ∧ c.state ≠ .waiting

theorem Sound.calls_unique (sound : s.Sound) : (s.proxy.calls.map (·.id)).Nodup :=
  (List.nodup_append.mp sound.unique).1

/-- A handle is determined by the identifier of its call. -/
theorem Sound.handle_unique (sound : s.Sound) {other : Nat} {d : OutgoingCall}
    (found : s.proxy.call? handle = some c) (found' : s.proxy.call? other = some d)
    (same : c.id = d.id) : handle = other := by
  obtain ⟨bound, rfl⟩ := Proxy.call?_eq_some_iff.mp found
  obtain ⟨bound', rfl⟩ := Proxy.call?_eq_some_iff.mp found'
  have unique := sound.calls_unique
  rw [List.nodup_iff_injective_getElem] at unique
  have inj := @unique ⟨handle, by simpa using bound⟩ ⟨other, by simpa using bound'⟩
    (by simpa using same)
  exact congrArg Fin.val inj

theorem Sound.of_slot? (sound : s.Sound) {id : UInt64} (slot : s.proxy.slot? id = some handle) :
    ∃ c, s.proxy.call? handle = some c ∧ c.id = id ∧
      (c.state = .waiting ∨ handle ∈ s.expired) :=
  sound.slot id handle (Proxy.mem_slots_of_slot? slot)

/-- An identifier that is only allotted has no slot. -/
theorem Sound.slot?_of_mem_allotted (sound : s.Sound) {id : UInt64} {body : Bytes}
    (mem : (id, body) ∈ s.allotted) : s.proxy.slot? id = none := by
  cases slot : s.proxy.slot? id with
  | none => rfl
  | some handle =>
    obtain ⟨c, found, same, _⟩ := sound.of_slot? slot
    obtain ⟨_, _, apart⟩ := List.nodup_append.mp sound.unique
    have call : id ∈ s.proxy.calls.map (·.id) :=
      same ▸ List.mem_map_of_mem (Proxy.mem_calls_of_call? found)
    have allotted : id ∈ s.allotted.map (·.1) := List.mem_map_of_mem (f := Prod.fst) mem
    exact absurd rfl (apart id call id allotted)

/-! ### Every event is a change -/

theorem Quiet.refl (s : ConcurrentProxy) : s.Quiet s := ⟨.refl _, .refl _, rfl, rfl⟩

/-- The table stays when only the proxy changes and keeps it. -/
theorem Quiet.of_keepsTable {p : Proxy} (table : s.proxy.KeepsTable p) :
    s.Quiet { s with proxy := p } :=
  ⟨table, .refl _, rfl, rfl⟩

theorem changes_register (sound : s.Sound) (id : UInt64) (body : Bytes) :
    s.Changes (.act (.register id body)) (s.act (.register id body)) := by
  by_cases mem : (id, body) ∈ s.allotted
  · cases closed : s.proxy.closed with
    | true =>
      simp only [act, if_pos mem, Proxy.register_of_closed closed]
      exact .quiet ⟨.refl _, List.erase_sublist, rfl, rfl⟩
    | false =>
      have fresh := sound.slot?_of_mem_allotted mem
      simp only [act, if_pos mem, Proxy.register_of_fresh closed fresh]
      exact .registered mem closed
  · simp only [act, if_neg mem]
    exact .quiet (.refl s)

theorem changes_send (s : ConcurrentProxy) (handle : Nat) (late : Bool) :
    s.Changes (.act (.send handle late)) (s.act (.send handle late)) := by
  apply Changes.quiet
  simp only [act]
  split
  · split
    · exact .refl s
    next c _ =>
      have kept := s.proxy.keepsTable_queue late ⟨c.id, .call, c.body⟩
      split
      next sent => exact ⟨by simpa [sent] using kept, .refl _, rfl, rfl⟩
      next sent => exact ⟨by simpa [sent] using kept, .refl _, rfl, rfl⟩
  · exact .refl s

theorem changes_retract (s : ConcurrentProxy) (handle : Nat) :
    s.Changes (.act (.retract handle)) (s.act (.retract handle)) := by
  simp only [act]
  split
  · obtain ⟨c, found, unresolved, abandon⟩ | abandon := s.proxy.abandon_cases handle
    · rw [abandon]
      exact .settled found (.retracted unresolved)
    · rw [abandon]
      exact .quiet ⟨.refl _, .refl _, rfl, rfl⟩
  · exact .quiet (.refl s)

theorem changes_collect (s : ConcurrentProxy) (handle : Nat) :
    s.Changes (.act (.collect handle)) (s.act (.collect handle)) := by
  simp only [act]
  split
  · exact .quiet (.refl s)
  · obtain ⟨c, result, found, answered, collect⟩ | ⟨_, collect⟩ := s.proxy.collect_cases handle
    · rw [collect]
      exact .settled found (.collected answered)
    · rw [collect]
      exact .quiet (.refl s)

theorem changes_expire (s : ConcurrentProxy) (handle milliseconds : Nat) :
    s.Changes (.act (.expire handle milliseconds)) (s.act (.expire handle milliseconds)) := by
  simp only [act]
  split
  · exact .quiet (.refl s)
  · obtain ⟨c, found, waits, expire⟩ | expire := s.proxy.expire_cases handle milliseconds
    · rw [expire]
      exact .expired found waits
    · rw [expire]
      exact .quiet (.refl s)

theorem changes_release (sound : s.Sound) (handle : Nat) :
    s.Changes (.act (.release handle)) (s.act (.release handle)) := by
  simp only [act]
  split
  next mem =>
    obtain ⟨c, found, _⟩ := sound.expired handle mem
    have released : s.proxy.release handle = s.proxy.freeSlot c.id := by
      simp only [Proxy.release, found]
    rw [released]
    exact .released found mem
  next => exact .quiet (.refl s)

theorem changes_abandon (s : ConcurrentProxy) (handle : Nat) :
    s.Changes (.act (.abandon handle)) (s.act (.abandon handle)) := by
  simp only [act]
  split
  · exact .quiet (.refl s)
  · obtain ⟨c, found, unresolved, abandon⟩ | abandon := s.proxy.abandon_cases handle
    · rw [abandon]
      exact .settled found (.abandoned unresolved)
    · rw [abandon]
      exact .quiet (.refl s)

theorem changes_receive (sound : s.Sound) (f : Frame) :
    s.Changes (.receive f) (s.step (.receive f)) := by
  obtain ⟨id, kind, body⟩ := f
  by_cases reading : s.reading = true
  · simp only [step, if_pos reading]
    cases kind with
    | call => exact .quiet (.of_keepsTable ⟨rfl, rfl, rfl, rfl, Nat.le_refl _⟩)
    | reply =>
      cases slot : s.proxy.slot? id with
      | none =>
        have same : s.proxy.receive ⟨id, .reply, body⟩ = s.proxy :=
          Proxy.complete_of_slot?_eq_none slot body
        rw [same]
        exact .quiet (.refl s)
      | some handle =>
        obtain ⟨c, found, rfl, _⟩ := sound.of_slot? slot
        have settled : s.proxy.receive ⟨c.id, .reply, body⟩ =
            s.proxy.settle handle c (c.answer (.ok body)).state :=
          Proxy.complete_eq_settle body found slot
        rw [settled]
        by_cases waits : c.state = .waiting
        · rw [OutgoingCall.answer_of_waiting waits]
          exact .settled found (.replied reading slot waits)
        · rw [OutgoingCall.answer_of_ne_waiting waits]
          exact .settled found (.late reading slot waits)
  · simp only [step, if_neg reading]
    exact .quiet (.refl s)

/-- Whatever the identifiers, each event but three kinds is one of the changes. -/
theorem changes_or (s : ConcurrentProxy) (e : ProxyEvent) :
    (∃ id body, e = .act (.register id body)) ∨ (∃ handle, e = .act (.release handle)) ∨
      (∃ f, e = .receive f) ∨ s.Changes e (s.step e) := by
  cases e with
  | act a =>
    cases a with
    | register id body => exact .inl ⟨id, body, rfl⟩
    | release handle => exact .inr (.inl ⟨handle, rfl⟩)
    | allot body => exact .inr (.inr (.inr (.allotted body)))
    | send handle late => exact .inr (.inr (.inr (s.changes_send handle late)))
    | retract handle => exact .inr (.inr (.inr (s.changes_retract handle)))
    | collect handle => exact .inr (.inr (.inr (s.changes_collect handle)))
    | expire handle milliseconds =>
      exact .inr (.inr (.inr (s.changes_expire handle milliseconds)))
    | abandon handle => exact .inr (.inr (.inr (s.changes_abandon handle)))
    | reply self position registry late =>
      have kept := s.proxy.keepsTable_reply self position registry late
      exact .inr (.inr (.inr (.quiet (.of_keepsTable kept))))
    | close reason => exact .inr (.inr (.inr (.closed (.inl rfl))))
    | die =>
      exact .inr (.inr (.inr (.quiet (.of_keepsTable ⟨rfl, rfl, rfl, rfl, Nat.le_refl _⟩))))
  | enqueue f late =>
    exact .inr (.inr (.inr (.quiet (.of_keepsTable (s.proxy.keepsTable_queue late f)))))
  | receive f => exact .inr (.inr (.inl ⟨f, rfl⟩))
  | load => exact .inr (.inr (.inr (.quiet (.of_keepsTable ⟨rfl, rfl, rfl, rfl, Nat.le_refl _⟩))))
  | stop reason =>
    refine .inr (.inr (.inr ?_))
    simp only [step]
    split
    next reading => exact .closed (.inr ⟨rfl, reading⟩)
    next => exact .quiet (.refl s)

/-- Each event is one of the changes. -/
theorem Sound.changes (sound : s.Sound) (e : ProxyEvent) : s.Changes e (s.step e) := by
  obtain ⟨id, body, rfl⟩ | ⟨handle, rfl⟩ | ⟨f, rfl⟩ | changes := s.changes_or e
  · exact changes_register sound id body
  · exact changes_release sound handle
  · exact changes_receive sound f
  · exact changes

/-! ### The changes keep the invariant -/

theorem ids_congr (calls : t.proxy.calls.map (·.id) = s.proxy.calls.map (·.id))
    (allotted : t.allotted = s.allotted) : t.ids = s.ids := by
  unfold ids
  rw [calls, allotted]

theorem mem_ids_congr (calls : t.proxy.calls.map (·.id) = s.proxy.calls.map (·.id))
    (allotted : t.allotted = s.allotted) : ∀ id ∈ t.ids, id ∈ s.ids := by
  rw [ids_congr calls allotted]
  exact fun _ => id

theorem Sound.unique_congr (sound : s.Sound)
    (calls : t.proxy.calls.map (·.id) = s.proxy.calls.map (·.id))
    (allotted : t.allotted = s.allotted) : t.ids.Nodup := by
  rw [ids_congr calls allotted]
  exact sound.unique

theorem Sound.issued_congr (sound : s.Sound)
    (calls : t.proxy.calls.map (·.id) = s.proxy.calls.map (·.id))
    (allotted : t.allotted = s.allotted) (issued : t.proxy.issued = s.proxy.issued) :
    ∀ id ∈ t.ids, 0 < id.toNat ∧ id.toNat ≤ t.proxy.issued := by
  rw [ids_congr calls allotted, issued]
  exact sound.issued

theorem Quiet.ids_sublist (same : s.Quiet t) : t.ids.Sublist s.ids := by
  unfold ids
  rw [same.table.calls]
  exact (List.Sublist.refl _).append (same.allotted.map _)

theorem Sound.quiet (sound : s.Sound) (same : s.Quiet t) : t.Sound where
  unique := same.ids_sublist.nodup sound.unique
  issued := by
    intro id mem
    obtain ⟨positive, bound⟩ := sound.issued id (same.ids_sublist.mem mem)
    exact ⟨positive, Nat.le_trans bound same.table.issued⟩
  slotsUnique := same.table.slots ▸ sound.slotsUnique
  slot := by
    intro id handle mem
    rw [same.table.slots] at mem
    rw [same.table.call?, same.expired]
    exact sound.slot id handle mem
  waiting := by
    intro handle c found waits
    rw [same.table.call?] at found
    rw [same.table.slots]
    exact sound.waiting handle c found waits
  expired := by
    intro handle mem
    rw [same.expired] at mem
    rw [same.table.call?]
    exact sound.expired handle mem

theorem toNat_takeId {p : Proxy} (bound : p.issued + 1 < 2 ^ 64) :
    p.takeId.1.toNat = p.issued + 1 :=
  UInt64.toNat_ofNat_of_lt' bound

theorem ids_allotted (s : ConcurrentProxy) (body : Bytes) :
    ids { s with
      proxy := s.proxy.takeId.2
      allotted := s.allotted ++ [(s.proxy.takeId.1, body)] } = s.ids ++ [s.proxy.takeId.1] := by
  simp [ids, Proxy.takeId]

theorem Sound.allotted (sound : s.Sound) (body : Bytes) (bound : s.proxy.issued + 1 < 2 ^ 64) :
    Sound { s with
      proxy := s.proxy.takeId.2
      allotted := s.allotted ++ [(s.proxy.takeId.1, body)] } := by
  have fresh := toNat_takeId bound
  have ids := s.ids_allotted body
  refine ⟨?_, ?_, sound.slotsUnique, sound.slot, sound.waiting, sound.expired⟩
  · rw [ids, List.nodup_append]
    refine ⟨sound.unique, List.nodup_singleton _, ?_⟩
    intro id mem id' mem' same
    rw [List.mem_singleton.mp mem'] at same
    have old := (sound.issued id mem).2
    rw [same, fresh] at old
    omega
  · intro id mem
    rw [ids, List.mem_append, List.mem_singleton] at mem
    show 0 < id.toNat ∧ id.toNat ≤ s.proxy.issued + 1
    obtain old | rfl := mem
    · have old := sound.issued id old
      omega
    · omega

/-- A call that is registered brings the identifier that was allotted. -/
theorem ids_registered {id : UInt64} {body : Bytes} (mem : (id, body) ∈ s.allotted) :
    (ids { s with
      proxy := s.proxy.enter id body
      allotted := s.allotted.erase (id, body)
      registered := s.registered ++ [s.proxy.calls.length] }).Perm s.ids := by
  have allotted := ((List.perm_cons_erase mem).map Prod.fst).symm
  simpa [ids, Proxy.enter] using allotted.append_left (s.proxy.calls.map (·.id))

theorem Sound.registered (sound : s.Sound) {id : UInt64} {body : Bytes}
    (mem : (id, body) ∈ s.allotted) :
    Sound { s with
      proxy := s.proxy.enter id body
      allotted := s.allotted.erase (id, body)
      registered := s.registered ++ [s.proxy.calls.length] } := by
  have ids := s.ids_registered mem
  refine ⟨ids.nodup_iff.mpr sound.unique, fun other mem' => sound.issued other (ids.mem_iff.mp mem'),
    ?_, ?_, ?_, ?_⟩
  · have unused := Proxy.slot?_eq_none_iff.mp (sound.slot?_of_mem_allotted mem)
    simp only [Proxy.enter, List.map_append, List.map_cons, List.map_nil, List.nodup_append]
    refine ⟨sound.slotsUnique, List.nodup_singleton _, ?_⟩
    intro other mem' id' same' same
    rw [List.mem_singleton.mp same'] at same
    exact unused (same ▸ mem')
  · intro other handle mem'
    obtain mem' | ⟨rfl, rfl⟩ := Proxy.mem_slots_enter.mp mem'
    · obtain ⟨c, found, same, state⟩ := sound.slot other handle mem'
      exact ⟨c, Proxy.call?_enter.mpr (.inl found), same, state⟩
    · exact ⟨_, Proxy.call?_enter.mpr (.inr ⟨rfl, rfl⟩), rfl, .inl rfl⟩
  · intro handle c found waits
    rw [Proxy.mem_slots_enter]
    obtain found | ⟨rfl, rfl⟩ := Proxy.call?_enter.mp found
    · exact .inl (sound.waiting handle c found waits)
    · exact .inr ⟨rfl, rfl⟩
  · intro handle mem'
    obtain ⟨c, found, done⟩ := sound.expired handle mem'
    exact ⟨c, Proxy.call?_enter.mpr (.inl found), done⟩

/-- A call that comes to its end and frees its slot; its wait may be over, or be over now. -/
theorem Sound.settled (sound : s.Sound) (found : s.proxy.call? handle = some c)
    {state : CallState} (done : state ≠ .waiting) (unsent : List Nat) :
    Sound { s with proxy := s.proxy.settle handle c state, unsent := unsent } where
  unique := sound.unique_congr (Proxy.map_id_setState _ _ _) rfl
  issued := sound.issued_congr (Proxy.map_id_setState _ _ _) rfl rfl
  slotsUnique := (List.filter_sublist.map _).nodup sound.slotsUnique
  slot := by
    intro id other mem
    obtain ⟨mem, kept⟩ := Proxy.mem_slots_settle.mp mem
    obtain ⟨d, found', rfl, state'⟩ := sound.slot id other mem
    refine ⟨d, ?_, rfl, state'⟩
    rw [Proxy.call?_settle, if_neg]
    · exact found'
    · rintro rfl
      rw [found] at found'
      cases found'
      exact kept rfl
  waiting := by
    intro other d found' waits
    rw [Proxy.call?_settle] at found'
    split at found'
    next same =>
      subst same
      rw [found] at found'
      cases found'
      exact absurd waits done
    next apart =>
      refine Proxy.mem_slots_settle.mpr ⟨sound.waiting other d found' waits, ?_⟩
      intro same
      exact apart (sound.handle_unique found found' same.symm)
  expired := by
    intro other mem
    obtain ⟨d, found', done'⟩ := sound.expired other mem
    rw [Proxy.call?_settle]
    split
    next same =>
      subst same
      exact ⟨{ d with state := state }, by rw [found']; rfl, done⟩
    next => exact ⟨d, found', done'⟩

/-- A wait is over: the slot stays until it is given back. -/
theorem Sound.expired_append (sound : s.Sound) (found : s.proxy.call? handle = some c)
    {state : CallState} (done : state ≠ .waiting) :
    Sound { s with proxy := s.proxy.setState handle state, expired := s.expired ++ [handle] } where
  unique := sound.unique_congr (Proxy.map_id_setState _ _ _) rfl
  issued := sound.issued_congr (Proxy.map_id_setState _ _ _) rfl rfl
  slotsUnique := sound.slotsUnique
  slot := by
    intro id other mem
    obtain ⟨d, found', same, state'⟩ := sound.slot id other mem
    rw [Proxy.call?_setState]
    split
    next same =>
      subst same
      exact ⟨{ d with state := state }, by rw [found']; rfl, ‹_›, .inr (by simp)⟩
    next => exact ⟨d, found', same, state'.imp_right (List.mem_append_left _)⟩
  waiting := by
    intro other d found' waits
    rw [Proxy.call?_setState] at found'
    split at found'
    next same =>
      subst same
      rw [found] at found'
      cases found'
      exact absurd waits done
    next => exact sound.waiting other d found' waits
  expired := by
    intro other mem
    rw [Proxy.call?_setState]
    split
    next same =>
      subst same
      exact ⟨{ c with state := state }, by rw [found]; rfl, done⟩
    next apart =>
      rw [List.mem_append, List.mem_singleton] at mem
      obtain mem | rfl := mem
      · exact sound.expired other mem
      · exact absurd rfl apart

/-- Without a slot there is nothing left to give back. -/
theorem Sound.expired_erase (sound : s.Sound) (free : ∀ id, (id, handle) ∉ s.proxy.slots) :
    Sound { s with expired := s.expired.erase handle } where
  unique := sound.unique
  issued := sound.issued
  slotsUnique := sound.slotsUnique
  slot := by
    intro id other mem
    obtain ⟨d, found, same, state⟩ := sound.slot id other mem
    refine ⟨d, found, same, state.imp_right ?_⟩
    intro expired
    refine (List.mem_erase_of_ne ?_).mpr expired
    rintro rfl
    exact free id mem
  waiting := sound.waiting
  expired := fun other mem => sound.expired other (List.mem_of_mem_erase mem)

theorem Sound.released (sound : s.Sound) (found : s.proxy.call? handle = some c)
    (mem : handle ∈ s.expired) :
    Sound { s with proxy := s.proxy.freeSlot c.id, expired := s.expired.erase handle } := by
  obtain ⟨d, found', done⟩ := sound.expired handle mem
  rw [found] at found'
  cases found'
  have settled := sound.settled found done s.unsent
  have same : s.proxy.settle handle c c.state = s.proxy.freeSlot c.id :=
    Proxy.setState_self (p := s.proxy.freeSlot c.id) found
  rw [same] at settled
  refine settled.expired_erase ?_
  intro id slot
  obtain ⟨slot, apart⟩ := Proxy.mem_slots_freeSlot.mp slot
  obtain ⟨d, found', rfl, _⟩ := sound.slot id handle slot
  rw [found] at found'
  cases found'
  exact apart rfl

/-- The end answers every call that waits. -/
theorem Sound.call?_close (sound : s.Sound) (found : s.proxy.call? handle = some c)
    (reason : ProxyError) :
    (s.proxy.close reason).call? handle = some (c.answer (.error reason)) := by
  rw [Proxy.call?_close, found, Option.map_some]
  split
  · rfl
  next free =>
    rw [OutgoingCall.answer_of_ne_waiting]
    intro waits
    exact free (List.mem_map_of_mem (f := Prod.snd) (sound.waiting handle c found waits))

/-- A call that does not wait is left by the end. -/
theorem call?_close_of_done (found : s.proxy.call? handle = some c) (done : c.state ≠ .waiting)
    (reason : ProxyError) :
    (s.proxy.close reason).call? handle = some (c.answer (.error reason)) := by
  rw [Proxy.call?_close, found, Option.map_some, OutgoingCall.answer_of_ne_waiting done, ite_self]

theorem Sound.close (sound : s.Sound) (reason : ProxyError) (alive reading : Bool) :
    Sound { s with
      proxy := { s.proxy.close reason with alive := alive }
      reading := reading } where
  unique := sound.unique_congr (s.proxy.map_id_close reason) rfl
  issued := sound.issued_congr (s.proxy.map_id_close reason) rfl (s.proxy.issued_close reason)
  slotsUnique := List.nodup_nil
  slot := by
    intro id other mem
    cases mem
  waiting := by
    intro other d found waits
    replace found : (s.proxy.close reason).call? other = some d := found
    have before := found
    rw [Proxy.call?_close] at before
    obtain ⟨c, found', _⟩ := Option.map_eq_some_iff.mp before
    rw [sound.call?_close found' reason, Option.some.injEq] at found
    subst found
    exact absurd waits (OutgoingCall.state_answer_ne_waiting c _)
  expired := by
    intro other mem
    obtain ⟨c, found, _⟩ := sound.expired other mem
    exact ⟨_, sound.call?_close found reason, OutgoingCall.state_answer_ne_waiting c _⟩

theorem Settles.ne_waiting {state : CallState} (settles : s.Settles handle c e state) :
    state ≠ .waiting := by
  cases settles with
  | replied => simp
  | late _ _ done => exact done
  | collected => simp
  | abandoned => simp
  | retracted => simp

theorem Changes.sound (changes : s.Changes e t) (sound : s.Sound)
    (bound : t.proxy.issued < 2 ^ 64) : t.Sound := by
  cases changes with
  | quiet same => exact sound.quiet same
  | allotted body => exact sound.allotted body bound
  | registered mem isOpen => exact sound.registered mem
  | settled found settles => exact sound.settled found settles.ne_waiting _
  | expired found waits => exact sound.expired_append found (by simp)
  | released found mem => exact sound.released found mem
  | closed => exact sound.close _ _ _

/-- Only an identifier that is allotted is new. -/
theorem Changes.ids (changes : s.Changes e t) :
    (∃ body, e = .act (.allot body) ∧ t.ids = s.ids ++ [s.proxy.takeId.1]) ∨
    ∀ id ∈ t.ids, id ∈ s.ids := by
  cases changes with
  | quiet same => exact .inr fun id mem => same.ids_sublist.mem mem
  | allotted body => exact .inl ⟨body, rfl, s.ids_allotted body⟩
  | registered mem => exact .inr fun id mem' => (ids_registered mem).mem_iff.mp mem'
  | settled | expired => exact .inr (mem_ids_congr (Proxy.map_id_setState _ _ _) rfl)
  | released => exact .inr (mem_ids_congr rfl rfl)
  | @closed _ reason => exact .inr (mem_ids_congr (s.proxy.map_id_close reason) rfl)

/-! ### Calls go their way -/

/-- No call is forgotten, and each goes its way. -/
def Grows (s t : ConcurrentProxy) : Prop :=
  ∀ handle c, s.proxy.call? handle = some c →
    ∃ state, t.proxy.call? handle = some { c with state := state } ∧ c.state.LeadsTo state

theorem Grows.refl (s : ConcurrentProxy) : s.Grows s :=
  fun _ c found => ⟨c.state, found, .refl _⟩

theorem Grows.trans {u : ConcurrentProxy} (first : s.Grows t) (second : t.Grows u) :
    s.Grows u := by
  intro handle c found
  obtain ⟨state, found, leads⟩ := first handle c found
  obtain ⟨state', found, leads'⟩ := second handle _ found
  exact ⟨state', found, leads.trans leads'⟩

/-- What an event does to one call. -/
inductive Fate (s : ConcurrentProxy) (handle : Nat) (c : OutgoingCall) :
    ProxyEvent → CallState → Prop where
  | kept {e : ProxyEvent} : Fate s handle c e c.state
  | settled {e : ProxyEvent} {state : CallState} (settles : s.Settles handle c e state) :
      Fate s handle c e state
  | expired {milliseconds : Nat} (waits : c.state = .waiting) :
      Fate s handle c (.act (.expire handle milliseconds))
        (.resolved (.error (.timedOut c.id milliseconds)))
  | failed {e : ProxyEvent} {reason : ProxyError} (ends : s.ends e reason)
      (waits : c.state = .waiting) : Fate s handle c e (.answered (.error reason))

theorem Settles.leadsTo {state : CallState} (settles : s.Settles handle c e state) :
    c.state.LeadsTo state := by
  cases settles with
  | replied _ _ waits => rw [waits]; exact .leave _
  | late => exact .refl _
  | collected answered => rw [answered]; exact .collect _
  | abandoned unresolved | retracted unresolved =>
    cases state : c.state with
    | waiting => exact .leave _
    | answered => exact .drop _
    | resolved result => exact absurd state (unresolved result)
    | abandoned => exact .refl _

theorem Fate.leadsTo {state : CallState} (fate : s.Fate handle c e state) :
    c.state.LeadsTo state := by
  cases fate with
  | kept => exact .refl _
  | settled settles => exact settles.leadsTo
  | expired waits => rw [waits]; exact .leave _
  | failed _ waits => rw [waits]; exact .leave _

/-- A call comes to a body by a reply only. -/
theorem Fate.of_result_ok {body : Bytes} {state : CallState} (fate : s.Fate handle c e state)
    (result : state.result? = some (.ok body)) :
    c.state.result? = some (.ok body) ∨ e = .receive ⟨c.id, .reply, body⟩ ∧ s.reading = true ∧
      s.proxy.slot? c.id = some handle ∧ c.state = .waiting := by
  cases fate with
  | kept => exact .inl result
  | settled settles =>
    cases settles with
    | replied reading slot waits =>
      cases result
      exact .inr ⟨rfl, reading, slot, waits⟩
    | late => exact .inl result
    | collected answered => exact .inl (by rw [answered]; exact result)
    | abandoned => cases result
    | retracted => cases result
  | expired => cases result
  | failed => cases result

/-- A result that is there stays until the handle is dropped. -/
theorem Fate.result_eq {state : CallState} {result : CallResult}
    (fate : s.Fate handle c e state) (has : c.state.result? = some result)
    (kept : e ≠ .act (.abandon handle)) (sent : e ≠ .act (.retract handle)) :
    state.result? = some result := by
  cases fate with
  | kept => exact has
  | settled settles =>
    cases settles with
    | replied _ _ waits =>
      rw [waits] at has
      cases has
    | late => exact has
    | collected answered =>
      rw [answered] at has
      exact has
    | abandoned => exact absurd rfl kept
    | retracted => exact absurd rfl sent
  | expired waits =>
    rw [waits] at has
    cases has
  | failed _ waits =>
    rw [waits] at has
    cases has

theorem Changes.fate_of_answer (changes : s.Changes e t) (found : s.proxy.call? handle = some c)
    (close : ∀ reason, (s.proxy.close reason).call? handle = some (c.answer (.error reason))) :
    ∃ state, t.proxy.call? handle = some { c with state := state } ∧ s.Fate handle c e state := by
  cases changes with
  | quiet same => exact ⟨c.state, (same.table.call? handle).trans found, .kept⟩
  | allotted => exact ⟨c.state, found, .kept⟩
  | registered => exact ⟨c.state, Proxy.call?_enter.mpr (.inl found), .kept⟩
  | @settled _ other d state _ found' settles =>
    by_cases same : other = handle
    · subst same
      rw [found] at found'
      cases found'
      refine ⟨state, ?_, .settled settles⟩
      rw [Proxy.call?_settle, if_pos rfl, found]
      rfl
    · refine ⟨c.state, ?_, .kept⟩
      rw [Proxy.call?_settle, if_neg same]
      exact found
  | @expired other _ d found' waits =>
    by_cases same : other = handle
    · subst same
      rw [found] at found'
      cases found'
      refine ⟨_, ?_, .expired waits⟩
      rw [Proxy.call?_setState, if_pos rfl, found]
      rfl
    · refine ⟨c.state, ?_, .kept⟩
      rw [Proxy.call?_setState, if_neg same]
      exact found
  | released => exact ⟨c.state, found, .kept⟩
  | @closed _ reason _ _ ends =>
    have answered := close reason
    by_cases waits : c.state = .waiting
    · rw [OutgoingCall.answer_of_waiting waits] at answered
      exact ⟨_, answered, .failed ends waits⟩
    · rw [OutgoingCall.answer_of_ne_waiting waits] at answered
      exact ⟨c.state, answered, .kept⟩

theorem Changes.fate (changes : s.Changes e t) (sound : s.Sound)
    (found : s.proxy.call? handle = some c) :
    ∃ state, t.proxy.call? handle = some { c with state := state } ∧ s.Fate handle c e state :=
  changes.fate_of_answer found (sound.call?_close found)

/-- A call that is new waits. -/
theorem Changes.waiting_of_new (changes : s.Changes e t) (absent : s.proxy.call? handle = none)
    (found : t.proxy.call? handle = some c) : c.state = .waiting := by
  cases changes with
  | quiet same =>
    rw [same.table.call?, absent] at found
    cases found
  | allotted =>
    replace found : s.proxy.call? handle = some c := found
    rw [absent] at found
    cases found
  | registered =>
    obtain found | ⟨_, rfl⟩ := Proxy.call?_enter.mp found
    · rw [absent] at found
      cases found
    · rfl
  | settled =>
    rw [Proxy.call?_settle, absent, Option.map_none, ite_self] at found
    cases found
  | expired =>
    rw [Proxy.call?_setState, absent, Option.map_none, ite_self] at found
    cases found
  | released =>
    rw [Proxy.call?_freeSlot, absent] at found
    cases found
  | @closed _ reason =>
    replace found : (s.proxy.close reason).call? handle = some c := found
    rw [Proxy.call?_close, absent] at found
    cases found

theorem Changes.grows (changes : s.Changes e t) (sound : s.Sound) : s.Grows t := by
  intro handle c found
  obtain ⟨state, found, fate⟩ := changes.fate sound found
  exact ⟨state, found, fate.leadsTo⟩

/-! ### Runs -/

/-- While the counter has not come around in a run, it has not come around in its first event. -/
theorem Sound.of_run_cons (sound : s.Sound) {es : List ProxyEvent}
    (bound : (s.run (e :: es)).proxy.issued < 2 ^ 64) : (s.step e).Sound :=
  (sound.changes e).sound sound (Nat.lt_of_le_of_lt ((s.step e).issued_le_run es) bound)

theorem Sound.run (sound : s.Sound) (es : List ProxyEvent)
    (bound : (s.run es).proxy.issued < 2 ^ 64) : (s.run es).Sound := by
  induction es generalizing s with
  | nil => exact sound
  | cons e es ih => exact ih (sound.of_run_cons bound) bound

theorem Sound.grows_run (sound : s.Sound) (es : List ProxyEvent)
    (bound : (s.run es).proxy.issued < 2 ^ 64) : s.Grows (s.run es) := by
  induction es generalizing s with
  | nil => exact .refl s
  | cons e es ih =>
    exact ((sound.changes e).grows sound).trans (ih (sound.of_run_cons bound) bound)

/-- A proxy that is only just attached. -/
theorem Sound.attached (name : String) (callTimeout : Option Nat) (maxFrameLength : Nat)
    (handler : Option CallHandler) :
    Sound { proxy := Proxy.attached name callTimeout maxFrameLength handler } where
  unique := List.nodup_nil
  issued := by simp [ids, Proxy.attached]
  slotsUnique := List.nodup_nil
  slot := by simp [Proxy.attached]
  waiting := by simp [Proxy.attached, Proxy.call?]
  expired := by simp

end ConcurrentProxy

end ApiGateway
