import ApiGateway.Proofs.Proxy.Framing
import ApiGateway.Proofs.Proxy.Link
import ApiGateway.Proofs.Proxy.Sending

/-
What is under way between two proxies.

Every frame that waits in a queue, is being written, is in an inbox or is being read is honest: a
call frame is that of a call of its sender, a reply frame answers a call of its receiver. Each move
of a link keeps that, whatever the tasks at the two ends do meanwhile.

* `LinkEnd.Asked` - an end has made a call.
* `LinkEnd.Honest` - a frame from one end to the other says what is so.
* `LinkEnd.Carries` - the invariant of one direction; `Link.carries_step` - a move keeps it in both.
-/

namespace ApiGateway

/-- What is right as a reply to a call, said of its identifier, its body and the reply's body. -/
abbrev Fits := UInt64 → Bytes → Bytes → Prop

namespace LinkEnd

/-- The end has made a call with an identifier and a body. -/
def Asked (x : LinkEnd) (id : UInt64) (body : Bytes) : Prop :=
  ∃ c ∈ x.proxy.calls, c.id = id ∧ c.body = body

/-- The frame is one that its sender may send to its receiver. -/
def Honest (fits : Fits) (sender receiver : LinkEnd) (f : Frame) : Prop :=
  match f.kind with
  | .call => sender.Asked f.id f.body
  | .reply => ∃ body, receiver.Asked f.id body ∧ fits f.id body f.body

/-- What is under way from one end to the other is honest, and so are the results that it led to. -/
structure Carries (fits : Fits) (sender receiver : LinkEnd) : Prop where
  queued : ∀ f ∈ sender.proxy.outbound, Honest fits sender receiver f
  handled : ∀ c ∈ receiver.proxy.inbound, sender.Asked c.id c.body
  /-- The bytes between the two are whole frames, from where the reader stands. -/
  stream : ∀ bytes, receiver.session.reading = some bytes →
    ∃ fs, (∀ f ∈ fs, Honest fits sender receiver f) ∧
      Frame.Encodes fs (bytes ++ receiver.inbox ++ sender.session.writing.getD [])
  answered : ∀ c ∈ receiver.proxy.calls, ∀ body, c.state.result? = some (.ok body) →
    fits c.id c.body body
  /-- An end that was released does not read. -/
  gone : receiver.isOpen = false → receiver.session.reading = none

variable {fits : Fits} {x x' y y' : LinkEnd}

/-! ### Calls stay calls -/

theorem Asked.mono {id : UInt64} {body : Bytes} (grows : x.view.Grows x'.view)
    (asked : x.Asked id body) : x'.Asked id body := by
  obtain ⟨c, mem, rfl, rfl⟩ := asked
  obtain ⟨handle, found⟩ := List.mem_iff_getElem?.mp mem
  obtain ⟨state, found', _⟩ := grows handle c found
  exact ⟨_, Proxy.mem_calls_of_call? found', rfl, rfl⟩

theorem Honest.mono {f : Frame} (sender : x.view.Grows x'.view) (receiver : y.view.Grows y'.view)
    (honest : Honest fits x y f) : Honest fits x' y' f := by
  unfold Honest at honest ⊢
  split
  next kind =>
    rw [kind] at honest
    exact honest.mono sender
  next kind =>
    rw [kind] at honest
    obtain ⟨body, asked, fit⟩ := honest
    exact ⟨body, asked.mono receiver, fit⟩

/-- A call of an end is the only one with its identifier. -/
theorem Asked.body_unique {id : UInt64} {body : Bytes} (asked : x.Asked id body)
    (sound : x.view.Sound) {c : OutgoingCall} (mem : c ∈ x.proxy.calls) (same : c.id = id) :
    c.body = body := by
  obtain ⟨d, mem', rfl, rfl⟩ := asked
  rw [List.inj_on_of_nodup_map sound.calls_unique mem mem' same]

/-! ### The sender moves -/

/-- The sender may have queued honest frames, and moved frames from its queue to the stream. -/
theorem Carries.of_sender (carries : Carries fits x y) (grows : x.view.Grows x'.view)
    (queued : ∀ f ∈ x'.proxy.outbound, f ∈ x.proxy.outbound ∨ Honest fits x' y f)
    (written : y.session.reading = none ∨
      x'.session.writing.getD [] = x.session.writing.getD [] ∨
      ∃ f ∈ x.proxy.outbound, ∃ bytes, f.encode = .ok bytes ∧
        x'.session.writing.getD [] = x.session.writing.getD [] ++ bytes) :
    Carries fits x' y where
  queued := by
    intro f mem
    obtain old | new := queued f mem
    · exact (carries.queued f old).mono grows (.refl _)
    · exact new
  handled := fun c mem => (carries.handled c mem).mono grows
  stream := by
    intro bytes reading
    obtain ⟨fs, honest, encodes⟩ := carries.stream bytes reading
    have honest' : ∀ f ∈ fs, Honest fits x' y f := fun f mem => (honest f mem).mono grows (.refl _)
    obtain stopped | same | ⟨f, mem, more, encoded, written⟩ := written
    · rw [stopped] at reading
      cases reading
    · exact ⟨fs, honest', same ▸ encodes⟩
    · refine ⟨fs ++ [f], ?_, ?_⟩
      · intro g mem'
        obtain old | new := List.mem_append.mp mem'
        · exact honest' g old
        · rw [List.mem_singleton.mp new]
          exact (carries.queued f mem).mono grows (.refl _)
      · rw [written, ← List.append_assoc]
        exact encodes.concat encoded
  answered := carries.answered
  gone := carries.gone

/-! ### The receiver moves -/

/-- The receiver may have stopped reading, and handled calls; its results are honest. -/
theorem Carries.of_receiver (carries : Carries fits x y) (grows : y.view.Grows y'.view)
    (handled : ∀ c ∈ y'.proxy.inbound, c ∈ y.proxy.inbound)
    (stream : y'.session.reading = none ∨
      y'.session.reading = y.session.reading ∧ y'.inbox = y.inbox)
    (answered : ∀ c ∈ y'.proxy.calls, ∀ body, c.state.result? = some (.ok body) →
      fits c.id c.body body)
    (gone : y'.isOpen = false → y'.session.reading = none) : Carries fits x y' where
  queued := fun f mem => (carries.queued f mem).mono (.refl _) grows
  handled := fun c mem => carries.handled c (handled c mem)
  stream := by
    intro bytes reading
    obtain stopped | ⟨same, inbox⟩ := stream
    · rw [stopped] at reading
      cases reading
    · rw [same] at reading
      obtain ⟨fs, honest, encodes⟩ := carries.stream bytes reading
      exact ⟨fs, fun f mem => (honest f mem).mono (.refl _) grows, inbox ▸ encodes⟩
  answered := answered
  gone := gone

/-- The results stay honest while no reply comes. -/
theorem Carries.answered_step (carries : Carries fits x y) (sound : y.view.Sound)
    (e : ProxyEvent) (other : ∀ id body, e ≠ .receive ⟨id, .reply, body⟩) :
    ∀ c ∈ (y.view.step e).proxy.calls, ∀ body, c.state.result? = some (.ok body) →
      fits c.id c.body body := by
  intro c mem body has
  obtain ⟨d, mem', id, same, has'⟩ | reply := sound.result_step e mem has
  · rw [← id, ← same]
    exact carries.answered d mem' body has'
  · exact absurd reply (other _ _)

/-- The reader acts on a frame of the stream, which is honest. -/
theorem Carries.received {bytes rest : Bytes} {f : Frame} (carries : Carries fits x y)
    (sound : y.view.Sound) (bound : (y.view.step (.receive f)).proxy.issued < 2 ^ 64)
    (reading : y.session.reading = some bytes)
    (found : Frame.next y.session.proxy.maxFrameLength bytes = .frame f rest) :
    Carries fits x { y with session :=
      { y.session with proxy := y.session.proxy.receive f, reading := some rest } } := by
  obtain ⟨fs, honest, encodes⟩ := carries.stream bytes reading
  rw [List.append_assoc] at encodes
  obtain ⟨others, rfl, remain⟩ := encodes.next found
  have front := honest f List.mem_cons_self
  generalize after : ({ y with session :=
    { y.session with proxy := y.session.proxy.receive f, reading := some rest } } : LinkEnd) = y'
  have view : y'.view = y.view.step (.receive f) := by
    subst after
    simp [LinkEnd.view, ConcurrentProxy.step, reading]
  have changes := sound.changes (.receive f)
  have grows : y.view.Grows y'.view := view ▸ changes.grows sound
  have sound' : y'.view.Sound := view ▸ changes.sound sound bound
  refine ⟨fun g mem => (carries.queued g mem).mono (.refl _) grows, ?_, ?_, ?_, ?_⟩
  · subst after
    intro c mem
    replace mem : c ∈ (y.proxy.receive f).inbound := mem
    unfold Proxy.receive at mem
    unfold Honest at front
    split at mem
    next =>
      obtain ⟨⟨slots, calls, same⟩, _⟩ := y.proxy.narrows_complete f.id f.body
      rw [same] at mem
      exact carries.handled c mem
    next kind =>
      rw [kind] at front
      obtain old | new := List.mem_append.mp mem
      · exact carries.handled c old
      · rw [List.mem_singleton.mp new]
        exact front
  · subst after
    intro bytes' same
    cases same
    refine ⟨others, fun g mem => ?_, ?_⟩
    · exact (honest g (List.mem_cons_of_mem _ mem)).mono (.refl _) grows
    · rw [List.append_assoc]
      exact remain
  · intro c mem body has
    have mem' : c ∈ (y.view.step (.receive f)).proxy.calls := view ▸ mem
    obtain ⟨d, old, id, same, has'⟩ | reply := sound.result_step _ mem' has
    · rw [← id, ← same]
      exact carries.answered d old body has'
    · cases reply
      obtain ⟨asked, was, fit⟩ := front
      rw [(was.mono grows).body_unique sound' mem rfl]
      exact fit
  · subst after
    intro closed
    have none := carries.gone closed
    rw [reading] at none
    cases none

/-! ### Either moves -/

theorem outbound_receive (p : Proxy) (f : Frame) : (p.receive f).outbound = p.outbound := by
  unfold Proxy.receive
  split
  · obtain ⟨⟨slots, calls, same⟩, _⟩ := p.narrows_complete f.id f.body
    rw [same]
  · rfl

theorem outbound_close (p : Proxy) (reason : ProxyError) :
    (p.close reason).outbound = p.outbound := by
  obtain ⟨calls, same⟩ := p.close_eq reason
  rw [same]

theorem inbound_close (p : Proxy) (reason : ProxyError) :
    (p.close reason).inbound = p.inbound := by
  obtain ⟨calls, same⟩ := p.close_eq reason
  rw [same]

/-- A turn of the sender moves the first frame of its queue to the stream at most. -/
theorem Carries.sender_turns {t : Session} (carries : Carries fits x y)
    (turns : x.session.Turns t)
    (grows : x.view.Grows ({ x with session := t } : LinkEnd).view) :
    Carries fits { x with session := t } y := by
  cases turns with
  | received =>
    refine carries.of_sender grows (fun g mem => .inl ?_) (.inr (.inl rfl))
    exact outbound_receive _ _ ▸ mem
  | stopped =>
    refine carries.of_sender grows (fun g mem => .inl ?_) (.inr (.inl rfl))
    exact outbound_close _ _ ▸ mem
  | halted writing =>
    exact carries.of_sender grows (fun f mem => .inl mem) (.inr (.inl (by simp [writing])))
  | @loaded f fs bytes writing queued encoded =>
    refine carries.of_sender grows (fun g mem => .inl ?_) (.inr (.inr ⟨f, ?_, bytes, encoded, ?_⟩))
    · rw [LinkEnd.proxy, queued]
      exact List.mem_cons_of_mem f mem
    · rw [LinkEnd.proxy, queued]
      exact List.mem_cons_self
    · simp [writing]
  | failed writing queued =>
    refine carries.of_sender grows (fun g mem => .inl ?_) (.inr (.inl ?_))
    · rw [LinkEnd.proxy, queued]
      exact List.mem_cons_of_mem _ mem
    · simp [Session.failWriting, writing]

theorem Carries.receiver_turns {t : Session} (carries : Carries fits x y)
    (turns : y.session.Turns t) (sound : y.view.Sound)
    (bound : ({ y with session := t } : LinkEnd).view.proxy.issued < 2 ^ 64)
    (grows : y.view.Grows ({ y with session := t } : LinkEnd).view) :
    Carries fits x { y with session := t } := by
  cases turns with
  | @received bytes rest f reading found =>
    refine carries.received sound ?_ reading found
    simpa [LinkEnd.view, ConcurrentProxy.step, reading] using bound
  | @stopped reason reading =>
    have reads : y.session.reading.isSome = true := Option.isSome_iff_ne_none.mpr reading
    have answered := carries.answered_step sound (.stop reason) (by simp)
    simp only [ConcurrentProxy.step, LinkEnd.view, reads, if_true] at answered
    exact carries.of_receiver grows (fun c mem => inbound_close _ _ ▸ mem) (.inl rfl) answered
      fun _ => rfl
  | halted | loaded | failed =>
    exact carries.of_receiver grows (fun c mem => mem) (.inr ⟨rfl, rfl⟩) carries.answered
      carries.gone

/-! ### A task acts -/

theorem ne_zero_of_mem_calls (sound : x.view.Sound) {c : OutgoingCall} (mem : c ∈ x.proxy.calls) :
    c.id ≠ 0 := by
  intro zero
  have positive := (sound.issued c.id (ConcurrentProxy.mem_ids_of_mem_calls mem)).1
  rw [zero] at positive
  cases positive

theorem Asked.ne_zero {id : UInt64} {body : Bytes} (asked : x.Asked id body)
    (sound : x.view.Sound) : id ≠ 0 := by
  obtain ⟨c, mem, rfl, _⟩ := asked
  exact ne_zero_of_mem_calls sound mem

/-- What a task queues, if the calls of the peer are calls of the peer. -/
theorem Carries.posts_act (back : Carries fits y x) (sender : x.view.Sound)
    (receiver : y.view.Sound) (a : ProxyAction) : x.view.Posts a (x.act a).proxy :=
  ConcurrentProxy.posts_act (fun _ mem => ne_zero_of_mem_calls sender mem)
    (fun c mem => (back.handled c mem).ne_zero receiver) a

theorem Carries.sender_act {back : Fits} (carries : Carries fits x y) (backward : Carries back y x)
    (sender : x.view.Sound) (receiver : y.view.Sound) (a : ProxyAction)
    (right : ∀ self position registry late c, a = .reply self position registry late →
      x.proxy.inbound[position]? = some c →
      fits c.id c.body (Proxy.replyBody x.proxy.handler self c.body registry).1) :
    Carries fits (x.act a) y := by
  have grows : x.view.Grows (x.act a).view := by
    rw [view_act]
    exact (sender.changes (.act a)).grows sender
  refine carries.of_sender grows ?_ (.inr (.inl rfl))
  intro f mem
  obtain same | ⟨g, sends, same⟩ := (backward.posts_act sender receiver a).outbound
  · exact .inl (same ▸ mem)
  · rw [same] at mem
    obtain old | new := List.mem_append.mp mem
    · exact .inl old
    · rw [List.mem_singleton.mp new]
      right
      cases sends with
      | call mem' => exact Asked.mono grows ⟨_, mem', rfl, rfl⟩
      | reply found =>
        exact ⟨_, backward.handled _ (List.mem_of_getElem? found), right _ _ _ _ _ rfl found⟩

theorem Carries.receiver_act (carries : Carries fits x y) (sender : x.view.Sound)
    (receiver : y.view.Sound) (a : ProxyAction) : Carries fits x (y.act a) := by
  have grows : y.view.Grows (y.act a).view := by
    rw [view_act]
    exact (receiver.changes (.act a)).grows receiver
  exact carries.of_receiver grows
    (fun c mem => (carries.posts_act receiver sender a).inbound.mem mem) (.inr ⟨rfl, rfl⟩)
    (carries.answered_step receiver (.act a) (by simp)) carries.gone

/-! ### Bytes move -/

theorem Carries.took {bytes taken rest : Bytes} (carries : Carries fits x y)
    (reading : y.session.reading = some bytes) (inbox : y.inbox = taken ++ rest) :
    Carries fits x { y with
      session := { y.session with reading := some (bytes ++ taken) }
      inbox := rest } where
  queued := carries.queued
  handled := carries.handled
  stream := by
    intro bytes' same
    cases same
    obtain ⟨fs, honest, encodes⟩ := carries.stream bytes reading
    refine ⟨fs, honest, ?_⟩
    rw [List.append_assoc bytes, ← inbox]
    exact encodes
  answered := carries.answered
  gone := by
    intro closed
    have none := carries.gone closed
    rw [reading] at none
    cases none

theorem Carries.wrote {bytes done rest : Bytes} (carries : Carries fits x y)
    (writing : x.session.writing = some bytes) (split : bytes = done ++ rest) :
    Carries fits { x with session := { x.session with writing := some rest } }
      { y with inbox := y.inbox ++ done } where
  queued := carries.queued
  handled := carries.handled
  stream := by
    intro bytes' reading
    obtain ⟨fs, honest, encodes⟩ := carries.stream bytes' reading
    refine ⟨fs, honest, ?_⟩
    rw [writing, split] at encodes
    simpa using encodes
  answered := carries.answered
  gone := carries.gone

end LinkEnd

namespace Link

variable {l m : Link} {e : LinkEvent}

/-- In both directions what is under way is honest. -/
def Carries (fits : Side → Fits) (l : Link) : Prop :=
  ∀ side, LinkEnd.Carries (fits side) (l.ends side) (l.ends side.other)

theorem Carries.backward {fits : Side → Fits} (carries : l.Carries fits) (side : Side) :
    LinkEnd.Carries (fits side.other) (l.ends side.other) (l.ends side) := by
  have backward := carries side.other
  rw [Side.other_other] at backward
  exact backward

theorem carries_set {fits : Side → Fits} {acting : Side} {x : LinkEnd}
    (sender : LinkEnd.Carries (fits acting) x (l.ends acting.other))
    (receiver : LinkEnd.Carries (fits acting.other) (l.ends acting.other) x) :
    Carries fits (l.set acting x) := by
  intro side
  by_cases same : side = acting
  · subst same
    rw [Duplex.ends_set_self, Duplex.ends_set_other]
    exact sender
  · obtain rfl := (side.eq_or_eq_other acting).resolve_left same
    rw [Duplex.ends_set_other, Side.other_other, Duplex.ends_set_self]
    exact receiver

/-- A move keeps both directions honest, if what a task replies is right. -/
theorem Moves.carries {fits : Side → Fits} (moves : l.Moves e m) (carries : l.Carries fits)
    (sound : ∀ side, (l.ends side).view.Sound)
    (bound : ∀ side, (m.ends side).proxy.issued < 2 ^ 64)
    (right : ∀ side self position registry late c,
      e = .act side (.reply self position registry late) →
      (l.ends side).proxy.inbound[position]? = some c →
      fits side c.id c.body
        (Proxy.replyBody (l.ends side).proxy.handler self c.body registry).1) :
    m.Carries fits := by
  have grows : ∀ side, (l.ends side).view.Grows (m.ends side).view := by
    intro side
    obtain ⟨es, run⟩ := moves.exists_run side
    rw [run]
    exact (sound side).grows_run es (run ▸ bound side)
  cases moves with
  | idle => exact carries
  | acted acting a =>
    have forward := carries acting
    have backward := carries.backward acting
    refine carries_set ?_ (backward.receiver_act (sound _) (sound _) a)
    refine forward.sender_act backward (sound _) (sound _) a ?_
    rintro self position registry late c rfl found
    exact right acting self position registry late c rfl found
  | turned acting turns =>
    have forward := carries acting
    have backward := carries.backward acting
    have grows := grows acting
    have bound := bound acting
    rw [Duplex.ends_set_self] at grows bound
    exact carries_set (forward.sender_turns turns grows)
      (backward.receiver_turns turns (sound _) bound grows)
  | took acting reading inbox =>
    have forward := carries acting
    have backward := carries.backward acting
    refine carries_set ?_ (backward.took reading inbox)
    exact ⟨forward.queued, forward.handled, forward.stream, forward.answered, forward.gone⟩
  | wrote acting writing split =>
    have forward := carries acting
    have backward := carries.backward acting
    refine carries_set ?_ ?_
    · rw [Side.other_other, Duplex.ends_set_self]
      exact ⟨backward.queued, backward.handled, backward.stream, backward.answered,
        backward.gone⟩
    · rw [Side.other_other, Duplex.ends_set_self]
      exact forward.wrote writing split
  | failed acting gone =>
    have forward := carries acting
    have backward := carries.backward acting
    have grows := grows acting
    rw [Duplex.ends_set_self] at grows
    refine carries_set ?_ ?_
    · exact forward.of_sender grows (fun f mem => .inl mem) (.inl (forward.gone gone))
    · exact ⟨backward.queued, backward.handled, backward.stream, backward.answered,
        backward.gone⟩
  | released acting reading =>
    have forward := carries acting
    have backward := carries.backward acting
    refine carries_set ?_ ?_
    · exact ⟨forward.queued, forward.handled, forward.stream, forward.answered, forward.gone⟩
    · exact ⟨backward.queued, backward.handled, backward.stream, backward.answered,
        fun _ => reading⟩

end Link

end ApiGateway
