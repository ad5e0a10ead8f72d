import ApiGateway.Proofs.Proxy.Cutting
import ApiGateway.Proofs.Proxy.Calls
import ApiGateway.Proofs.Proxy.Duplex

/-
Connections that work: what is under way arrives.

Both proxies are alive, and every frame under way is short enough for the other end. Then no step can
end the connection, each leaves fewer bytes to move, and where no step can be taken nothing is under
way any more. So a run of steps comes to rest (`Duplex.Carries.quiet`), and every call that was
under way has come to the proxy at the other end.

* `Station` - an end that reads and writes.
* `Duplex.Carries` - the frames that are under way from each end to the other.
* `Duplex.due` - the calls that an end has handled and those that it is still to handle, in order.
* `Duplex.Moves` - what a step can do; `Duplex.moves_step` - each step is one of these.
-/

namespace ApiGateway

/-- An end of a connection whose reader and writer have not stopped. -/
structure Station where
  proxy : Proxy
  /-- The bytes of a frame that is not whole yet. -/
  reading : Bytes := []
  /-- The bytes of a frame that are not written yet. -/
  writing : Bytes := []
  inbox : Bytes := []

namespace Station

def session (x : Station) : Session := ⟨x.proxy, some x.reading, some x.writing⟩

def terminal (x : Station) : Terminal := ⟨.session x.session, x.inbox, true⟩

/-- The frames are under way from one end to the other, and the other admits them. -/
structure Sends (x y : Station) (fs : List Frame) : Prop where
  /-- Frames that are written in part or in whole come before those that wait for the writer. -/
  stream : ∃ written, Frame.Encodes written (y.reading ++ y.inbox ++ x.writing) ∧
    fs = written ++ x.proxy.outbound
  short : ∀ f ∈ fs, f.body.length ≤ y.proxy.maxFrameLength ∧ f.body.length < 2 ^ 32

/-- What is left to do with the bytes of the frames that wait for the writer. -/
def costOf : List Frame → Nat
  | [] => 0
  | f :: fs => 3 * (Frame.headerLength + f.body.length) + 1 + costOf fs

/-- What is left to do with the bytes at an end. A byte is written, taken and read. -/
def cost (x : Station) : Nat :=
  x.reading.length + 2 * x.inbox.length + 3 * x.writing.length +
    costOf x.proxy.outbound

end Station

namespace Proxy

/-- The bodies of the peer's calls, handled or not. -/
def due (p : Proxy) : List Bytes := p.handled ++ p.inbound.map (·.body)

end Proxy

namespace Frame

/-- The bodies of the calls among frames. -/
def callBodies (fs : List Frame) : List Bytes :=
  (fs.filter (·.kind = .call)).map (·.body)

theorem callBodies_append (fs gs : List Frame) :
    callBodies (fs ++ gs) = callBodies fs ++ callBodies gs := by
  rw [callBodies, List.filter_append, List.map_append]
  rfl

/-- The first bytes of frames that are short enough show no fault. -/
theorem Encodes.next_cases {fs : List Frame} {bytes more : Bytes} {limit : Nat}
    (encodes : Encodes fs (bytes ++ more)) (short : ∀ f ∈ fs, f.body.length ≤ limit) :
    Frame.next limit bytes = .more ∨ ∃ f rest, Frame.next limit bytes = .frame f rest := by
  generalize whole : bytes ++ more = stream at encodes
  cases encodes with
  | nil =>
    obtain ⟨rfl, rfl⟩ := List.append_eq_nil_iff.mp whole
    exact .inl rfl
  | @cons f first others fs encoded _ =>
    have fits : f.body.length ≤ limit := short f List.mem_cons_self
    have found : ∀ rest, Frame.next limit (first ++ rest) = .frame f rest := by
      intro rest
      rw [next_encode encoded, if_neg (Nat.not_lt.mpr fits)]
    obtain ⟨lacking, rfl, -⟩ | ⟨rest, rfl, -⟩ := List.append_eq_append_iff.mp whole
    · by_cases nothing : lacking = []
      · refine .inr ⟨f, [], ?_⟩
        have all := found []
        rwa [nothing, List.append_nil, List.append_nil] at all
      · have cut : bytes.length < (bytes ++ lacking).length := by
          rw [List.length_append]
          exact Nat.lt_add_of_pos_right (List.length_pos_iff.mpr nothing)
        have more := next_cut encoded fits cut
        rw [List.take_left] at more
        exact .inl more
    · exact .inr ⟨f, rest, found rest⟩

/-- Where frames are short enough and none is found, there is none. -/
theorem Encodes.eq_nil {fs : List Frame} {bytes : Bytes} {limit : Nat} (encodes : Encodes fs bytes)
    (short : ∀ f ∈ fs, f.body.length ≤ limit) (none : Frame.next limit bytes = .more) : fs = [] := by
  cases encodes with
  | nil => rfl
  | @cons f _ _ _ encoded _ =>
    rw [next_encode encoded, if_neg (Nat.not_lt.mpr (short f List.mem_cons_self))] at none
    cases none

/-- A frame that can be written is written. -/
theorem exists_encode {f : Frame} (short : f.body.length < 2 ^ 32) :
    ∃ bytes, f.encode = .ok bytes := by
  rw [encode]
  exact ⟨_, if_pos short⟩

theorem length_encode {f : Frame} {bytes : Bytes} (encoded : f.encode = .ok bytes) :
    bytes.length = headerLength + f.body.length := by
  obtain ⟨-, rfl⟩ := encode_eq_ok encoded
  simp only [List.length_append, length_littleEndian, List.length_cons, List.length_nil, headerLength]

theorem length_lt_of_next {limit : Nat} {bytes rest : Bytes} {f : Frame}
    (found : Frame.next limit bytes = .frame f rest) : rest.length < bytes.length := by
  have read : Frame.read limit bytes = .ok (some (f, rest)) := by
    rw [Frame.read, found]
  exact length_lt_of_read read

end Frame

namespace Duplex

variable {d : Duplex Station} {fs : Side → List Frame} {side : Side}

/-- The connection of two ends that work. -/
abbrev connection (d : Duplex Station) : Connection := d.through Station.terminal

/-- The frames are under way from the one end and from the other. -/
structure Carries (d : Duplex Station) (fs : Side → List Frame) : Prop where
  room : 0 < d.capacity
  alive : ∀ side, (d.ends side).proxy.alive = true
  sends : ∀ side, Station.Sends (d.ends side) (d.ends side.other) (fs side)

/-- The calls that an end has handled and is to handle, those under way included. -/
def due (d : Duplex Station) (fs : Side → List Frame) (side : Side) : List Bytes :=
  (d.ends side).proxy.due ++ Frame.callBodies (fs side.other)

def cost (d : Duplex Station) : Nat := (d.ends .near).cost + (d.ends .far).cost

theorem session?_connection (d : Duplex Station) (side : Side) :
    d.connection.session? side = some (d.ends side).session :=
  d.session?_through rfl

theorem setSession_connection (d : Duplex Station) (side : Side) (x : Station)
    (inbox : x.inbox = (d.ends side).inbox) :
    d.connection.setSession side x.session = (d.set side x).connection := by
  rw [Connection.setSession, terminal_through, connection, connection, through_set, Station.terminal,
    Station.terminal, inbox]

theorem cost_eq (d : Duplex Station) (side : Side) :
    d.cost = (d.ends side).cost + (d.ends side.other).cost := by
  cases side
  · rfl
  · exact Nat.add_comm _ _

theorem cost_set_lt {x : Station} (less : x.cost < (d.ends side).cost) :
    (d.set side x).cost < d.cost := by
  rw [cost_eq _ side, cost_eq d side, ends_set_self, ends_set_other]
  exact Nat.add_lt_add_right less _

/-! ### What a step can do -/

/-- What a step can do to a connection that works. -/
inductive Moves (d : Duplex Station) : Duplex Station → Prop where
  | took (side : Side) {taken rest : Bytes} (some : taken ≠ [])
      (inbox : (d.ends side).inbox = taken ++ rest) :
      Moves d (d.set side { d.ends side with
        reading := (d.ends side).reading ++ taken
        inbox := rest })
  | received (side : Side) {f : Frame} {rest : Bytes}
      (found : Frame.next (d.ends side).proxy.maxFrameLength (d.ends side).reading =
        .frame f rest) :
      Moves d (d.set side { d.ends side with
        proxy := (d.ends side).proxy.receive f
        reading := rest })
  | loaded (side : Side) {f : Frame} {fs : List Frame} {bytes : Bytes}
      (idle : (d.ends side).writing = []) (queued : (d.ends side).proxy.outbound = f :: fs)
      (encoded : f.encode = .ok bytes) :
      Moves d (d.set side { d.ends side with
        proxy := { (d.ends side).proxy with outbound := fs }
        writing := bytes })
  | wrote (side : Side) {done rest : Bytes} (some : done ≠ [])
      (split : (d.ends side).writing = done ++ rest) :
      Moves d ((d.set side { d.ends side with writing := rest }).set side.other
        { d.ends side.other with inbox := (d.ends side.other).inbox ++ done })

theorem take?_connection (d : Duplex Station) (side : Side) (count : Nat) :
    d.connection.take? side count =
      if ((d.ends side).inbox.take count).isEmpty then none
      else some (d.set side { d.ends side with
        reading := (d.ends side).reading ++ (d.ends side).inbox.take count
        inbox := (d.ends side).inbox.drop count }).connection := by
  cases side <;> rfl

theorem write?_connection (d : Duplex Station) (side : Side) (count : Nat) :
    d.connection.write? side count =
      if (d.ends side).writing.isEmpty then none
      else if min count (d.connection.room side.other) = 0 then none
      else some ((d.set side { d.ends side with
          writing := (d.ends side).writing.drop (min count (d.connection.room side.other)) }).set
        side.other { d.ends side.other with
          inbox := (d.ends side.other).inbox ++
            (d.ends side).writing.take (min count (d.connection.room side.other)) }).connection := by
  cases side <;> rfl

/-- A turn of the session at an end. -/
theorem turn_connection (d : Duplex Station) (side : Side) (turn : Session → Option Session) :
    ((d.connection.session? side).bind fun s =>
      (turn s).bind fun t => some (d.connection.setSession side t)) =
        (turn (d.ends side).session).map (d.connection.setSession side) := by
  rw [session?_connection, Option.bind_some]
  cases turn (d.ends side).session <;> rfl

theorem stop?_connection (d : Duplex Station) (side : Side) :
    d.connection.stop? side = (d.ends side).session.stop?.map (d.connection.setSession side) :=
  d.turn_connection side Session.stop?

theorem dispatch?_connection (d : Duplex Station) (side : Side) :
    d.connection.dispatch? side =
      ((d.ends side).session.dispatch? false).map (d.connection.setSession side) := by
  have lasts : d.connection.ended side = false := by
    simp [Connection.ended, terminal_through, Station.terminal]
  rw [← lasts]
  exact d.turn_connection side fun s => s.dispatch? (d.connection.ended side)

theorem halt?_connection (d : Duplex Station) (side : Side) :
    d.connection.halt? side = (d.ends side).session.halt?.map (d.connection.setSession side) :=
  d.turn_connection side Session.halt?

theorem load?_connection (d : Duplex Station) (side : Side) :
    d.connection.load? side = (d.ends side).session.load?.map (d.connection.setSession side) :=
  d.turn_connection side Session.load?

theorem release?_connection (d : Duplex Station) (side : Side) : d.connection.release? side = none := by
  cases side <;> rfl

theorem Carries.backward (carries : d.Carries fs) (side : Side) :
    Station.Sends (d.ends side.other) (d.ends side) (fs side.other) := by
  have backward := carries.sends side.other
  rw [Side.other_other] at backward
  exact backward

/-- What the reader finds at the front of the bytes that came. -/
theorem Carries.next_cases (carries : d.Carries fs) (side : Side) :
    Frame.next (d.ends side).proxy.maxFrameLength (d.ends side).reading = .more ∨
      ∃ f rest, Frame.next (d.ends side).proxy.maxFrameLength (d.ends side).reading = .frame f rest := by
  obtain ⟨⟨written, encodes, all⟩, short⟩ := carries.backward side
  rw [List.append_assoc] at encodes
  refine encodes.next_cases fun f mem => (short f ?_).1
  rw [all]
  exact List.mem_append_left _ mem

theorem Carries.stop? (carries : d.Carries fs) (side : Side) : d.connection.stop? side = none := by
  simp [stop?_connection, Session.stop?, Station.session, carries.alive side]

theorem Carries.halt? (carries : d.Carries fs) (side : Side) : d.connection.halt? side = none := by
  rw [halt?_connection, Session.halt?, Station.session]
  cases (d.ends side).writing <;> simp [carries.alive side]

theorem moves_take {c : Connection} {count : Nat} (taken : d.connection.take? side count = some c) :
    ∃ d', c = d'.connection ∧ d.Moves d' := by
  rw [take?_connection] at taken
  split at taken
  · cases taken
  next nonempty =>
    cases taken
    have moves : (d.ends side).inbox.take count ≠ [] := by simpa using nonempty
    exact ⟨_, rfl, .took side moves (List.take_append_drop count _).symm⟩

theorem moves_write {c : Connection} {count : Nat} (taken : d.connection.write? side count = some c) :
    ∃ d', c = d'.connection ∧ d.Moves d' := by
  rw [write?_connection] at taken
  split at taken
  · cases taken
  next nonempty =>
    split at taken
    · cases taken
    next positive =>
      cases taken
      refine ⟨_, rfl, .wrote side ?_ (List.take_append_drop _ _).symm⟩
      rw [ne_eq, List.take_eq_nil_iff]
      exact not_or.mpr ⟨positive, by simpa using nonempty⟩

theorem moves_dispatch {c : Connection} (carries : d.Carries fs)
    (taken : d.connection.dispatch? side = some c) : ∃ d', c = d'.connection ∧ d.Moves d' := by
  rw [dispatch?_connection, Session.dispatch?, Station.session] at taken
  obtain found | ⟨f, rest, found⟩ := carries.next_cases side
  · simp [found] at taken
  · simp only [Option.bind_eq_bind, Option.bind_some, found, Option.pure_def, Option.map_some,
      Option.some.injEq] at taken
    refine ⟨_, ?_, .received side found⟩
    rw [← taken, ← setSession_connection]
    · rfl
    · rfl

theorem moves_load {c : Connection} (carries : d.Carries fs)
    (taken : d.connection.load? side = some c) : ∃ d', c = d'.connection ∧ d.Moves d' := by
  rw [load?_connection, Session.load?, Station.session] at taken
  cases idle : (d.ends side).writing with
  | cons => simp [idle] at taken
  | nil =>
    cases queued : (d.ends side).proxy.outbound with
    | nil => simp [idle, queued] at taken
    | cons f others =>
      have mem : f ∈ fs side := by
        obtain ⟨written, -, all⟩ := (carries.sends side).stream
        rw [all, queued]
        simp
      obtain ⟨bytes, encoded⟩ := Frame.exists_encode ((carries.sends side).short f mem).2
      simp only [idle, queued, encoded, Option.bind_eq_bind, Option.bind_some, Option.pure_def,
        Option.map_some, Option.some.injEq] at taken
      refine ⟨_, ?_, .loaded side idle queued encoded⟩
      rw [← taken, ← setSession_connection]
      · rfl
      · rfl

/-- Each step is one of the moves. -/
theorem moves_step {c : Connection} {s : Step} (carries : d.Carries fs)
    (taken : d.connection.step? s = some c) : ∃ d', c = d'.connection ∧ d.Moves d' := by
  cases s with
  | take side count => exact moves_take taken
  | stop side =>
    rw [Connection.step?, carries.stop?] at taken
    cases taken
  | dispatch side => exact moves_dispatch carries taken
  | halt side =>
    rw [Connection.step?, carries.halt?] at taken
    cases taken
  | load side => exact moves_load carries taken
  | write side count => exact moves_write taken
  | release side =>
    rw [Connection.step?, release?_connection] at taken
    cases taken

/-! ### What a move keeps -/

theorem Carries.of_sends (side : Side) (room : 0 < d.capacity)
    (alive : (d.ends side).proxy.alive = true) (alive' : (d.ends side.other).proxy.alive = true)
    (forward : Station.Sends (d.ends side) (d.ends side.other) (fs side))
    (backward : Station.Sends (d.ends side.other) (d.ends side) (fs side.other)) : d.Carries fs where
  room := room
  alive := by
    intro other
    obtain rfl | rfl := other.eq_or_eq_other side
    · exact alive
    · exact alive'
  sends := by
    intro other
    obtain rfl | rfl := other.eq_or_eq_other side
    · exact forward
    · rwa [Side.other_other]

/-- A move of one end, in terms of the two directions. -/
theorem Carries.set {fs' : Side → List Frame} {x : Station} (carries : d.Carries fs)
    (alive : x.proxy.alive = true) (forward : Station.Sends x (d.ends side.other) (fs' side))
    (backward : Station.Sends (d.ends side.other) x (fs' side.other)) :
    (d.set side x).Carries fs' := by
  refine .of_sends side carries.room ?_ ?_ ?_ ?_
  · rwa [ends_set_self]
  · rw [ends_set_other]
    exact carries.alive side.other
  · rwa [ends_set_self, ends_set_other]
  · rwa [ends_set_self, ends_set_other]

/-- What a move has to do: what is due stays, and less is left to do. -/
structure Kept (d : Duplex Station) (fs : Side → List Frame) (d' : Duplex Station)
    (fs' : Side → List Frame) : Prop where
  carries : d'.Carries fs'
  due : ∀ side, d'.due fs' side = d.due fs side
  cost : d'.cost < d.cost

theorem due_set {x : Station} (due : x.proxy.due = (d.ends side).proxy.due) (other : Side) :
    (d.set side x).due fs other = d.due fs other := by
  by_cases same : other = side
  · subst same
    rw [Duplex.due, Duplex.due, ends_set_self, due]
  · rw [Duplex.due, Duplex.due, ends_set_of_ne d x same]

theorem kept_took {taken rest : Bytes} (carries : d.Carries fs) (moves : taken ≠ [])
    (inbox : (d.ends side).inbox = taken ++ rest) :
    d.Kept fs (d.set side { d.ends side with
      reading := (d.ends side).reading ++ taken
      inbox := rest }) fs where
  carries := by
    refine carries.set (carries.alive side) ?_ ?_
    · exact ⟨(carries.sends side).stream, (carries.sends side).short⟩
    · obtain ⟨⟨written, encodes, all⟩, short⟩ := carries.backward side
      refine ⟨⟨written, ?_, all⟩, short⟩
      rw [inbox] at encodes
      simpa using encodes
  due := due_set rfl
  cost := by
    have positive := List.length_pos_iff.mpr moves
    refine cost_set_lt ?_
    simp only [Station.cost, inbox, List.length_append]
    omega

theorem kept_wrote {done rest : Bytes} (carries : d.Carries fs) (moves : done ≠ [])
    (split : (d.ends side).writing = done ++ rest) :
    d.Kept fs ((d.set side { d.ends side with writing := rest }).set side.other
      { d.ends side.other with inbox := (d.ends side.other).inbox ++ done }) fs where
  carries := by
    refine .of_sends side.other carries.room ?_ ?_ ?_ ?_
    · rw [ends_set_self]
      exact carries.alive side.other
    · rw [Side.other_other, ends_set_of_ne _ _ side.other_ne.symm, ends_set_self]
      exact carries.alive side
    · rw [Side.other_other, ends_set_self, ends_set_of_ne _ _ side.other_ne.symm, ends_set_self]
      exact ⟨(carries.backward side).stream, (carries.backward side).short⟩
    · rw [Side.other_other, ends_set_self, ends_set_of_ne _ _ side.other_ne.symm, ends_set_self]
      obtain ⟨⟨written, encodes, all⟩, short⟩ := carries.sends side
      refine ⟨⟨written, ?_, all⟩, short⟩
      rw [split] at encodes
      simpa using encodes
  due := by
    intro other
    rw [due_set, due_set]
    · rfl
    · rw [ends_set_other]
  cost := by
    have positive := List.length_pos_iff.mpr moves
    rw [cost_eq _ side.other, cost_eq d side, ends_set_self, Side.other_other,
      ends_set_of_ne _ _ side.other_ne.symm, ends_set_self]
    simp only [Station.cost, split, List.length_append]
    omega

theorem kept_loaded {f : Frame} {others : List Frame} {bytes : Bytes} (carries : d.Carries fs)
    (idle : (d.ends side).writing = []) (queued : (d.ends side).proxy.outbound = f :: others)
    (encoded : f.encode = .ok bytes) :
    d.Kept fs (d.set side { d.ends side with
      proxy := { (d.ends side).proxy with outbound := others }
      writing := bytes }) fs where
  carries := by
    refine carries.set (carries.alive side) ?_ ?_
    · obtain ⟨⟨written, encodes, all⟩, short⟩ := carries.sends side
      refine ⟨⟨written ++ [f], ?_, ?_⟩, short⟩
      · rw [idle, List.append_nil] at encodes
        exact encodes.concat encoded
      · rw [all, queued, List.append_assoc, List.singleton_append]
    · exact ⟨(carries.backward side).stream, (carries.backward side).short⟩
  due := due_set rfl
  cost := by
    refine cost_set_lt ?_
    simp only [Station.cost, idle, queued, Station.costOf, Frame.length_encode encoded,
      List.length_nil]
    omega

theorem kept_received {f : Frame} {rest : Bytes} (carries : d.Carries fs)
    (found : Frame.next (d.ends side).proxy.maxFrameLength (d.ends side).reading = .frame f rest) :
    ∃ others, d.Kept fs (d.set side { d.ends side with
      proxy := (d.ends side).proxy.receive f
      reading := rest }) (Function.update fs side.other others) := by
  obtain ⟨⟨written, encodes, all⟩, short⟩ := carries.backward side
  rw [List.append_assoc] at encodes
  obtain ⟨others, rfl, remain⟩ := encodes.next found
  rw [← List.append_assoc] at remain
  obtain ⟨slots, calls, received⟩ := (d.ends side).proxy.receive_eq f
  refine ⟨others ++ (d.ends side.other).proxy.outbound, ?_, ?_, ?_⟩
  · refine carries.set ?_ ?_ ?_
    · rw [received]
      exact carries.alive side
    · rw [Function.update_of_ne side.other_ne.symm, received]
      exact ⟨(carries.sends side).stream, (carries.sends side).short⟩
    · rw [Function.update_self, received]
      refine ⟨⟨others, remain, rfl⟩, fun g mem => short g ?_⟩
      rw [all]
      exact List.mem_cons_of_mem f mem
  · -- The frame is under way no longer. If it is a call, the proxy has its body to handle instead.
    intro other
    by_cases same : other = side
    · subst same
      rw [Duplex.due, Duplex.due, ends_set_self, Function.update_self, all, received]
      simp only [Proxy.due, List.map_append, List.append_assoc, Frame.callBodies, List.cons_append,
        List.filter_cons]
      cases f.kind <;> simp
    · have apart : other.other ≠ side.other := by
        cases other <;> cases side <;> simp_all [Side.other]
      rw [Duplex.due, Duplex.due, ends_set_of_ne d _ same, Function.update_of_ne apart]
  · have shorter := Frame.length_lt_of_next found
    refine cost_set_lt ?_
    simp only [Station.cost, received]
    omega

/-- A move keeps what is due, and leaves less to do. -/
theorem Moves.kept {d' : Duplex Station} (moves : d.Moves d') (carries : d.Carries fs) :
    ∃ fs', d.Kept fs d' fs' := by
  cases moves with
  | took side moves inbox => exact ⟨fs, kept_took carries moves inbox⟩
  | received side found =>
    obtain ⟨others, kept⟩ := kept_received carries found
    exact ⟨_, kept⟩
  | loaded side idle queued encoded => exact ⟨fs, kept_loaded carries idle queued encoded⟩
  | wrote side moves split => exact ⟨fs, kept_wrote carries moves split⟩

/-! ### Rest -/

/-- No step of the schedule can be taken. -/
theorem step?_of_next? (stands : d.connection.next? = none) {s : Step}
    (scheduled : s ∈ d.connection.schedule) : d.connection.step? s = none :=
  List.findSome?_eq_none_iff.mp stands s scheduled

theorem mem_schedule (d : Duplex Station) (side : Side) :
    .dispatch side ∈ d.connection.schedule ∧
      .take side (d.ends side).inbox.length ∈ d.connection.schedule ∧
      .load side ∈ d.connection.schedule ∧ .write side d.capacity ∈ d.connection.schedule := by
  cases side <;> simp [Connection.schedule, through, Station.terminal]

theorem inbox_of_next? (stands : d.connection.next? = none) (side : Side) :
    (d.ends side).inbox = [] := by
  have stuck : d.connection.take? side (d.ends side).inbox.length = none :=
    step?_of_next? stands (d.mem_schedule side).2.1
  rw [take?_connection, List.take_length] at stuck
  split at stuck
  next empty => simpa using empty
  next => cases stuck

theorem writing_of_next? (room : 0 < d.capacity) (stands : d.connection.next? = none) (side : Side) :
    (d.ends side).writing = [] := by
  have stuck : d.connection.write? side d.capacity = none :=
    step?_of_next? stands (d.mem_schedule side).2.2.2
  have free : d.connection.room side.other = d.capacity := by
    rw [Connection.room, terminal_through, Station.terminal, inbox_of_next? stands]
    exact Nat.sub_zero _
  rw [write?_connection, free, Nat.min_self, if_neg (Nat.ne_of_gt room)] at stuck
  split at stuck
  next empty => simpa using empty
  next => cases stuck

theorem outbound_of_next? (room : 0 < d.capacity) (stands : d.connection.next? = none) (side : Side) :
    (d.ends side).proxy.outbound = [] := by
  have stuck : d.connection.load? side = none := step?_of_next? stands (d.mem_schedule side).2.2.1
  rw [load?_connection, Session.load?, Station.session, writing_of_next? room stands side] at stuck
  cases queued : (d.ends side).proxy.outbound with
  | nil => rfl
  | cons f others =>
    simp only [queued, Option.bind_eq_bind, Option.bind_some, Option.map_eq_none_iff] at stuck
    split at stuck <;> cases stuck

theorem Carries.next_of_next? (carries : d.Carries fs) (stands : d.connection.next? = none)
    (side : Side) :
    Frame.next (d.ends side).proxy.maxFrameLength (d.ends side).reading = .more := by
  have stuck : d.connection.dispatch? side = none := step?_of_next? stands (d.mem_schedule side).1
  obtain more | ⟨f, rest, found⟩ := carries.next_cases side
  · exact more
  · simp [dispatch?_connection, Session.dispatch?, Station.session, found] at stuck

/-- Where no step can be taken, nothing is under way. -/
theorem Carries.eq_nil (carries : d.Carries fs) (stands : d.connection.next? = none) :
    fs = fun _ => [] := by
  funext side
  obtain ⟨⟨written, encodes, all⟩, short⟩ := carries.sends side
  rw [outbound_of_next? carries.room stands side, List.append_nil] at all
  subst all
  -- What is left are the bytes that the other end has taken, and its reader finds no frame in them.
  rw [inbox_of_next? stands, writing_of_next? carries.room stands, List.append_nil, List.append_nil]
    at encodes
  exact encodes.eq_nil (fun f mem => (short f mem).1) (carries.next_of_next? stands side.other)

theorem due_nil (d : Duplex Station) (side : Side) :
    d.due (fun _ => []) side = (d.ends side).proxy.due :=
  List.append_nil _

/-- Steps come to rest, with all that was under way. -/
theorem Carries.drain (carries : d.Carries fs) {fuel : Nat} (enough : d.cost < fuel) :
    ∃ d' : Duplex Station, d.connection.drain fuel = d'.connection ∧ d'.Carries (fun _ => []) ∧
      ∀ side, (d'.ends side).proxy.due = d.due fs side := by
  induction fuel generalizing d fs with
  | zero => exact absurd enough (Nat.not_lt_zero _)
  | succ fuel ih =>
    rw [Connection.drain]
    cases next : d.connection.next? with
    | none =>
      obtain rfl := carries.eq_nil next
      exact ⟨d, rfl, carries, fun side => (d.due_nil side).symm⟩
    | some c =>
      obtain ⟨s, -, taken⟩ := List.exists_of_findSome?_eq_some next
      obtain ⟨d', rfl, moves⟩ := moves_step carries taken
      obtain ⟨fs', kept⟩ := moves.kept carries
      obtain ⟨e, drained, carries', due⟩ := ih kept.carries
        (Nat.lt_of_lt_of_le kept.cost (Nat.le_of_lt_succ enough))
      exact ⟨e, drained, carries', fun side => (due side).trans (kept.due side)⟩

theorem foldl_cost (fs : List Frame) (n : Nat) :
    fs.foldl (fun n f => n + 3 * (Frame.headerLength + f.body.length) + 1) n =
      n + Station.costOf fs := by
  induction fs generalizing n with
  | nil => rfl
  | cons f fs ih => rw [List.foldl_cons, ih, Station.costOf, Nat.add_assoc, Nat.add_assoc, Nat.add_assoc]

theorem cost_lt_work (d : Duplex Station) (side : Side) :
    (d.ends side).cost < 2 * d.connection.work side := by
  have work : d.connection.work side = 2 * (d.ends side).inbox.length +
      ((d.ends side).reading.length + 2 * (d.ends side).writing.length +
        Station.costOf (d.ends side).proxy.outbound) + 4 := by
    rw [Connection.work, terminal_through]
    simp [Station.terminal, Station.session, foldl_cost]
  rw [work, Station.cost]
  omega

/-- The fuel of a run lasts. -/
theorem cost_lt_fuel (d : Duplex Station) :
    d.cost < 2 * (d.connection.work .near + d.connection.work .far) := by
  have near := d.cost_lt_work .near
  have far := d.cost_lt_work .far
  rw [cost]
  omega

/-- **A run comes to rest with all that was under way.** -/
theorem Carries.quiet (carries : d.Carries fs) :
    ∃ d' : Duplex Station, d.connection.quiet = d'.connection ∧ d'.Carries (fun _ => []) ∧
      ∀ side, (d'.ends side).proxy.due = d.due fs side :=
  carries.drain d.cost_lt_fuel

end Duplex

end ApiGateway
