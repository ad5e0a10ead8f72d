import ApiGateway.Proofs.Proxy.Concurrent
import ApiGateway.Proofs.Proxy.Duplex

/-
Two proxies at the ends of a connection, each among concurrent tasks.

* `Link` - a connection of two sessions, with the operations at each end that have begun and not
  ended.
* `LinkEvent`, `Link.step`, `Link.run` - steps of tasks at an end and steps of the connection, in
  any order. Nobody uses a queue directly.
* `Link.Moves` - what an event can do (`Link.moves_step`).
* `Link.exists_run` - seen from one end, a run is a run of its proxy.
-/

namespace ApiGateway

namespace Session

variable {s t : Session}

/-- What the reader and the writer of a session do on their own. -/
inductive Turns (s : Session) : Session → Prop where
  | received {bytes rest : Bytes} {f : Frame} (reading : s.reading = some bytes)
      (found : Frame.next s.proxy.maxFrameLength bytes = .frame f rest) :
      Turns s { s with proxy := s.proxy.receive f, reading := some rest }
  | stopped {reason : ProxyError} (reading : s.reading ≠ none) : Turns s (s.stopReading reason)
  | halted (writing : s.writing = some []) : Turns s { s with writing := none }
  | loaded {f : Frame} {fs : List Frame} {bytes : Bytes} (writing : s.writing = some [])
      (queued : s.proxy.outbound = f :: fs) (encoded : f.encode = .ok bytes) :
      Turns s { s with proxy := { s.proxy with outbound := fs }, writing := some bytes }
  /-- The frame at the front of the queue cannot be written. -/
  | failed {f : Frame} {fs : List Frame} (writing : s.writing = some [])
      (queued : s.proxy.outbound = f :: fs) :
      Turns s ({ s with proxy := { s.proxy with outbound := fs } } : Session).failWriting

theorem turns_stop (stopped : s.stop? = some t) : s.Turns t := by
  unfold stop? at stopped
  cases reading : s.reading with
  | none => simp [reading] at stopped
  | some bytes =>
    simp only [reading, Option.bind_eq_bind, Option.bind_some] at stopped
    split at stopped
    · cases stopped
    · cases stopped
      exact .stopped (by simp [reading])

theorem turns_dispatch (ended : Bool) (dispatched : s.dispatch? ended = some t) : s.Turns t := by
  unfold dispatch? at dispatched
  cases reading : s.reading with
  | none => simp [reading] at dispatched
  | some bytes =>
    simp only [reading, Option.bind_eq_bind, Option.bind_some] at dispatched
    split at dispatched
    next f rest found =>
      cases dispatched
      exact .received reading found
    next =>
      cases dispatched
      exact .stopped (by simp [reading])
    next =>
      split at dispatched
      · cases dispatched
        exact .stopped (by simp [reading])
      · cases dispatched

theorem turns_halt (halted : s.halt? = some t) : s.Turns t := by
  unfold halt? at halted
  cases writing : s.writing with
  | none => simp [writing] at halted
  | some bytes =>
    cases bytes with
    | cons => simp [writing] at halted
    | nil =>
      simp only [writing, Option.bind_eq_bind, Option.bind_some] at halted
      split at halted
      · cases halted
      · cases halted
        exact .halted writing

theorem turns_load (loaded : s.load? = some t) : s.Turns t := by
  unfold load? at loaded
  cases writing : s.writing with
  | none => simp [writing] at loaded
  | some bytes =>
    cases bytes with
    | cons => simp [writing] at loaded
    | nil =>
      simp only [writing, Option.bind_eq_bind, Option.bind_some] at loaded
      split at loaded
      · cases loaded
      next f fs queued =>
        split at loaded
        next bytes encoded =>
          cases loaded
          exact .loaded writing queued encoded
        next =>
          cases loaded
          exact .failed writing queued

end Session

/-- An end of a connection, with the operations on its proxy that have begun and not ended. -/
structure LinkEnd where
  session : Session
  inbox : Bytes := []
  isOpen : Bool := true
  allotted : List (UInt64 × Bytes) := []
  registered : List Nat := []
  unsent : List Nat := []
  expired : List Nat := []

namespace LinkEnd

abbrev proxy (x : LinkEnd) : Proxy := x.session.proxy

/-- What the tasks at an end see of it. -/
def view (x : LinkEnd) : ConcurrentProxy where
  proxy := x.proxy
  allotted := x.allotted
  registered := x.registered
  unsent := x.unsent
  expired := x.expired
  reading := x.session.reading.isSome

/-- The step of a task at an end. -/
def act (x : LinkEnd) (a : ProxyAction) : LinkEnd :=
  let s := x.view.act a
  { x with
    session := { x.session with proxy := s.proxy }
    allotted := s.allotted
    registered := s.registered
    unsent := s.unsent
    expired := s.expired }

/-- The end when its tasks have left it so. -/
def seen (x : LinkEnd) (s : ConcurrentProxy) : LinkEnd :=
  { x with
    session := { x.session with proxy := s.proxy }
    allotted := s.allotted
    registered := s.registered
    unsent := s.unsent
    expired := s.expired }

def terminal (x : LinkEnd) : Terminal := ⟨.session x.session, x.inbox, x.isOpen⟩

/-- The end when the connection has left it so. -/
def reach (x : LinkEnd) (t : Terminal) : LinkEnd :=
  match t.party with
  | .session s => { x with session := s, inbox := t.inbox, isOpen := t.isOpen }
  | .raw => x

@[simp] theorem view_act (x : LinkEnd) (a : ProxyAction) : (x.act a).view = x.view.act a := by
  have reading : (x.view.act a).reading = x.session.reading.isSome := x.view.reading_act a
  show ConcurrentProxy.mk _ _ _ _ _ x.session.reading.isSome = _
  rw [← reading]
  rfl

theorem act_collect {x : LinkEnd} {handle : Nat} (sent : ¬ x.view.begins handle) :
    x.act (.collect handle) =
      { x with session := { x.session with proxy := (x.proxy.collect handle).2 } } := by
  have seen : x.view.act (.collect handle) = { x.view with proxy := (x.proxy.collect handle).2 } :=
    if_neg sent
  rw [act, seen]
  rfl

end LinkEnd

/-- A connection of two proxies, each among concurrent tasks. -/
abbrev Link := Duplex LinkEnd

inductive LinkEvent where
  | act (side : Side) (a : ProxyAction)
  | step (s : Step)

namespace Link

variable {l : Link} {side : Side}

abbrev connection (l : Link) : Connection := l.through LinkEnd.terminal

def reach (l : Link) (c : Connection) : Link :=
  { l with ends := fun side => (l.ends side).reach (c.terminal side) }

/-- What an event does; a step that the connection cannot take does nothing. -/
def step (l : Link) : LinkEvent → Link
  | .act side a => l.set side ((l.ends side).act a)
  | .step s =>
    match l.connection.step? s with
    | some c => l.reach c
    | none => l

def run (l : Link) (events : List LinkEvent) : Link := events.foldl step l

@[simp] theorem run_nil (l : Link) : l.run [] = l := rfl

@[simp] theorem run_cons (l : Link) (e : LinkEvent) (es : List LinkEvent) :
    l.run (e :: es) = (l.step e).run es := rfl

theorem run_append (l : Link) (es es' : List LinkEvent) : l.run (es ++ es') = (l.run es).run es' :=
  List.foldl_append

/-! ### The connection of a link -/

theorem session?_connection (l : Link) (side : Side) :
    l.connection.session? side = some (l.ends side).session :=
  l.session?_through rfl

theorem reach_setSession (l : Link) (side : Side) (s : Session) :
    l.reach (l.connection.setSession side s) = l.set side { l.ends side with session := s } := by
  refine Duplex.ext_ends rfl fun other => ?_
  cases side <;> cases other <;> rfl

theorem reach_setInbox (l : Link) (side : Side) (s : Session) (bytes : Bytes) :
    l.reach ((l.connection.setSession side s).setInbox side bytes) =
      l.set side { l.ends side with session := s, inbox := bytes } := by
  refine Duplex.ext_ends rfl fun other => ?_
  cases side <;> cases other <;> rfl

theorem reach_setInbox_other (l : Link) (side : Side) (s : Session) (bytes : Bytes) :
    l.reach ((l.connection.setSession side s).setInbox side.other bytes) =
      (l.set side { l.ends side with session := s }).set side.other
        { l.ends side.other with inbox := bytes } := by
  refine Duplex.ext_ends rfl fun other => ?_
  cases side <;> cases other <;> rfl

theorem step_dispatch {s : Session}
    (dispatched : (l.ends side).session.dispatch? (l.connection.ended side) = some s) :
    l.step (.step (.dispatch side)) = l.set side { l.ends side with session := s } := by
  rw [← reach_setSession]
  simp [step, Connection.step?, Connection.dispatch?, session?_connection, dispatched]

/-- Steps of tasks at one end are steps of its proxy. -/
theorem run_map_act (l : Link) (side : Side) (actions : List ProxyAction) :
    l.run (actions.map (.act side)) =
      l.set side ((l.ends side).seen ((l.ends side).view.run (actions.map .act))) := by
  induction actions generalizing l with
  | nil =>
    refine Duplex.ext_ends rfl fun other => ?_
    exact (congrFun (Function.update_eq_self side l.ends) other).symm
  | cons a actions ih =>
    have acted : l.step (.act side a) = l.set side ((l.ends side).act a) := rfl
    rw [List.map_cons, run_cons, ih, acted, Duplex.ends_set_self, LinkEnd.view_act]
    refine Duplex.ext_ends rfl fun other => ?_
    by_cases same : other = side
    case pos =>
      subst same
      simp only [Duplex.ends_set_self]
      rfl
    case neg => simp only [Duplex.ends_set_of_ne _ _ same]

/-! ### What an event can do -/

/-- What an event can do to a link. -/
inductive Moves (l : Link) : LinkEvent → Link → Prop where
  | idle {e : LinkEvent} : Moves l e l
  | acted (side : Side) (a : ProxyAction) :
      Moves l (.act side a) (l.set side ((l.ends side).act a))
  | turned {e : LinkEvent} (side : Side) {s : Session} (turns : (l.ends side).session.Turns s) :
      Moves l e (l.set side { l.ends side with session := s })
  | took {e : LinkEvent} (side : Side) {bytes taken rest : Bytes}
      (reading : (l.ends side).session.reading = some bytes)
      (inbox : (l.ends side).inbox = taken ++ rest) :
      Moves l e (l.set side { l.ends side with
        session := { (l.ends side).session with reading := some (bytes ++ taken) }
        inbox := rest })
  | wrote {e : LinkEvent} (side : Side) {bytes done rest : Bytes}
      (writing : (l.ends side).session.writing = some bytes) (split : bytes = done ++ rest) :
      Moves l e ((l.set side { l.ends side with
        session := { (l.ends side).session with writing := some rest } }).set side.other
          { l.ends side.other with inbox := (l.ends side.other).inbox ++ done })
  /-- There is nobody to write to. -/
  | failed {e : LinkEvent} (side : Side) (gone : (l.ends side.other).isOpen = false) :
      Moves l e (l.set side { l.ends side with session := (l.ends side).session.failWriting })
  | released {e : LinkEvent} (side : Side) (reading : (l.ends side).session.reading = none) :
      Moves l e (l.set side { l.ends side with isOpen := false })

theorem moves_of_setSession (side : Side) {e : LinkEvent} {c : Connection} {result : Option Session}
    (turns : ∀ s, result = some s → (l.ends side).session.Turns s)
    (taken : result.bind (fun s => some (l.connection.setSession side s)) = some c) :
    l.Moves e (l.reach c) := by
  obtain ⟨s, some, same⟩ := Option.bind_eq_some_iff.mp taken
  cases same
  rw [reach_setSession]
  exact .turned side (turns s some)

theorem moves_take {e : LinkEvent} {c : Connection} {count : Nat}
    (taken : l.connection.take? side count = some c) : l.Moves e (l.reach c) := by
  unfold Connection.take? at taken
  rw [session?_connection, Duplex.terminal_through] at taken
  simp only [Option.bind_eq_bind, Option.bind_some] at taken
  cases reading : (l.ends side).session.reading with
  | none => simp [reading] at taken
  | some bytes =>
    simp only [reading, Option.bind_some] at taken
    split at taken
    · cases taken
    · cases taken
      rw [reach_setInbox]
      exact .took side reading (List.take_append_drop count _).symm

theorem moves_write {e : LinkEvent} {c : Connection} {count : Nat}
    (taken : l.connection.write? side count = some c) : l.Moves e (l.reach c) := by
  unfold Connection.write? at taken
  rw [session?_connection, Duplex.terminal_through] at taken
  simp only [Option.bind_eq_bind, Option.bind_some] at taken
  cases writing : (l.ends side).session.writing with
  | none => simp [writing] at taken
  | some bytes =>
    simp only [writing, Option.bind_some] at taken
    split at taken
    · cases taken
    · split at taken
      next gone =>
        cases taken
        rw [reach_setSession]
        exact .failed side (by simpa [LinkEnd.terminal] using gone)
      next =>
        split at taken
        · cases taken
        · cases taken
          rw [reach_setInbox_other]
          exact .wrote side writing (List.take_append_drop _ _).symm

theorem moves_release {e : LinkEvent} {c : Connection}
    (taken : l.connection.release? side = some c) : l.Moves e (l.reach c) := by
  unfold Connection.release? at taken
  rw [session?_connection, Duplex.terminal_through] at taken
  simp only [Option.bind_eq_bind, Option.bind_some] at taken
  split at taken
  next stopped =>
    cases taken
    have reading : (l.ends side).session.reading = none := by
      simp only [Bool.and_eq_true, Option.isNone_iff_eq_none] at stopped
      exact stopped.1.2
    have released : l.reach (l.connection.setTerminal side
        { (l.ends side).terminal with isOpen := false }) =
        l.set side { l.ends side with isOpen := false } := by
      refine Duplex.ext_ends rfl fun other => ?_
      cases side <;> cases other <;> rfl
    rw [released]
    exact .released side reading
  next => cases taken

/-- Each event is one of the moves. -/
theorem moves_step (l : Link) (e : LinkEvent) : l.Moves e (l.step e) := by
  cases e with
  | act side a => exact .acted side a
  | step s =>
    simp only [step]
    cases taken : l.connection.step? s with
    | none => exact .idle
    | some c =>
      cases s with
      | take side count => exact moves_take taken
      | write side count => exact moves_write taken
      | release side => exact moves_release taken
      | stop side =>
        refine moves_of_setSession side (fun s => Session.turns_stop) ?_
        simpa [Connection.step?, Connection.stop?, session?_connection] using taken
      | dispatch side =>
        refine moves_of_setSession side (fun s => Session.turns_dispatch (l.connection.ended side)) ?_
        simpa [Connection.step?, Connection.dispatch?, session?_connection] using taken
      | halt side =>
        refine moves_of_setSession side (fun s => Session.turns_halt) ?_
        simpa [Connection.step?, Connection.halt?, session?_connection] using taken
      | load side =>
        refine moves_of_setSession side (fun s => Session.turns_load) ?_
        simpa [Connection.step?, Connection.load?, session?_connection] using taken

/-! ### Seen from one end -/

theorem exists_run_of_turns {x : LinkEnd} {t : Session} (turns : x.session.Turns t) :
    ∃ es, ({ x with session := t } : LinkEnd).view = x.view.run es := by
  cases turns with
  | @received _ _ f reading =>
    refine ⟨[.receive f], ?_⟩
    simp [LinkEnd.view, ConcurrentProxy.step, reading]
  | @stopped reason reading =>
    refine ⟨[.stop reason], ?_⟩
    have reads : x.session.reading.isSome = true := Option.isSome_iff_ne_none.mpr reading
    simp [LinkEnd.view, ConcurrentProxy.step, reads, Session.stopReading]
  | halted => exact ⟨[], rfl⟩
  | loaded writing queued =>
    refine ⟨[.load], ?_⟩
    simp [LinkEnd.view, ConcurrentProxy.step, queued]
  | failed writing queued =>
    refine ⟨[.load, .act .die], ?_⟩
    simp [LinkEnd.view, ConcurrentProxy.step, ConcurrentProxy.act, queued, Session.failWriting]

/-- What an event does to the view of an end that it changes, and to the other, which it leaves. -/
theorem exists_run_set {l : Link} (side : Side) {x : LinkEnd}
    (run : ∃ es, x.view = (l.ends side).view.run es) (other : Side) :
    ∃ es, ((l.set side x).ends other).view = (l.ends other).view.run es := by
  by_cases same : other = side
  · subst same
    simpa using run
  · exact ⟨[], by rw [l.ends_set_of_ne x same]; rfl⟩

theorem view_set {l : Link} {side : Side} {x : LinkEnd} (same : x.view = (l.ends side).view)
    (other : Side) : ((l.set side x).ends other).view = (l.ends other).view := by
  by_cases changed : other = side
  · subst changed
    simpa using same
  · rw [l.ends_set_of_ne x changed]

theorem Moves.exists_run {m : Link} {e : LinkEvent} (moves : l.Moves e m) (side : Side) :
    ∃ es, (m.ends side).view = (l.ends side).view.run es := by
  cases moves with
  | idle => exact ⟨[], rfl⟩
  | acted acting a => exact exists_run_set acting ⟨[.act a], LinkEnd.view_act _ a⟩ side
  | turned acting turns => exact exists_run_set acting (exists_run_of_turns turns) side
  | took acting reading =>
    exact exists_run_set acting ⟨[], by simp [LinkEnd.view, LinkEnd.proxy, reading]⟩ side
  | wrote acting =>
    refine ⟨[], (view_set ?_ side).trans (view_set ?_ side)⟩
    · rw [Duplex.ends_set_other]
      rfl
    · rfl
  | failed acting => exact exists_run_set acting ⟨[.act .die], rfl⟩ side
  | released acting =>
    refine ⟨[], view_set ?_ side⟩
    rfl

/-- Seen from one end, a run of a link is a run of the proxy there. -/
theorem exists_run (l : Link) (es : List LinkEvent) (side : Side) :
    ∃ es', ((l.run es).ends side).view = (l.ends side).view.run es' := by
  induction es generalizing l with
  | nil => exact ⟨[], rfl⟩
  | cons e es ih =>
    obtain ⟨first, step⟩ := (l.moves_step e).exists_run side
    obtain ⟨rest, run⟩ := ih (l.step e)
    exact ⟨first ++ rest, by rw [run_cons, run, step, ConcurrentProxy.run_append]⟩
end Link

end ApiGateway
