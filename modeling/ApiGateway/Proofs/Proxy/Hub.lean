import ApiGateway.Proofs.Proxy.Answers
import ApiGateway.Proofs.Proxy.Ownership
import ApiGateway.Proofs.Proxy.PeerCalls
import Mathlib.Data.List.Induction

/-
A gateway's connections and the registry that its proxies share.

Anything can happen at any connection, and handlers are done in any order. A handler of announcements
enters the names of a record into the registry one by one, and replies after the last one. Between any
two of its steps other handlers enter names of theirs, and somebody may use the registry.

* `Hub` - the connections, the registry and the counts of names; `HubEvent` - what can happen.
* `Hub.registry_enterAll` - without such a pause, the steps are those of a handler that does all at
  once.
* `Hub.links_run` - seen from one connection, a run of a hub is a run of its link.
* `Hub.registry_run` - seen from the registry, it is a history.
* `Hub.Handling` - a call of a peer is handled in a run; `Hub.exists_handling` - what its link sees of
  it comes from the hub.
* `Hub.Entry` - a handler enters a name in a run; `Hub.Handling.exists_entry` - when a handler is
  done, it has entered each name of its record.
-/

namespace ApiGateway

/-- A handler is done with a call. -/
def LinkEvent.Handles : LinkEvent → Prop
  | .act _ (.reply ..) => True
  | _ => False

instance : DecidablePred LinkEvent.Handles
  | .act _ (.allot _) | .act _ (.register ..) | .act _ (.send ..) | .act _ (.retract _)
  | .act _ (.collect _) | .act _ (.expire ..) | .act _ (.release _) | .act _ (.abandon _)
  | .act _ (.close _) | .act _ .die | .step _ => .isFalse id
  | .act _ (.reply ..) => .isTrue trivial

namespace Registration

/-- The names that the handler of an announcement enters. -/
def entries (body : Bytes) : List String :=
  match decode body with
  | .ok reg => reg.services
  | .error _ => []

end Registration

/-! ### Calls of the peer at an end -/

namespace Link

variable {l : Link} {side : Side}

theorem inbound_of_turns {s t : Session} (turns : s.Turns t) :
    s.proxy.inbound <+: t.proxy.inbound := by
  cases turns with
  | @received _ _ f =>
    obtain ⟨slots, calls, received⟩ := s.proxy.receive_eq f
    rw [received]
    exact List.prefix_append _ _
  | @stopped reason =>
    have kept : (s.proxy.close reason).inbound = s.proxy.inbound := LinkEnd.inbound_close _ _
    exact kept ▸ List.prefix_rfl
  | halted | loaded | failed => exact List.prefix_rfl

theorem inbound_set {acting : Side} {x : LinkEnd}
    (comes : (l.ends acting).proxy.inbound <+: x.proxy.inbound) (side : Side) :
    (l.ends side).proxy.inbound <+: ((l.set acting x).ends side).proxy.inbound := by
  by_cases same : side = acting
  · subst same
    rwa [Duplex.ends_set_self]
  · exact (l.ends_set_of_ne x same).symm ▸ List.prefix_rfl

/-- Calls of the peer come, and nothing but the end of a handler takes one away. -/
theorem inbound_step (l : Link) {e : LinkEvent} (other : ¬ e.Handles) (side : Side) :
    (l.ends side).proxy.inbound <+: ((l.step e).ends side).proxy.inbound := by
  have moves := l.moves_step e
  generalize l.step e = m at moves
  cases moves with
  | idle => exact List.prefix_rfl
  | acted acting a =>
    have kept : ((l.ends acting).act a).proxy.inbound = (l.ends acting).proxy.inbound := by
      refine (l.ends acting).view.inbound_act ?_
      rintro self position registry late rfl
      exact other trivial
    exact inbound_set (kept ▸ List.prefix_rfl) side
  | turned acting turns => exact inbound_set (inbound_of_turns turns) side
  | took acting | failed acting | released acting =>
    refine inbound_set ?_ side
    exact List.prefix_rfl
  | wrote acting =>
    refine List.IsPrefix.trans (inbound_set ?_ side) (inbound_set ?_ side)
    · exact List.prefix_rfl
    · exact (Duplex.ends_set_other _ acting _).symm ▸ List.prefix_rfl

theorem inbound_reply (l : Link) (acting : Side) (self : ProxyRef) (position : Nat)
    (registry : ProxyRegistry) (late : Bool) :
    ((l.step (.act acting (.reply self position registry late))).ends side).proxy.inbound =
      if side = acting then (l.ends side).proxy.inbound.eraseIdx position
      else (l.ends side).proxy.inbound := by
  have replied : (l.step (.act acting (.reply self position registry late))) =
      l.set acting ((l.ends acting).act (.reply self position registry late)) := rfl
  rw [replied]
  split
  next same =>
    subst same
    rw [Duplex.ends_set_self]
    exact (l.ends side).proxy.inbound_reply self position registry late
  next apart => rw [l.ends_set_of_ne _ apart]

end Link

/-! ### Runs -/

/-- Connections of two proxies, and the registry that the proxies share. -/
structure Hub where
  links : Nat → Link
  registry : ProxyRegistry := {}
  /-- The ends where announcements are handled. The handlers at other ends leave the registry. -/
  registrar : ProxyRef → Bool
  /-- How many names of the peer's call at a position its handler has entered. -/
  entered : ProxyRef → Nat → Nat := fun _ _ => 0

inductive HubEvent where
  /-- Anything but the end of a handler happens at a connection. -/
  | link (number : Nat) (e : LinkEvent)
  /-- The handler of the peer's call at a position enters its next name. -/
  | enter (p : ProxyRef) (position : Nat)
  /-- The handler of the peer's call at a position is done. -/
  | handle (p : ProxyRef) (position : Nat) (late : Bool)
  /-- Somebody uses the registry. -/
  | registry (e : RegistryEvent)

namespace Hub

variable {h : Hub} {p q : ProxyRef} {c : InboundCall} {position number : Nat}

def proxy (h : Hub) (p : ProxyRef) : Proxy := ((h.links p.connection).ends p.side).proxy

/-- The name that the handler of the peer's call at a position has still to enter first. -/
def next? (h : Hub) (p : ProxyRef) (position : Nat) : Option String :=
  match (h.proxy p).inbound[position]? with
  | some c => if h.registrar p then (Registration.entries c.body)[h.entered p position]? else none
  | none => none

/-- What an event is for a connection, with the number of this. A handler is not done before it has
entered its names. -/
def linkEvent? (h : Hub) : HubEvent → Option (Nat × LinkEvent)
  | .link number e => if e.Handles then none else some (number, e)
  | .handle p position late =>
    match h.next? p position with
    | none => some (p.connection, .act p.side (.reply p position h.registry late))
    | some _ => none
  | .enter .. | .registry _ => none

/-- What an event is for the registry. -/
def registryEvent? (h : Hub) : HubEvent → Option RegistryEvent
  | .enter p position => (h.next? p position).map (.register · p)
  | .registry e => some e
  | .link .. | .handle .. => none

/-- The counts after an event. The calls behind one that was handled move up. -/
def enteredAfter (h : Hub) : HubEvent → ProxyRef → Nat → Nat
  | .enter p position =>
    match h.next? p position with
    | none => h.entered
    | some _ => Function.update h.entered p
        (Function.update (h.entered p) position (h.entered p position + 1))
  | .handle p position _ =>
    match h.next? p position with
    | none => Function.update h.entered p fun i => h.entered p (if i < position then i else i + 1)
    | some _ => h.entered
  | .link .. | .registry _ => h.entered

/-- What an event does. -/
def step (h : Hub) (e : HubEvent) : Hub where
  links := match h.linkEvent? e with
    | some (number, e) => Function.update h.links number ((h.links number).step e)
    | none => h.links
  registry := h.registry.run (h.registryEvent? e).toList
  registrar := h.registrar
  entered := h.enteredAfter e

def run (h : Hub) (es : List HubEvent) : Hub := es.foldl step h

@[simp] theorem run_nil (h : Hub) : h.run [] = h := rfl

@[simp] theorem run_cons (h : Hub) (e : HubEvent) (es : List HubEvent) :
    h.run (e :: es) = (h.step e).run es := rfl

theorem run_append (h : Hub) (es es' : List HubEvent) : h.run (es ++ es') = (h.run es).run es' :=
  List.foldl_append

/-! ### Seen from one connection -/

/-- What a run is for a connection. -/
def eventsOf (number : Nat) (h : Hub) : List HubEvent → List LinkEvent
  | [] => []
  | e :: es =>
    match h.linkEvent? e with
    | some (other, e') =>
      if other = number then e' :: eventsOf number (h.step e) es else eventsOf number (h.step e) es
    | none => eventsOf number (h.step e) es

/-- Seen from one connection, a run is a run of its link. -/
theorem links_run (h : Hub) (es : List HubEvent) (number : Nat) :
    (h.run es).links number = (h.links number).run (h.eventsOf number es) := by
  induction es generalizing h with
  | nil => rfl
  | cons e es ih =>
    rw [run_cons, ih, eventsOf]
    cases seen : h.linkEvent? e with
    | none => simp [step, seen]
    | some found =>
      obtain ⟨other, e'⟩ := found
      by_cases same : other = number
      · subst same
        simp [step, seen]
      · simp [step, seen, same, Function.update_of_ne (Ne.symm same)]

/-! ### Seen from the registry -/

/-- What a run is for the registry. -/
def history (h : Hub) : List HubEvent → List RegistryEvent
  | [] => []
  | e :: es => (h.registryEvent? e).toList ++ (h.step e).history es

/-- Seen from the registry, a run is a history. -/
theorem registry_run (h : Hub) (es : List HubEvent) :
    (h.run es).registry = h.registry.run (h.history es) := by
  induction es generalizing h with
  | nil => rfl
  | cons e es ih =>
    have split : h.registry.run (h.history (e :: es)) =
        (h.step e).registry.run ((h.step e).history es) := List.foldl_append
    rw [run_cons, ih, split]

/-- What happens at one connection, without the end of a handler, leaves the registry and the
counts. -/
theorem run_map_link (h : Hub) (number : Nat) {es : List LinkEvent}
    (open' : ∀ e ∈ es, ¬ e.Handles) :
    h.run (es.map (.link number)) =
      { h with links := Function.update h.links number ((h.links number).run es) } := by
  induction es generalizing h with
  | nil => simp
  | cons e es ih =>
    rw [List.forall_mem_cons] at open'
    rw [List.map_cons, run_cons, ih _ open'.2]
    simp [step, linkEvent?, registryEvent?, enteredAfter, open'.1, ProxyRegistry.run]

theorem links_run_map_link (h : Hub) (number : Nat) {es : List LinkEvent}
    (open' : ∀ e ∈ es, ¬ e.Handles) :
    (h.run (es.map (.link number))).links number = (h.links number).run es := by
  rw [run_map_link h number open']
  exact Function.update_self number _ h.links

/-! ### Handlers -/

/-- What an event does to the peer's calls at an end, and to the counts of their names. -/
inductive Progress (h : Hub) (p : ProxyRef) : HubEvent → List InboundCall → (Nat → Nat) → Prop where
  | comes {e : HubEvent} {inbound : List InboundCall} (more : (h.proxy p).inbound <+: inbound) :
      Progress h p e inbound (h.entered p)
  | enters {position : Nat} {service : String} (next : h.next? p position = some service) :
      Progress h p (.enter p position) (h.proxy p).inbound
        (Function.update (h.entered p) position (h.entered p position + 1))
  | leaves (position : Nat) (late : Bool) :
      Progress h p (.handle p position late) ((h.proxy p).inbound.eraseIdx position)
        fun i => h.entered p (if i < position then i else i + 1)

theorem links_step_handle (next : h.next? q position = none) (late : Bool) :
    (h.step (.handle q position late)).links = Function.update h.links q.connection
      ((h.links q.connection).step (.act q.side (.reply q position h.registry late))) := by
  simp [step, linkEvent?, next]

theorem inbound_step_handle (next : h.next? q position = none) (late : Bool) (p : ProxyRef) :
    ((h.step (.handle q position late)).proxy p).inbound =
      if p = q then (h.proxy p).inbound.eraseIdx position else (h.proxy p).inbound := by
  obtain ⟨number, side⟩ := p
  rw [proxy, links_step_handle next]
  by_cases same : number = q.connection
  case neg =>
    have apart : ProxyRef.mk number side ≠ q := fun equal => same (congrArg ProxyRef.connection equal)
    rw [Function.update_of_ne same, if_neg apart]
    rfl
  case pos =>
    subst same
    rw [Function.update_self, Link.inbound_reply]
    obtain ⟨connection, side'⟩ := q
    simp [proxy]

theorem progress_step (h : Hub) (e : HubEvent) (p : ProxyRef) :
    h.Progress p e ((h.step e).proxy p).inbound ((h.step e).entered p) := by
  have comes {e : HubEvent} (entered : (h.step e).entered p = h.entered p)
      (more : (h.proxy p).inbound <+: ((h.step e).proxy p).inbound) :
      h.Progress p e ((h.step e).proxy p).inbound ((h.step e).entered p) := by
    rw [entered]
    exact .comes more
  cases e with
  | registry e => exact comes rfl List.prefix_rfl
  | link number e =>
    refine comes rfl ?_
    by_cases handles : e.Handles
    · simp [proxy, step, linkEvent?, handles]
    · by_cases here : p.connection = number
      · subst here
        simpa [proxy, step, linkEvent?, handles] using
          (h.links p.connection).inbound_step handles p.side
      · simp [proxy, step, linkEvent?, handles, Function.update_of_ne here]
  | enter q position =>
    cases next : h.next? q position with
    | none => exact comes (by simp [step, enteredAfter, next]) List.prefix_rfl
    | some service =>
      by_cases here : p = q
      case neg => exact comes (by simp [step, enteredAfter, next, here]) List.prefix_rfl
      case pos =>
        subst here
        have entered : (h.step (.enter p position)).entered p =
            Function.update (h.entered p) position (h.entered p position + 1) := by
          simp [step, enteredAfter, next]
        rw [entered]
        exact .enters next
  | handle q position late =>
    cases next : h.next? q position with
    | some service =>
      refine comes (by simp [step, enteredAfter, next]) ?_
      simp [proxy, step, linkEvent?, next]
    | none =>
      rw [inbound_step_handle next]
      by_cases here : p = q
      case pos =>
        subst here
        have entered : (h.step (.handle p position late)).entered p =
            fun i => h.entered p (if i < position then i else i + 1) := by
          simp [step, enteredAfter, next]
        rw [entered, if_pos rfl]
        exact .leaves position late
      case neg =>
        have entered : (h.step (.handle q position late)).entered p = h.entered p := by
          simp [step, enteredAfter, next, here]
        rw [entered, if_neg here]
        exact .comes List.prefix_rfl

theorem handler_run (h : Hub) (es : List HubEvent) (p : ProxyRef) :
    ((h.run es).proxy p).handler = (h.proxy p).handler := by
  rw [proxy, links_run, Link.handler_run]
  rfl

@[simp] theorem registrar_run (h : Hub) (es : List HubEvent) : (h.run es).registrar = h.registrar := by
  induction es generalizing h with
  | nil => rfl
  | cons e es ih => exact ih (h.step e)

theorem next?_eq (found : (h.proxy p).inbound[position]? = some c) (registrar : h.registrar p = true) :
    h.next? p position = (Registration.entries c.body)[h.entered p position]? := by
  simp [next?, found, registrar]

theorem next?_eq_some_iff {service : String} : h.next? p position = some service ↔
    ∃ c, (h.proxy p).inbound[position]? = some c ∧ h.registrar p = true ∧
      (Registration.entries c.body)[h.entered p position]? = some service := by
  unfold next?
  cases (h.proxy p).inbound[position]? <;> simp

theorem step_enter {service : String} (next : h.next? p position = some service) :
    h.step (.enter p position) = { h with
      registry := h.registry.register service p
      entered := Function.update h.entered p
        (Function.update (h.entered p) position (h.entered p position + 1)) } := by
  simp [step, linkEvent?, registryEvent?, enteredAfter, next, ProxyRegistry.run, ProxyRegistry.step]

theorem exists_step_enter {links : Nat → Link} {registry : ProxyRegistry}
    {registrar : ProxyRef → Bool} {counts : ProxyRef → Nat → Nat} {service : String}
    (next : Hub.next? ⟨links, registry, registrar, counts⟩ p position = some service) :
    ∃ counts', Hub.step ⟨links, registry, registrar, counts⟩ (.enter p position) =
        ⟨links, registry.register service p, registrar, counts'⟩ ∧
      counts' p position = counts p position + 1 ∧ ∀ q ≠ p, counts' q = counts q :=
  ⟨_, step_enter next, by simp, fun _ apart => Function.update_of_ne apart _ _⟩

/-- A handler that nobody disturbs enters what is left of its record, and is done. -/
theorem run_enterAll (found : (h.proxy p).inbound[position]? = some c)
    (registrar : h.registrar p = true) {services : List String}
    (left : (Registration.entries c.body).drop (h.entered p position) = services) :
    ∃ entered, h.run (List.replicate services.length (.enter p position)) =
        { h with registry := h.registry.registerAll services p, entered := entered } ∧
      (h.run (List.replicate services.length (.enter p position))).next? p position = none := by
  induction services generalizing h with
  | nil =>
    refine ⟨h.entered, rfl, ?_⟩
    rw [List.length_nil, List.replicate_zero, run_nil, next?_eq found registrar,
      List.getElem?_eq_none_iff]
    exact List.drop_eq_nil_iff.mp left
  | cons service services ih =>
    have next : h.next? p position = some service := by
      rw [next?_eq found registrar, ← List.head?_drop, left]
      rfl
    rw [List.length_cons, List.replicate_succ, run_cons, step_enter next]
    refine ih found registrar ?_
    simp only [Function.update_self]
    rw [← List.tail_drop, left, List.tail_cons]

/-- Without a pause the steps of a handler of announcements do what it does at once. -/
theorem registry_enterAll (found : (h.proxy p).inbound[position]? = some c)
    (registrar : h.registrar p = true) (start : h.entered p position = 0) :
    (h.run (List.replicate (Registration.entries c.body).length (.enter p position))).registry =
      (CallHandler.registration p c.body h.registry).2 := by
  have left : (Registration.entries c.body).drop (h.entered p position) =
      Registration.entries c.body := by rw [start, List.drop_zero]
  obtain ⟨entered, run, -⟩ := run_enterAll found registrar left
  rw [run, CallHandler.registration, Registration.entries]
  cases Registration.decode c.body <;> rfl

/-- A handler enters a name in a run. -/
structure Entry (h : Hub) (es : List HubEvent) (p : ProxyRef) (c : InboundCall)
    (service : String) where
  before : List HubEvent
  position : Nat
  after : List HubEvent
  split : es = before ++ .enter p position :: after
  found : ((h.run before).proxy p).inbound[position]? = some c
  next : (h.run before).next? p position = some service

namespace Entry

variable {es : List HubEvent} {service : String}

def later (n : h.Entry es p c service) (e : HubEvent) : h.Entry (es ++ [e]) p c service :=
  ⟨n.before, n.position, n.after ++ [e], by simp [n.split], n.found, n.next⟩

/-- The registry right after the name was entered. -/
def registry (n : h.Entry es p c service) : ProxyRegistry :=
  (h.run (n.before ++ [.enter p n.position])).registry

/-- What the registry has seen since then. -/
def since (n : h.Entry es p c service) : List RegistryEvent :=
  (h.run (n.before ++ [.enter p n.position])).history n.after

theorem registry_eq (n : h.Entry es p c service) :
    n.registry = (h.run n.before).registry.register service p := by
  have event : (h.run n.before).registryEvent? (.enter p n.position) = some (.register service p) := by
    rw [registryEvent?, n.next]
    rfl
  rw [registry, run_append, run_cons, run_nil, step, event]
  rfl

theorem registry_run_since (n : h.Entry es p c service) :
    (h.run es).registry = n.registry.run n.since := by
  have whole : h.run es = (h.run (n.before ++ [.enter p n.position])).run n.after := by
    rw [← run_append, List.append_assoc, List.singleton_append, ← n.split]
  rw [whole, registry_run]
  rfl

end Entry

/-- Behind the last call of the peer nothing is counted. -/
theorem entered_run_of_length_le (start : ∀ position, h.entered p position = 0)
    (es : List HubEvent) : ∀ position, ((h.run es).proxy p).inbound.length ≤ position →
      (h.run es).entered p position = 0 := by
  induction es using List.reverseRecOn with
  | nil => exact fun position _ => start position
  | append_singleton es e ih =>
    rw [run_append, run_cons, run_nil]
    have progress := (h.run es).progress_step e p
    generalize (((h.run es).step e).proxy p).inbound = inbound at progress
    generalize ((h.run es).step e).entered p = counts at progress
    intro position beyond
    cases progress with
    | comes more => exact ih position (more.length_le.trans beyond)
    | enters next =>
      obtain ⟨c, found, -⟩ := next?_eq_some_iff.mp next
      have there := (List.getElem?_eq_some_iff.mp found).1
      rw [Function.update_of_ne (Nat.ne_of_gt (Nat.lt_of_lt_of_le there beyond))]
      exact ih position beyond
    | leaves position' late =>
      refine ih _ ?_
      rw [List.length_eraseIdx] at beyond
      split at beyond <;> split <;> omega

/-- The names that are counted were entered. -/
theorem exists_entry_run (start : ∀ position, h.entered p position = 0) (es : List HubEvent) :
    ∀ position c, ((h.run es).proxy p).inbound[position]? = some c →
      ∀ i < (h.run es).entered p position, ∀ service,
        (Registration.entries c.body)[i]? = some service → Nonempty (h.Entry es p c service) := by
  induction es using List.reverseRecOn with
  | nil => simp [start]
  | append_singleton es e ih =>
    have old : ∀ position c, ((h.run es).proxy p).inbound[position]? = some c →
        ∀ i < (h.run es).entered p position, ∀ service,
          (Registration.entries c.body)[i]? = some service →
            Nonempty (h.Entry (es ++ [e]) p c service) :=
      fun position c found i below service at' =>
        (ih position c found i below service at').map (·.later e)
    rw [run_append, run_cons, run_nil]
    have progress := (h.run es).progress_step e p
    generalize (((h.run es).step e).proxy p).inbound = inbound at progress
    generalize ((h.run es).step e).entered p = counts at progress
    intro position c found i below service at'
    cases progress with
    | comes more =>
      obtain ⟨more, rfl⟩ := more
      obtain there | beyond := Nat.lt_or_ge position ((h.run es).proxy p).inbound.length
      · rw [List.getElem?_append_left there] at found
        exact old position c found i below service at'
      · rw [entered_run_of_length_le start es position beyond] at below
        cases below
    | @enters position' service' next =>
      by_cases same : position = position' ∧ i = (h.run es).entered p position
      case pos =>
        obtain ⟨rfl, rfl⟩ := same
        obtain ⟨c', found', -, first⟩ := next?_eq_some_iff.mp next
        cases found.symm.trans found'
        cases at'.symm.trans first
        exact ⟨⟨es, position, [], rfl, found, next⟩⟩
      case neg =>
        refine old position c found i ?_ service at'
        rw [Function.update_apply] at below
        split at below
        next here =>
          subst here
          have apart : i ≠ (h.run es).entered p position := fun last => same ⟨rfl, last⟩
          omega
        next => exact below
    | leaves position' late =>
      rw [List.getElem?_eraseIdx] at found
      dsimp only at below
      split at found
      next before =>
        rw [if_pos before] at below
        exact old position c found i below service at'
      next behind =>
        rw [if_neg behind] at below
        exact old (position + 1) c found i below service at'

/-- A call of a peer is handled in a run: what came before and what after. -/
structure Handling (h : Hub) (es : List HubEvent) (p : ProxyRef) (c : InboundCall) where
  before : List HubEvent
  position : Nat
  late : Bool
  after : List HubEvent
  split : es = before ++ .handle p position late :: after
  found : ((h.run before).proxy p).inbound[position]? = some c
  /-- The handler has entered all names. -/
  done : (h.run before).next? p position = none

namespace Handling

variable {es : List HubEvent}

/-- The registry right after the call was handled. -/
def registry (t : h.Handling es p c) : ProxyRegistry :=
  (h.run (t.before ++ [.handle p t.position t.late])).registry

/-- The body of the reply. -/
def reply (t : h.Handling es p c) : Bytes :=
  (Proxy.replyBody ((h.run t.before).proxy p).handler p c.body (h.run t.before).registry).1

theorem registry_eq (t : h.Handling es p c) : t.registry = (h.run t.before).registry := by
  rw [registry, run_append]
  rfl

/-- When a handler is done, it has entered each name of its record. -/
theorem exists_entry (t : h.Handling es p c) (start : ∀ position, h.entered p position = 0)
    (registrar : h.registrar p = true) {service : String}
    (mem : service ∈ Registration.entries c.body) : Nonempty (h.Entry t.before p c service) := by
  obtain ⟨i, at'⟩ := List.mem_iff_getElem?.mp mem
  have done := t.done
  rw [next?_eq t.found (by rwa [registrar_run]), List.getElem?_eq_none_iff] at done
  have within : i < (Registration.entries c.body).length := (List.getElem?_eq_some_iff.mp at').1
  exact exists_entry_run start t.before t.position c t.found i (Nat.lt_of_lt_of_le within done)
    service at'

end Handling

/-- What a connection sees of a handler comes from the hub. -/
theorem exists_handling {es : List HubEvent} {side : Side} {self : ProxyRef} {position : Nat}
    {registry : ProxyRegistry} {late : Bool} {before after : List LinkEvent} {c : InboundCall}
    (seen : h.eventsOf number es = before ++ .act side (.reply self position registry late) :: after)
    (found : (((h.links number).run before).ends side).proxy.inbound[position]? = some c) :
    self = ⟨number, side⟩ ∧
      ∃ t : h.Handling es ⟨number, side⟩ c, registry = (h.run t.before).registry := by
  induction es generalizing h before with
  | nil => simp [eventsOf] at seen
  | cons e es ih =>
    -- An event that the connection sees as another one, or does not see.
    have later {before' : List LinkEvent}
        (seen : (h.step e).eventsOf number es =
          before' ++ .act side (.reply self position registry late) :: after)
        (found : ((((h.step e).links number).run before').ends side).proxy.inbound[position]? =
          some c) :
        self = ⟨number, side⟩ ∧
          ∃ t : h.Handling (e :: es) ⟨number, side⟩ c, registry = (h.run t.before).registry := by
      obtain ⟨same, t, before⟩ := ih seen found
      exact ⟨same, ⟨e :: t.before, t.position, t.late, t.after, congrArg (e :: ·) t.split, t.found,
        t.done⟩, before⟩
    have links : ∀ other e', h.linkEvent? e = some (other, e') →
        (h.step e).links = Function.update h.links other ((h.links other).step e') := by
      intro other e' sees
      simp [step, sees]
    rw [eventsOf] at seen
    cases sees : h.linkEvent? e with
    | none =>
      rw [sees] at seen
      refine later seen ?_
      have kept : (h.step e).links = h.links := by simp [step, sees]
      rw [kept]
      exact found
    | some pair =>
      obtain ⟨other, e'⟩ := pair
      rw [sees] at seen
      dsimp only at seen
      have moved := links other e' sees
      by_cases same : other = number
      case neg =>
        rw [if_neg same] at seen
        refine later seen ?_
        rw [moved, Function.update_of_ne (Ne.symm same)]
        exact found
      subst same
      rw [if_pos rfl] at seen
      cases before with
      | cons first before =>
        rw [List.cons_append, List.cons.injEq] at seen
        obtain ⟨rfl, seen⟩ := seen
        refine later seen ?_
        rw [moved, Function.update_self]
        exact found
      | nil =>
        rw [List.nil_append, List.cons.injEq] at seen
        obtain ⟨rfl, -⟩ := seen
        -- The event that the connection sees is this one.
        cases e with
        | registry | enter => cases sees
        | link k e' =>
          simp only [linkEvent?, Option.ite_none_left_eq_some, Option.some.injEq, Prod.mk.injEq] at sees
          obtain ⟨other, rfl, rfl⟩ := sees
          exact absurd trivial other
        | handle p position' late' =>
          obtain ⟨k, end'⟩ := p
          cases next : h.next? ⟨k, end'⟩ position' with
          | some service => simp [linkEvent?, next] at sees
          | none =>
            simp only [linkEvent?, next, Option.some.injEq, Prod.mk.injEq] at sees
            obtain ⟨rfl, same⟩ := sees
            cases same
            exact ⟨rfl, ⟨[], position, late, es, rfl, found, next⟩, rfl⟩

end Hub

end ApiGateway
