import ApiGateway.Proofs.Proxy.Hub
import ApiGateway.Proofs.Proxy.Records
import ApiGateway.Proofs.Proxy.Slots

/-
What a backend knows when its announcement was acknowledged.

A backend announces its services with a call, and takes any reply for an acknowledgement. So while
identifiers have not come around, its success says that the gateway has handled its record, but not
that the services are bound: a record with a blank name is refused as a whole, and the reply that
tells of the error acknowledges it as well. The names of another record are bound one by one. One
that was bound early may have gone to another proxy when the last one is.

* `Hub.Entered` - what the gateway makes of an announcement.
* `Hub.Announced` - what is known of the announcements of some services through a connection;
  `Hub.announced_run` - it holds in every run.
* `Hub.not_bound_acknowledged` - announcements that succeed though a name is not bound to the proxy.
-/

namespace ApiGateway

namespace Registration

theorem entries_encode {reg : Registration} (named : reg.Named) :
    entries reg.encode = reg.services := by
  rw [entries, decode_of_named reg.said?_encode named]

theorem entries_encode_of_not_named {reg : Registration} (unnamed : ¬ reg.Named) :
    entries reg.encode = [] := by
  rw [entries, decode_of_not_named reg.said?_encode unnamed]

end Registration

/-- The gateway's handler confirms what was announced. -/
theorem CallHandler.replyBody_of_named {reg : Registration} (named : reg.Named) (owner : ProxyRef)
    (r : ProxyRegistry) :
    (Proxy.replyBody (some registration) owner reg.encode r).1 = reg.encode := by
  rw [Proxy.replyBody, registration, Registration.decode_of_named reg.said?_encode named]

theorem CallHandler.replyBody_of_not_named {reg : Registration} (unnamed : ¬ reg.Named)
    (owner : ProxyRef) (r : ProxyRegistry) :
    (Proxy.replyBody (some registration) owner reg.encode r).1 =
      Proxy.errorBody (.registration .blankName) := by
  rw [Proxy.replyBody, registration, Registration.decode_of_not_named reg.said?_encode unnamed]

/-- A call that came to a body was handled at the other end, with this body. -/
theorem Link.handled_run (capacity : Nat) (name : Side → String) (callTimeout : Side → Option Nat)
    (maxFrameLength : Side → Nat) (handler : Side → Option CallHandler) (side : Side)
    (es : List LinkEvent)
    (bound : ∀ side, (((attached capacity name callTimeout maxFrameLength handler).run es).ends
      side).proxy.issued < 2 ^ 64)
    {handle : Nat} {c : OutgoingCall} {reply : Bytes}
    (found : (((attached capacity name callTimeout maxFrameLength handler).run es).ends
      side.other).proxy.call? handle = some c)
    (resolved : c.state.result? = some (.ok reply)) :
    (attached capacity name callTimeout maxFrameLength handler).Handled es side ⟨c.id, c.body⟩
      reply := by
  generalize start : attached capacity name callTimeout maxFrameLength handler = l at *
  let fits : Side → Fits := fun side id body reply => l.Handled es side ⟨id, body⟩ reply
  have carries : (l.run es).Carries fits := by
    refine Carries.run ?_ ?_ es bound fun side c reply handled => handled
    · subst start
      exact carries_attached _ _ _ _ _ _
    · subst start
      exact fun side => .attached _ _ _ _
  exact (carries side).answered c (Proxy.mem_calls_of_call? found) reply resolved

namespace Hub

variable {h : Hub} {es : List HubEvent} {gateway : ProxyRef} {reg : Registration} {c : InboundCall}

/-- The event is a step of the handler of a call. -/
def Works (h : Hub) (p : ProxyRef) (c : InboundCall) : HubEvent → Prop
  | .enter q position | .handle q position _ => q = p ∧ (h.proxy p).inbound[position]? = some c
  | .link .. | .registry _ => False

/-- What the gateway makes of an announcement that comes through one of its proxies. -/
structure Entered (h : Hub) (es : List HubEvent) (gateway : ProxyRef) (reg : Registration)
    {c : InboundCall} (t : h.Handling es gateway c) : Prop where
  /-- The handler has bound each name to the proxy, and when it is done the name is still bound to
  it, unless somebody has taken it since. -/
  bound : reg.Named → ∀ service ∈ reg.services, ∃ n : h.Entry t.before gateway c service,
    n.registry.lookup service = .ok gateway ∧
      ((∀ e ∈ n.since, ¬ e.Takes service gateway) → t.registry.lookup service = .ok gateway)
  confirmed : reg.Named → t.reply = reg.encode
  /-- No step of the handler binds anything, if the record has a blank name. -/
  refused : ¬ reg.Named → ∀ before e after, es = before ++ e :: after →
    (h.run before).Works gateway c e → ((h.run before).step e).registry = (h.run before).registry
  told : ¬ reg.Named → t.reply = Proxy.errorBody (.registration .blankName)

/-- What is known in a run of the announcements of some services through a connection. -/
structure Announced (h : Hub) (es : List HubEvent) (gateway : ProxyRef) (reg : Registration) :
    Prop where
  /-- While identifiers have not come around, an announcement that succeeded was handled, and the
  reply is that of the handler. -/
  acknowledged : (∀ side, ((h.run es).proxy ⟨gateway.connection, side⟩).issued < 2 ^ 64) →
    ∀ handle c result reg', ((h.run es).proxy gateway.peer).call? handle = some c →
      c.body = reg.encode → c.state.result? = some result → reg.acknowledged result = .ok reg' →
      reg' = reg ∧ ∃ t : h.Handling es gateway ⟨c.id, c.body⟩,
        result = .ok t.reply ∧ h.Entered es gateway reg t
  /-- Whatever its caller learns, the gateway makes the same of it. -/
  handled : ∀ c (t : h.Handling es gateway c), c.body = reg.encode → h.Entered es gateway reg t

theorem acknowledged_ok {reg reg' : Registration} {result : CallResult}
    (returned : reg.acknowledged result = .ok reg') : reg' = reg ∧ ∃ reply, result = .ok reply := by
  cases result with
  | error e => cases returned
  | ok reply =>
    cases returned
    exact ⟨rfl, reply, rfl⟩

theorem registry_step_of_works (empty : Registration.entries c.body = []) {e : HubEvent}
    (works : h.Works gateway c e) : (h.step e).registry = h.registry := by
  cases e with
  | link | registry => cases works
  | handle => rfl
  | enter p position =>
    obtain ⟨rfl, found⟩ := works
    have none : h.next? p position = none := by simp [next?, found, empty]
    simp [step, registryEvent?, none, ProxyRegistry.run]

/-- A handler of announcements enters what was announced. -/
theorem Handling.entered (t : h.Handling es gateway c)
    (start : ∀ position, h.entered gateway position = 0) (registrar : h.registrar gateway = true)
    (registers : (h.proxy gateway).handler = some .registration) (body : c.body = reg.encode) :
    h.Entered es gateway reg t := by
  have reply : t.reply = (Proxy.replyBody (some .registration) gateway reg.encode
      (h.run t.before).registry).1 := by rw [Handling.reply, handler_run, registers, body]
  refine ⟨?_, ?_, ?_, ?_⟩
  · intro named service mem
    rw [← Registration.entries_encode named, ← body] at mem
    obtain ⟨n⟩ := t.exists_entry start registrar mem
    have bound : n.registry.owner? service = some gateway := by
      rw [n.registry_eq, ProxyRegistry.owner?_register, if_pos rfl]
    refine ⟨n, ProxyRegistry.lookup_eq_ok_iff.mpr bound, fun kept => ?_⟩
    rw [ProxyRegistry.lookup_eq_ok_iff, t.registry_eq, n.registry_run_since]
    exact ProxyRegistry.owner?_run_of_not_takes bound kept
  · intro named
    rw [reply, CallHandler.replyBody_of_named named]
  · intro unnamed before e after split works
    refine registry_step_of_works ?_ works
    rw [body, Registration.entries_encode_of_not_named unnamed]
  · intro unnamed
    rw [reply, CallHandler.replyBody_of_not_named unnamed]

/-- **An announcement that succeeded was handled, and entered its services if none is blank.** -/
theorem announced_run (h : Hub) (gateway : ProxyRef) (capacity : Nat) (name : Side → String)
    (callTimeout : Side → Option Nat) (maxFrameLength : Side → Nat)
    (handler : Side → Option CallHandler)
    (fresh : h.links gateway.connection =
      Link.attached capacity name callTimeout maxFrameLength handler)
    (registers : handler gateway.side = some .registration) (registrar : h.registrar gateway = true)
    (start : ∀ position, h.entered gateway position = 0) (es : List HubEvent) (reg : Registration) :
    h.Announced es gateway reg := by
  have registering : (h.proxy gateway).handler = some .registration := by
    rw [proxy, fresh]
    exact registers
  refine ⟨?_, fun c t body => t.entered start registrar registering body⟩
  intro bound handle c result reg' found body resolved returned
  obtain ⟨rfl, reply, rfl⟩ := acknowledged_ok returned
  refine ⟨rfl, ?_⟩
  have handled : (h.links gateway.connection).Handled (h.eventsOf gateway.connection es)
      gateway.side ⟨c.id, c.body⟩ reply := by
    rw [fresh]
    simp only [proxy, ProxyRef.peer, links_run, fresh] at found bound
    exact Link.handled_run capacity name callTimeout maxFrameLength handler gateway.side _ bound
      found resolved
  obtain ⟨before, after, self, position, registry, late, seen, there, made⟩ := handled
  obtain ⟨rfl, t, rfl⟩ := exists_handling seen there
  refine ⟨t, ?_, t.entered start registrar registering body⟩
  rw [made, Handling.reply, handler_run]
  rfl

end Hub

/-! ### Announcements of a backend -/

/-- An end when the peer's call at a position was handled, with a reply. -/
def LinkEnd.replied (x : LinkEnd) (position : Nat) (c : InboundCall) (reply : Bytes) : LinkEnd :=
  { x with session := { x.session with
    proxy := ((x.proxy.dismiss position c).queue false ⟨c.id, .reply, reply⟩).2 } }

theorem LinkEnd.act_reply {x : LinkEnd} {self : ProxyRef} {position : Nat} {r : ProxyRegistry}
    {c : InboundCall} (found : x.proxy.inbound[position]? = some c) {reply : Bytes}
    (made : (Proxy.replyBody x.proxy.handler self c.body r).1 = reply) :
    x.act (.reply self position r false) = x.replied position c reply := by
  have sent : x.proxy.reply self position r false =
      ((x.proxy.dismiss position c).queue false ⟨c.id, .reply, reply⟩).2 := by
    rw [Proxy.reply, found, ← made]
  rw [replied, ← sent]
  rfl

namespace Hub

/-- The near end registers services. -/
def registering : Side → Option CallHandler
  | .near => some .registration
  | .far => none

/-- A gateway with backends that have just been connected. -/
def office : Hub where
  links _ := Link.attached 128 (fun _ => "a") (fun _ => none) (fun _ => 128) registering
  registrar p := p.side = .near

/-- The gateway's proxy of the first backend. -/
abbrev desk : ProxyRef := ⟨0, .near⟩

/-- The gateway after steps of the first backend's connection. -/
def asked (first : List LinkEvent) : Hub := office.run (first.map (.link 0))

/-- A call of the first backend comes, and its reply, with what happens while it is handled. -/
def exchange (first : List LinkEvent) (meanwhile : List HubEvent) (position : Nat)
    (last : List LinkEvent) : List HubEvent :=
  first.map (.link 0) ++ (meanwhile ++ .handle desk position false :: last.map (.link 0))

section Exchange

variable {first last : List LinkEvent} {meanwhile : List HubEvent} {position : Nat}
  {c : InboundCall} (open' : ∀ e ∈ first, ¬ e.Handles)

include open'

theorem asked_eq : ∃ links, asked first = ⟨links, {}, office.registrar, fun _ _ => 0⟩ ∧
    links 0 = (office.links 0).run first ∧ links 1 = office.links 0 :=
  ⟨_, office.run_map_link 0 open', Function.update_self 0 _ office.links,
    Function.update_of_ne Nat.one_ne_zero _ office.links⟩

variable (came : (((office.links 0).run first).ends .near).proxy.inbound[position]? = some c)

include came

theorem inbound_asked : ((asked first).proxy desk).inbound[position]? = some c := by
  rw [proxy, asked]
  exact (office.links_run_map_link 0 open').symm ▸ came

/-- The handler of a call that is not a record has nothing to enter. -/
theorem run_nil_asked (empty : Registration.entries c.body = []) :
    ((asked first).run []).links 0 = (asked first).links 0 ∧
      ((asked first).run []).next? desk position = none := by
  obtain ⟨links, same, -⟩ := asked_eq open'
  rw [run_nil, next?_eq (inbound_asked open' came) (by rw [same]; rfl), empty]
  exact ⟨rfl, rfl⟩

variable (still : ((asked first).run meanwhile).links 0 = (asked first).links 0)
  (done : ((asked first).run meanwhile).next? desk position = none)

/-- The call is handled. -/
def handling : office.Handling (exchange first meanwhile position last) desk c where
  before := first.map (.link 0) ++ meanwhile
  position := position
  late := false
  after := last.map (.link 0)
  split := (List.append_assoc _ _ _).symm
  found := by
    rw [run_append, ← asked, proxy]
    exact still.symm ▸ inbound_asked open' came
  done := by
    rw [run_append]
    exact done

include still done

/-- The connection when the reply has come. -/
theorem links_exchange (open'' : ∀ e ∈ last, ¬ e.Handles) {reply : Bytes}
    (made : ∀ r, (Proxy.replyBody (some .registration) desk c.body r).1 = reply) :
    (office.run (exchange first meanwhile position last)).links 0 =
      Link.run (((office.links 0).run first).set .near
        ((((office.links 0).run first).ends .near).replied position c reply)) last := by
  have handler : (((office.links 0).run first).ends .near).proxy.handler = some .registration :=
    Link.handler_run _ _ _
  have links : ((asked first).run meanwhile).links desk.connection = (office.links 0).run first :=
    still.trans (office.links_run_map_link 0 open')
  have acted : (((asked first).run meanwhile).step (.handle desk position false)).links
      desk.connection = ((office.links 0).run first).set .near
        ((((office.links 0).run first).ends .near).replied position c reply) := by
    rw [links_step_handle done, Function.update_self, links,
      ← LinkEnd.act_reply came (handler ▸ made _)]
    rfl
  rw [exchange, run_append, ← asked, run_append, run_cons, ← acted]
  exact links_run_map_link _ 0 open''

end Exchange

/-- A backend announces services, and the record comes to the gateway. -/
def asking (reg : Registration) : List LinkEvent :=
  [.act .far (.allot reg.encode), .act .far (.register 1 reg.encode), .act .far (.send 0 false),
    .step (.load .far), .step (.write .far 128), .step (.take .near 128), .step (.dispatch .near)]

/-- The reply comes to the backend. -/
def answering : List LinkEvent :=
  [.step (.load .near), .step (.write .near 128), .step (.take .far 128), .step (.dispatch .far),
    .act .far (.collect 0)]

theorem not_handles_asking (reg : Registration) : ∀ e ∈ asking reg, ¬ e.Handles := by
  simp [asking, LinkEvent.Handles]

theorem not_handles_answering : ∀ e ∈ answering, ¬ e.Handles := by
  simp [answering, LinkEvent.Handles]

/-- An announcement and its reply. -/
def announcement (reg : Registration) (meanwhile : List HubEvent) : List HubEvent :=
  exchange (asking reg) meanwhile 0 answering

/-- The next name of a record that came to the gateway. -/
theorem next?_of_links {reg : Registration} (named : reg.Named) {position : Nat} {id : UInt64}
    {l : Link} (came : (l.ends .near).proxy.inbound[position]? = some ⟨id, reg.encode⟩)
    {links : Nat → Link} {registry : ProxyRegistry} {counts : ProxyRef → Nat → Nat} {number : Nat}
    (here : links number = l) {name : Option String}
    (left : reg.services[counts ⟨number, .near⟩ position]? = name) :
    Hub.next? ⟨links, registry, office.registrar, counts⟩ ⟨number, .near⟩ position = name := by
  subst here
  rw [next?_eq came rfl, Registration.entries_encode named, left]

/-- A backend's announcement succeeds. -/
def Succeeds (es : List HubEvent) (reg : Registration) (c : OutgoingCall) : Prop :=
  ∃ handle reply, ((office.run es).proxy desk.peer).call? handle = some c ∧ c.body = reg.encode ∧
    c.state = .resolved (.ok reply) ∧ reg.acknowledged (.ok reply) = .ok reg

theorem Succeeds.of_links {es : List HubEvent} {reg : Registration} {id : UInt64} {reply : Bytes}
    {l : Link} (handle : Nat) (links : (office.run es).links 0 = l)
    (found : (l.ends .far).proxy.call? handle = some ⟨id, reg.encode, .resolved (.ok reply)⟩) :
    Succeeds es reg ⟨id, reg.encode, .resolved (.ok reply)⟩ := by
  subst links
  exact ⟨handle, reply, found, rfl, rfl, rfl⟩

/-- A record without a blank name. -/
def users : Registration := ⟨["users"]⟩

theorem named_users : users.Named := by
  intro service mem
  rw [List.mem_singleton.mp mem]
  rfl

theorem came_users : (((office.links 0).run (asking users)).ends .near).proxy.inbound[0]? =
    some ⟨1, users.encode⟩ := rfl

/-- Nobody disturbs the handler of the record. -/
theorem run_entering_users : ((asked (asking users)).run [.enter desk 0]).links 0 =
      (asked (asking users)).links 0 ∧
    ((asked (asking users)).run [.enter desk 0]).next? desk 0 = none := by
  obtain ⟨links, same, here, -⟩ := asked_eq (not_handles_asking users)
  have next : Hub.next? ⟨links, {}, office.registrar, fun _ _ => 0⟩ desk 0 = some "users" :=
    next?_of_links named_users came_users here rfl
  obtain ⟨counts, first, one, -⟩ := exists_step_enter next
  rw [same, run_cons, first, run_nil]
  exact ⟨rfl, next?_of_links named_users came_users here (congrArg (users.services[·]?) one)⟩

theorem announced_run_users :
    (∀ side, ((office.run (announcement users [.enter desk 0])).proxy ⟨0, side⟩).issued < 2 ^ 64) ∧
      (∃ c, Succeeds (announcement users [.enter desk 0]) users c) ∧
      office.Announced (announcement users [.enter desk 0]) desk users := by
  obtain ⟨still, done⟩ := run_entering_users
  have links : (office.run (announcement users [.enter desk 0])).links 0 = _ :=
    links_exchange (not_handles_asking users) came_users still done not_handles_answering
      (CallHandler.replyBody_of_named named_users desk)
  refine ⟨?_, ⟨⟨1, users.encode, .resolved (.ok users.encode)⟩, .of_links 0 links rfl⟩, ?_⟩
  · intro side
    rw [proxy, links]
    cases side <;> decide
  · exact announced_run office desk 128 (fun _ => "a") (fun _ => none) (fun _ => 128) registering
      rfl rfl rfl (fun _ => rfl) (announcement users [.enter desk 0]) users

/-- A record with a blank name. -/
def refused : Registration := ⟨["users", " "]⟩

theorem not_named_refused : ¬ refused.Named :=
  Registration.not_named_iff.mpr ⟨" ", List.mem_cons_of_mem _ List.mem_cons_self, rfl⟩

/-- A record is refused, and the announcement succeeds. -/
theorem succeeds_refused :
    ∃ es c, ∃ t : office.Handling es desk ⟨c.id, c.body⟩, Succeeds es refused c ∧
      "users" ∈ refused.services ∧ t.registry.lookup "users" = .error (.notFound "users") := by
  have came : (((office.links 0).run (asking refused)).ends .near).proxy.inbound[0]? =
      some ⟨1, refused.encode⟩ := rfl
  obtain ⟨still, done⟩ := run_nil_asked (not_handles_asking refused) came
    (Registration.entries_encode_of_not_named not_named_refused)
  have links : (office.run (announcement refused [])).links 0 = _ :=
    links_exchange (not_handles_asking refused) came still done not_handles_answering
      (CallHandler.replyBody_of_not_named not_named_refused desk)
  let t : office.Handling (announcement refused []) desk ⟨1, refused.encode⟩ :=
    handling (not_handles_asking refused) came still done
  have empty : t.registry = {} := by
    obtain ⟨links, same, -⟩ := asked_eq (not_handles_asking refused)
    rw [t.registry_eq]
    show (office.run ((asking refused).map (.link 0) ++ [])).registry = {}
    rw [List.append_nil, ← asked, same]
  have unbound : t.registry.lookup "users" = .error (.notFound "users") := by
    rw [empty]
    rfl
  exact ⟨_, ⟨1, refused.encode, .resolved (.ok (Proxy.errorBody (.registration .blankName)))⟩, t,
    .of_links 0 links rfl, List.mem_cons_self, unbound⟩

/-- A record of two services. -/
def pair : Registration := ⟨["users", "orders"]⟩

theorem named_pair : pair.Named := by
  intro service mem
  obtain rfl | rfl : service = "users" ∨ service = "orders" := by simpa [pair] using mem
  · rfl
  · rfl

theorem came_pair : (((office.links 0).run (asking pair)).ends .near).proxy.inbound[0]? =
    some ⟨1, pair.encode⟩ := rfl

/-- Between the two, another backend announces the first one. -/
def overtaking : List HubEvent :=
  .enter desk 0 :: ((asking users).map (.link 1) ++ [.enter ⟨1, .near⟩ 0, .enter desk 0])

theorem run_overtaking : ((asked (asking pair)).run overtaking).links 0 =
      (asked (asking pair)).links 0 ∧
    ((asked (asking pair)).run overtaking).next? desk 0 = none ∧
    ((asked (asking pair)).run overtaking).registry =
      ((({} : ProxyRegistry).register "users" desk).register "users" ⟨1, .near⟩).register "orders"
        desk := by
  obtain ⟨links, same, here, there⟩ := asked_eq (not_handles_asking pair)
  rw [same, overtaking, run_cons, run_append]
  -- The first name of the pair.
  have next : Hub.next? ⟨links, {}, office.registrar, fun _ _ => 0⟩ desk 0 = some "users" :=
    next?_of_links named_pair came_pair here rfl
  obtain ⟨counts, first, mine, others⟩ := exists_step_enter next
  rw [first, run_map_link _ 1 (not_handles_asking users)]
  dsimp only
  generalize arrived : Function.update links 1 _ = links'
  have users' : links' 1 = (office.links 0).run (asking users) := by
    rw [← arrived, Function.update_self, there]
  have pair' : links' 0 = links 0 := by
    rw [← arrived, Function.update_of_ne Nat.zero_ne_one]
  generalize ProxyRegistry.register _ _ _ = registry
  -- The name of the other backend.
  have next : Hub.next? ⟨links', registry, office.registrar, counts⟩ ⟨1, .near⟩ 0 = some "users" :=
    next?_of_links named_users came_users users'
      (congrArg (users.services[· 0]?) (others _ (by decide)))
  obtain ⟨counts', second, -, others'⟩ := exists_step_enter next
  rw [run_cons, second]
  generalize registry.register _ _ = registry
  -- The second name of the pair.
  have mine' : counts' desk 0 = 1 := by rw [others' _ (by decide), mine]
  have next : Hub.next? ⟨links', registry, office.registrar, counts'⟩ desk 0 = some "orders" :=
    next?_of_links named_pair came_pair (pair'.trans here) (congrArg (pair.services[·]?) mine')
  obtain ⟨counts'', third, last, -⟩ := exists_step_enter next
  rw [run_cons, third, run_nil]
  have last' : counts'' desk 0 = 2 := by rw [last, mine']
  refine ⟨pair', ?_, rfl⟩
  exact next?_of_links named_pair came_pair (pair'.trans here) (congrArg (pair.services[·]?) last')

/-- A record is accepted, and another backend takes a service before its handler is done. -/
theorem succeeds_overtaken :
    ∃ es c, ∃ t : office.Handling es desk ⟨c.id, c.body⟩, Succeeds es pair c ∧ pair.Named ∧
      "users" ∈ pair.services ∧ t.registry.lookup "users" = .ok ⟨1, .near⟩ := by
  obtain ⟨still, done, entered⟩ := run_overtaking
  have links : (office.run (announcement pair overtaking)).links 0 = _ :=
    links_exchange (not_handles_asking pair) came_pair still done not_handles_answering
      (CallHandler.replyBody_of_named named_pair desk)
  let t : office.Handling (announcement pair overtaking) desk ⟨1, pair.encode⟩ :=
    handling (not_handles_asking pair) came_pair still done
  have registry : t.registry = ((({} : ProxyRegistry).register "users" desk).register "users"
      ⟨1, .near⟩).register "orders" desk := by
    rw [t.registry_eq, ← entered, asked, ← run_append]
    rfl
  have overtaken : t.registry.lookup "users" = .ok ⟨1, .near⟩ := by
    rw [registry, ProxyRegistry.lookup_eq_ok_iff]
    decide
  exact ⟨_, ⟨1, pair.encode, .resolved (.ok pair.encode)⟩, t, .of_links 0 links rfl,
    named_pair, List.mem_cons_self, overtaken⟩

end Hub

/-! ### When identifiers come around -/

namespace Link

open ConcurrentProxy (droppingAll calling)

/-- The reply to a call that waits comes, and its caller takes it. -/
theorem call?_dispatch_collect {l : Link} {side : Side} {x : LinkEnd} (here : l.ends side = x)
    {bytes rest body : Bytes} (reading : x.session.reading = some bytes) {c : OutgoingCall}
    (next : Frame.next x.proxy.maxFrameLength bytes = .frame ⟨c.id, .reply, body⟩ rest)
    {handle : Nat} (found : x.proxy.call? handle = some c) (slot : x.proxy.slot? c.id = some handle)
    (waits : c.state = .waiting) (sent : ¬ x.view.begins handle) :
    ((l.run [.step (.dispatch side), .act side (.collect handle)]).ends side).proxy.call? handle =
      some { c with state := .resolved (.ok body) } := by
  subst here
  let s : Session := { (l.ends side).session with
    proxy := (l.ends side).proxy.settle handle c (.answered (.ok body))
    reading := some rest }
  have dispatched (ended : Bool) : (l.ends side).session.dispatch? ended = some s := by
    simp [Session.dispatch?, reading, next, Proxy.receive, Proxy.complete_eq_settle body found slot,
      OutgoingCall.answer_of_waiting waits, s]
  have answered : s.proxy.call? handle = some { c with state := .answered (.ok body) } := by
    rw [Proxy.call?_settle, if_pos rfl, found]
    rfl
  have collected : s.proxy.collect handle =
      (some (.ok body), s.proxy.settle handle c (.resolved (.ok body))) := by
    rw [Proxy.collect, answered]
    rfl
  have acted : (({ l.ends side with session := s } : LinkEnd).act (.collect handle)).proxy =
      s.proxy.settle handle c (.resolved (.ok body)) := by
    have sent : ¬ ({ l.ends side with session := s } : LinkEnd).view.begins handle := sent
    rw [LinkEnd.act_collect sent]
    exact congrArg Prod.snd collected
  rw [run_cons, run_cons, run_nil, step_dispatch (dispatched _), step,
    Duplex.ends_set_self, Duplex.ends_set_self, acted, Proxy.call?_settle, if_pos rfl, answered]
  rfl

/-- When identifiers come around, a call gets the reply to another one that was dropped. -/
theorem exists_run_answered {l : Link} {side : Side} {bytes rest body : Bytes}
    (rests : (l.ends side).view.Rests) (free : (l.ends side).proxy.slots = [])
    (low : (l.ends side).proxy.issued < 2 ^ 64)
    (reading : (l.ends side).session.reading = some bytes)
    (next : Frame.next (l.ends side).proxy.maxFrameLength bytes = .frame ⟨2, .reply, body⟩ rest)
    (asked : Bytes) :
    ∃ (calls : List (UInt64 × Nat)) (handle : Nat),
      ((l.run ((droppingAll calls ++ calling 2 asked handle).map (.act side) ++
        [.step (.dispatch side), .act side (.collect handle)])).ends side).proxy.call? handle =
          some ⟨2, asked, .resolved (.ok body)⟩ := by
  have old : ∀ slot ∈ (l.ends side).proxy.slots,
      slot.1 ≠ 0 ∧ slot.1.toNat ≤ (l.ends side).proxy.issued := by
    rw [free]
    exact List.forall_mem_nil _
  obtain ⟨calls, later, outbound, around, -⟩ := ConcurrentProxy.exists_run_around rests old low
  obtain ⟨s, passed⟩ : ∃ s, s = (l.ends side).view.passed (2 ^ 64 + 1) later outbound := ⟨_, rfl⟩
  have empty : s.proxy.slots = [] := by
    rw [passed]
    exact free
  have fresh : s.proxy.slot? 2 = none := Proxy.slot?_eq_none_iff.mpr (by simp [empty])
  have came : UInt64.ofNat (s.proxy.issued + 1) = 2 := by
    rw [passed]
    exact (by decide : UInt64.ofNat (2 ^ 64 + 1 + 1) = 2)
  have next : Frame.next s.proxy.maxFrameLength bytes = .frame ⟨2, .reply, body⟩ rest := by
    rw [passed]
    exact next
  have rests : s.Rests := passed ▸ rests.passed _ later outbound
  have sent : ¬ s.begins s.proxy.calls.length := by
    simp [ConcurrentProxy.begins, rests.registered, rests.unsent]
  have found : (s.proxy.enter 2 asked).call? s.proxy.calls.length = some ⟨2, asked, .waiting⟩ :=
    Proxy.call?_enter.mpr (.inr ⟨rfl, rfl⟩)
  have slot : (s.proxy.enter 2 asked).slot? 2 = some s.proxy.calls.length := by
    rw [Proxy.slot?, Proxy.enter, empty]
    exact List.lookup_cons_self
  rw [← passed] at around
  obtain ⟨outbound', called⟩ := ConcurrentProxy.run_calling rests came fresh asked
  refine ⟨calls, s.proxy.calls.length, ?_⟩
  rw [run_append, run_map_act, List.map_append, ConcurrentProxy.run_append, around, called]
  generalize seen : LinkEnd.seen _ _ = x
  have found : x.proxy.call? s.proxy.calls.length = some ⟨2, asked, .waiting⟩ := seen ▸ found
  have slot : x.proxy.slot? 2 = some s.proxy.calls.length := seen ▸ slot
  have reading : x.session.reading = some bytes := seen ▸ reading
  have next : Frame.next x.proxy.maxFrameLength bytes = .frame ⟨2, .reply, body⟩ rest := seen ▸ next
  have sent : ¬ x.view.begins s.proxy.calls.length := seen ▸ sent
  exact call?_dispatch_collect (Duplex.ends_set_self _ _ _) reading next found slot rfl sent

end Link

namespace Hub

open ConcurrentProxy (droppingAll dropping calling)

/-- Connections and handlers that enter nothing leave the registry. -/
theorem registry_run_of_forall {es : List HubEvent}
    (quiet : ∀ e ∈ es, ∀ h : Hub, h.registryEvent? e = none) (h : Hub) :
    (h.run es).registry = h.registry := by
  induction es generalizing h with
  | nil => rfl
  | cons e es ih =>
    rw [List.forall_mem_cons] at quiet
    rw [run_cons, ih quiet.2, step, quiet.1 h]
    rfl

theorem registryEvent?_of_mem_exchange {first last : List LinkEvent} {position : Nat} :
    ∀ e ∈ exchange first [] position last, ∀ h : Hub, h.registryEvent? e = none := by
  intro e mem h
  simp only [exchange, List.nil_append, List.mem_append, List.mem_cons, List.mem_map] at mem
  obtain ⟨_, _, rfl⟩ | rfl | ⟨_, _, rfl⟩ := mem <;> rfl

/-- A backend drops two calls at once, and their frames come to the gateway. -/
def straying : List LinkEvent :=
  (dropping 1 0 ++ dropping 2 1).map (.act .far) ++
    [.step (.load .far), .step (.write .far 128), .step (.load .far), .step (.write .far 128),
      .step (.take .near 128), .step (.dispatch .near), .step (.dispatch .near)]

/-- The reply to the second one comes to the backend, which does not look at it yet. -/
def lingering : List LinkEvent :=
  [.step (.load .near), .step (.write .near 128), .step (.take .far 128)]

theorem not_handles_straying : ∀ e ∈ straying, ¬ e.Handles := by
  simp [straying, dropping, calling, LinkEvent.Handles]

theorem not_handles_droppingAll (calls : List (UInt64 × Nat)) (side : Side) :
    ∀ e ∈ (droppingAll calls).map (LinkEvent.act side), ¬ e.Handles := by
  induction calls with
  | nil => exact List.forall_mem_nil _
  | cons c calls ih =>
    rw [droppingAll, List.flatMap_cons, List.map_append, List.forall_mem_append]
    exact ⟨by simp [dropping, calling, LinkEvent.Handles], ih⟩

/-- The backend makes calls until identifiers have come around, and announces services. -/
def returning (calls : List (UInt64 × Nat)) (handle : Nat) (reg : Registration) : List LinkEvent :=
  lingering ++ ((droppingAll calls ++ calling 2 reg.encode handle).map (.act .far) ++
    [.step (.dispatch .far), .act .far (.collect handle)])

theorem not_handles_returning (calls : List (UInt64 × Nat)) (handle : Nat) (reg : Registration) :
    ∀ e ∈ returning calls handle reg, ¬ e.Handles := by
  simp only [returning, List.map_append, List.forall_mem_append]
  refine ⟨?_, ⟨not_handles_droppingAll calls .far, ?_⟩, ?_⟩
  · simp [lingering, LinkEvent.Handles]
  · simp [calling, LinkEvent.Handles]
  · simp [LinkEvent.Handles]

/-- What the gateway says of a call without a record. -/
def unread : Bytes := Proxy.errorBody (.registration .notJson)

/-- The connection when the reply lingers. -/
def lingered : Link :=
  Link.run (((office.links 0).run straying).set .near
    ((((office.links 0).run straying).ends .near).replied 1 ⟨2, []⟩ unread)) lingering

/-- Nothing is bound at any time, and an announcement succeeds. -/
theorem succeeds_around : ∃ es c, Succeeds es users c ∧ users.Named ∧ "users" ∈ users.services ∧
    ∀ before after, es = before ++ after →
      (office.run before).registry.lookup "users" = .error (.notFound "users") := by
  obtain ⟨bytes, reading, next⟩ : ∃ bytes, (lingered.ends .far).session.reading = some bytes ∧
      Frame.next 128 bytes = .frame ⟨2, .reply, unread⟩ [] := ⟨_, rfl, rfl⟩
  obtain ⟨calls, handle, answered⟩ := Link.exists_run_answered (l := lingered)
    (⟨rfl, rfl, rfl, rfl, rfl⟩ : (lingered.ends .far).view.Rests) rfl (by decide) reading next
    users.encode
  have came : (((office.links 0).run straying).ends .near).proxy.inbound[1]? = some ⟨2, []⟩ := rfl
  obtain ⟨still, done⟩ := run_nil_asked not_handles_straying came rfl
  have links : (office.run (exchange straying [] 1 (returning calls handle users))).links 0 = _ :=
    links_exchange not_handles_straying came still done (not_handles_returning calls handle users)
      (fun _ => (rfl : _ = unread))
  rw [returning, Link.run_append] at links
  refine ⟨_, _, .of_links handle links answered, named_users, List.mem_cons_self, ?_⟩
  intro before after split
  have quiet : ∀ e ∈ before, ∀ h : Hub, h.registryEvent? e = none := by
    intro e mem
    exact registryEvent?_of_mem_exchange e (split ▸ List.mem_append_left after mem)
  rw [registry_run_of_forall quiet]
  rfl

/-- A service of an announcement that succeeded need not be bound to the proxy when the handler is
done: the record may be refused, another proxy may have taken the service, and when identifiers have
come around the reply may be to another call. -/
theorem not_bound_acknowledged :
    (∃ es c, ∃ t : office.Handling es desk ⟨c.id, c.body⟩, Succeeds es refused c ∧
      "users" ∈ refused.services ∧ t.registry.lookup "users" = .error (.notFound "users")) ∧
    (∃ es c, ∃ t : office.Handling es desk ⟨c.id, c.body⟩, Succeeds es pair c ∧ pair.Named ∧
      "users" ∈ pair.services ∧ t.registry.lookup "users" = .ok ⟨1, .near⟩) ∧
    (∃ es c, Succeeds es users c ∧ users.Named ∧ "users" ∈ users.services ∧
      ∀ before after, es = before ++ after →
        (office.run before).registry.lookup "users" = .error (.notFound "users")) :=
  ⟨succeeds_refused, succeeds_overtaken, succeeds_around⟩

end Hub

end ApiGateway
