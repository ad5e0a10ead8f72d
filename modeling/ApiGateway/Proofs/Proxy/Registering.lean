import ApiGateway.Launching.Backends
import ApiGateway.Proofs.Proxy.Failures
import ApiGateway.Proofs.Proxy.Ownership

/-
What becomes of the registry of a network that works.

The handlers of a gateway and of its backends bind services at most. So whatever arrives while calls
are made, the registry comes to be what it is by registrations alone, and a service that has an owner
does not lose it.

* `ProxyRegistry.Gains` - a registry becomes another one by registrations.
* `ProxyRegistry.Gains.contains` - a service that has an owner has one then.
* `CallHandler.Registers`, `Network.Registering` - a handler does nothing else to a registry, and no
  handler of a network does.
* `Network.Advances` - such a network stays so, and its registry gains; `Network.advances_settle`,
  `Network.advances_callService` - while time passes and services are called.
* `Network.registering_launchAll` - a network of launched backends is such.
-/

namespace ApiGateway

namespace ProxyRegistry

/-- A registry becomes another one by registrations: no proxy is withdrawn. -/
def Gains (r r' : ProxyRegistry) : Prop :=
  ∃ history, (∀ owner, .unregister owner ∉ history) ∧ r' = r.run history

variable {r r' r'' : ProxyRegistry}

theorem Gains.refl (r : ProxyRegistry) : r.Gains r := ⟨[], fun _ => List.not_mem_nil, rfl⟩

theorem Gains.trans (first : r.Gains r') (second : r'.Gains r'') : r.Gains r'' := by
  obtain ⟨history, stays, rfl⟩ := first
  obtain ⟨later, stays', rfl⟩ := second
  refine ⟨history ++ later, fun owner mem => ?_, List.foldl_append.symm⟩
  rcases List.mem_append.mp mem with old | new
  · exact stays owner old
  · exact stays' owner new

theorem gains_record (r : ProxyRegistry) (body : Bytes) (owner : ProxyRef) :
    r.Gains (r.step (.record body owner)) := by
  refine ⟨[.record body owner], fun _ mem => ?_, rfl⟩
  cases List.mem_singleton.mp mem

/-- A registration takes no service from everybody. -/
theorem contains_step {service : String} (owned : r.contains service = true) {e : RegistryEvent}
    (stays : ∀ owner, e ≠ .unregister owner) : (r.step e).contains service = true := by
  have bound : ∀ services owner, (r.registerAll services owner).contains service = true := by
    intro services owner
    rw [contains, owner?_registerAll]
    split
    · rfl
    · exact owned
  cases e with
  | register other owner =>
    show (r.register other owner).contains service = true
    rw [contains, owner?_register]
    split
    · rfl
    · exact owned
  | registerAll services owner => exact bound services owner
  | record body owner =>
    obtain ⟨reg, -, -, step⟩ | ⟨-, step⟩ := r.step_record body owner
    · rw [step]
      exact bound reg.services owner
    · rwa [step]
  | unregister owner => exact absurd rfl (stays owner)

/-- A service that has an owner has one as long as no proxy is withdrawn. -/
theorem Gains.contains {service : String} (gains : r.Gains r') (owned : r.contains service = true) :
    r'.contains service = true := by
  obtain ⟨history, stays, rfl⟩ := gains
  induction history generalizing r with
  | nil => exact owned
  | cons e history ih =>
    refine ih (contains_step owned fun owner same => ?_) fun owner mem => ?_
    · exact stays owner (same ▸ List.mem_cons_self)
    · exact stays owner (List.mem_cons_of_mem _ mem)

end ProxyRegistry

/-! ### Handlers -/

namespace CallHandler

/-- A handler takes what comes for a record of services, or leaves the registry as it is. -/
def Registers (h : CallHandler) : Prop :=
  ∀ self body r, (h self body r).2 = r ∨ (h self body r).2 = r.step (.record body self)

theorem registers_registration : Registers registration := fun _ _ _ => .inr rfl

theorem registers_ofService (h : ServiceHandler) : Registers (ofService h) := by
  intro self body r
  unfold ofService
  split <;> exact .inl rfl

theorem Registers.gains {h : CallHandler} (registers : h.Registers) (self : ProxyRef) (body : Bytes)
    (r : ProxyRegistry) : r.Gains (h self body r).2 := by
  obtain same | record := registers self body r
  · rw [same]
    exact .refl r
  · rw [record]
    exact r.gains_record body self

end CallHandler

namespace Proxy

/-- A proxy whose handler, if it has one, registers at most. -/
def Registers (p : Proxy) : Prop := ∀ h, p.handler = some h → h.Registers

variable {p q : Proxy}

theorem Registers.congr (registers : p.Registers) (same : q.handler = p.handler) : q.Registers := by
  intro h handles
  exact registers h (same ▸ handles)

theorem Narrows.handler (narrows : p.Narrows q) : q.handler = p.handler := by
  obtain ⟨slots, calls, rfl⟩ := narrows.rest
  rfl

theorem stable_registers : Stable Registers where
  receive := by
    intro p f registers
    obtain ⟨slots, calls, received⟩ := p.receive_eq f
    rw [received]
    exact registers.congr rfl
  markDead := by
    intro p reason _ registers
    obtain ⟨calls, closed⟩ := p.close_eq reason
    rw [markDead, closed]
    exact registers.congr rfl
  unload := fun p outbound alive registers => registers.congr rfl
  answer := by
    intro p self position r registers
    unfold answer
    split
    · exact registers
    · exact registers.congr (keepsTable_enqueue _ _).handler

theorem handler_call (p : Proxy) (body : Bytes) : (p.call body).2.handler = p.handler := by
  unfold call
  dsimp only
  cases closed : p.takeId.2.closed with
  | true =>
    rw [register_of_closed closed]
    rfl
  | false =>
    obtain ⟨slots, calls, registered, -⟩ := register_of_open closed p.takeId.1 body
    rw [registered]
    dsimp only
    have kept := (keepsTable_enqueue { p.takeId.2 with slots := slots, calls := calls }
      ⟨p.takeId.1, .call, body⟩).handler
    split
    next e q sent =>
      rw [sent] at kept
      exact (q.narrows_abandon _).handler.trans kept
    next id q sent =>
      rw [sent] at kept
      exact kept

/-- A call that is handled leaves the registry with more bindings at most. -/
theorem Registers.gains_answer (registers : p.Registers) (self : ProxyRef) (position : Nat)
    (r : ProxyRegistry) : r.Gains (p.answer self position r).2 := by
  unfold answer
  split
  · exact .refl r
  next c _ =>
    show r.Gains (replyBody p.handler self c.body r).2
    unfold replyBody
    split
    · exact .refl r
    next h handles =>
      have gains := (registers h handles).gains self c.body r
      split
      next reply => rwa [reply] at gains
      next failed => rwa [failed] at gains

end Proxy

/-! ### A network that works -/

namespace Connection

variable {c : Connection} {side : Side}

theorem gains_answerAll (number : Nat) (count : Nat) (r : ProxyRegistry)
    (registers : c.Has side Proxy.Registers) : r.Gains (answerAll number side count c r).2 := by
  induction count generalizing c r with
  | zero => exact .refl r
  | succ count ih =>
    rw [answerAll]
    cases found : c.proxy? side with
    | none => exact .refl r
    | some p =>
      dsimp only
      have own : p.Registers := registers p found
      refine (own.gains_answer ⟨number, side⟩ 0 r).trans (ih _ ?_)
      intro x there
      rw [proxy?_setProxy found] at there
      cases there
      exact Proxy.stable_registers.answer p _ _ r own

theorem gains_settle (number : Nat) (r : ProxyRegistry)
    (registers : ∀ side, c.Has side Proxy.Registers) : r.Gains (c.settle number r).2 := by
  unfold settle
  have quiet : ∀ side, c.quiet.Has side Proxy.Registers := fun side =>
    has_drain Proxy.stable_registers _ (registers side)
  have near := gains_answerAll number (c.quiet.waitingCalls .near) r (quiet .near)
  have far := has_answerAll Proxy.stable_registers number .near (c.quiet.waitingCalls .near) r
    (quiet .far)
  exact near.trans (gains_answerAll number _ _ far)

end Connection

namespace Network

/-- All handlers of a network register at most. -/
def Registering (n : Network) : Prop := ∀ p, n.Has p Proxy.Registers

/-- If all handlers register at most, they still do later, and the registry has come there by
registrations. -/
def Advances (n m : Network) : Prop :=
  n.Registering → m.Registering ∧ n.registry.Gains m.registry

variable {n m k : Network} {p : ProxyRef}

theorem Advances.refl (n : Network) : n.Advances n := fun registering => ⟨registering, .refl _⟩

theorem Advances.trans (first : n.Advances m) (second : m.Advances k) : n.Advances k := by
  intro registering
  obtain ⟨between, gains⟩ := first registering
  obtain ⟨after, later⟩ := second between
  exact ⟨after, gains.trans later⟩

theorem Registering.connection (registering : n.Registering) {c : Connection}
    (there : c ∈ n.connections) (side : Side) : c.Has side Proxy.Registers := by
  obtain ⟨number, found⟩ := List.mem_iff_getElem?.mp there
  intro x sits
  refine registering ⟨number, side⟩ x ?_
  rw [proxy?, connection?, found]
  exact sits

theorem gains_settleFrom (first : Nat) (cs : List Connection) (r : ProxyRegistry)
    (registers : ∀ c ∈ cs, ∀ side, c.Has side Proxy.Registers) :
    r.Gains (settleFrom first cs r).2 := by
  induction cs generalizing first r with
  | nil => exact .refl r
  | cons c cs ih =>
    rw [List.forall_mem_cons] at registers
    exact (Connection.gains_settle first r registers.1).trans (ih (first + 1) _ registers.2)

theorem advances_settle (n : Network) : n.Advances n.settle := fun registering =>
  ⟨fun p => has_settle Proxy.stable_registers (registering p),
    gains_settleFrom 0 n.connections n.registry fun _ there => registering.connection there⟩

/-- A change of a proxy that leaves its handler. -/
theorem advances_update (n : Network) (p : ProxyRef) {f : Proxy → Proxy}
    (handler : ∀ x, n.proxy? p = some x → (f x).handler = x.handler) :
    n.Advances (n.update p f) := by
  have registry : (n.update p f).registry = n.registry := by
    unfold update
    split <;> rfl
  intro registering
  refine ⟨fun q x found => ?_, registry ▸ .refl _⟩
  by_cases same : q = p
  · subst same
    cases there : n.proxy? q with
    | none =>
      have still : n.update q f = n := by
        unfold update
        rw [there]
        cases n.connection? q.connection <;> rfl
      rw [still] at found
      exact registering q x found
    | some y =>
      rw [proxy?_update_self there] at found
      cases found
      exact (registering q y there).congr (handler y there)
  · rw [proxy?_update_of_ne same] at found
    exact registering q x found

theorem advances_startCall (n : Network) (p : ProxyRef) (body : Bytes) :
    n.Advances (n.startCall p body).2 := by
  unfold startCall
  split
  · exact .refl n
  next x there =>
    refine n.advances_update p fun y found => ?_
    cases there.symm.trans found
    exact x.handler_call body

theorem advances_await (n : Network) (p : ProxyRef) (handle : Nat) (limit : Option Nat) :
    n.Advances (n.await p handle limit).2 := by
  refine await_induction (P := fun m => n.Advances m) ?_ fun m f narrow before => ?_
  · split
    · exact .refl n
    · exact n.advances_settle
  · exact before.trans (m.advances_update p fun x _ => (narrow x).handler)

theorem advances_callThrough (n : Network) (p : ProxyRef) (c : ServiceCall) :
    n.Advances (n.callThrough p c).2 := by
  unfold callThrough
  split
  · exact .refl n
  next body _ =>
    have started := n.advances_startCall p body
    unfold call callWithin
    split
    next e m failed => rwa [failed] at started
    next handle m ok =>
      rw [ok] at started
      exact started.trans (m.advances_await p handle _)

theorem advances_callService (n : Network) (c : ServiceCall) : n.Advances (n.callService c).2 := by
  unfold callService
  split
  · exact .refl n
  · exact n.advances_callThrough _ c

theorem advances_waitForServices (n : Network) (services : List String) (milliseconds : Nat) :
    n.Advances (n.waitForServices services milliseconds).2 := by
  have waited : n.Advances
      (if (n.missing? services).isNone || milliseconds = 0 then n else n.settle) := by
    split
    · exact .refl n
    · exact n.advances_settle
  unfold waitForServices
  dsimp only
  split
  · exact waited
  · exact waited

/-! ### Backends that are launched -/

theorem registering_empty : ({} : Network).Registering := by
  intro p x found
  cases found

theorem registering_connect (registering : n.Registering) {s t : Session}
    (own : s.proxy.Registers) (peer : t.proxy.Registers) (capacity : Nat) :
    (n.connect (.session s) (.session t) capacity).2.Registering := by
  rintro ⟨number, side⟩ x found
  obtain ⟨c, there, sits⟩ := Option.bind_eq_some_iff.mp found
  unfold connection? connect at there
  rw [List.getElem?_append] at there
  split at there
  · refine registering ⟨number, side⟩ x ?_
    rw [proxy?, connection?, there]
    exact sits
  · rw [List.getElem?_singleton] at there
    split at there
    · cases there
      cases side with
      | near =>
        cases sits
        exact own
      | far =>
        cases sits
        exact peer
    · cases there

/-- A program that is attached has a handler for its service, and the gateway's end one for its
announcement. -/
theorem registering_attach (registering : n.Registering) (c : ProxyConfig) (name : String)
    (program : Program) : (n.attach c name program).2.Registering := by
  unfold attach
  dsimp only
  refine (advances_startCall _ _ _ (registering_connect registering ?_ ?_ _)).1
  · intro h handles
    cases handles
    exact CallHandler.registers_registration
  · intro h handles
    cases handles
    exact CallHandler.registers_ofService program.handler

theorem registering_launch {fs : Files} {c : ProxyConfig} {path : String}
    (registering : n.Registering) (launched : n.launch fs c path = .ok (p, m)) : m.Registering := by
  obtain ⟨program, -, attached⟩ := bind_eq_ok_iff.mp launched
  cases attached
  exact registering_attach registering c _ program

theorem registering_launchAll {fs : Files} {c : ProxyConfig} (registering : n.Registering)
    (launched : n.launchAll fs c = .ok m) : m.Registering := by
  obtain ⟨names, -, same⟩ := bind_eq_ok_iff.mp launched
  cases same
  clear launched
  induction names generalizing n with
  | nil => exact registering
  | cons name names ih =>
    rw [List.foldl_cons]
    refine ih ?_
    split
    next p m started => exact registering_launch registering started
    next => exact registering

end Network

end ApiGateway
