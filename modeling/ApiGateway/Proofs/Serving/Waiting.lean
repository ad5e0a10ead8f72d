import ApiGateway.Cli.Run
import ApiGateway.Proofs.Forwarding.Delivery
import ApiGateway.Proofs.Graph.Order
import ApiGateway.Proofs.Proxy.Failures
import ApiGateway.Proofs.Proxy.Registering
import ApiGateway.Proofs.Serving.Watching

/-
The services that a request waits for are all that it needs.

They are drawn up from the forwards that the route declares, before the request is served. The
forwards are called later, by the engine, from each to those it waits for, and each looks for the
owner of its service when its turn comes. Nothing but such a look-up fails for want of an owner. So no
forward does, unless a proxy is withdrawn in between.

* `Network.deliver_unfound_iff` - when a forward fails because nobody owns its service.
* `Cli.requiredServices_enough` - the list of services, and what it is good for.
* `Cli.found_startBackends` - the same for the backends that a command starts.
-/

namespace ApiGateway

/-! ### Owners that are looked for -/

/-- Destinations that are reached through proxies. -/
inductive Destination.Proxied : Destination → Prop where
  | grpc (method : String) : Proxied (.grpc method)
  | redis (valueType : String) : Proxied (.redis valueType)

/-- A forward failed because nobody owns a service. -/
def ForwardError.Unfound (e : ForwardError) : Prop :=
  ∃ service, e.fault = .transport (.notFound service)

/-- A call over HTTP does not fail for want of an owner. -/
theorem HttpFault.toForward_ne_transport (f : HttpFault) (e : ProxyError) :
    f.toForward ≠ .transport e := by
  cases f <;> simp [toForward]

namespace Network

variable {n : Network} {http : HttpTransport} {node : ForwardNode} {fields : CallFields}

/-- A call of a service that has an owner fails as calls do. -/
theorem callService_fails {c : ServiceCall} (owned : n.registry.contains c.service = true) :
    OnlyFails ((n.callService c).1.getD (.error .streamClosed)) ProxyError.OfCall := by
  obtain ⟨p, found⟩ := Option.isSome_iff_exists.mp owned
  rw [callService, ProxyRegistry.lookup_eq_ok_iff.mpr found]
  dsimp only
  cases given : (n.callThrough p c).1 with
  | none => exact .error (.ended .closed)
  | some result => exact callThrough_fails given

/-- A forward fails because nobody owns a service exactly when its own service has no owner. -/
theorem deliver_unfound_iff :
    (∃ e, (deliver http node fields n).1 = .error e ∧ e.Unfound) ↔
      node.destination.Proxied ∧ n.registry.contains node.service = false := by
  have called : ∀ method params, node.destination.request fields = .service method params →
      ((∃ e, (deliver http node fields n).1 = .error e ∧ e.Unfound) ↔
        n.registry.contains node.service = false) := by
    intro method params asked
    rw [deliver, asked]
    dsimp only
    constructor
    · rintro ⟨e, failed, service, unfound⟩
      obtain ⟨cause, given, rfl⟩ := mapError_eq_error_iff.mp failed
      by_contra owned
      have own := callService_fails (Bool.eq_true_of_not_eq_false owned) cause given
      cases unfound
      exact own.ne_notFound service rfl
    · intro unowned
      have nobody : n.registry.lookup node.service = .error (.notFound node.service) := by
        refine ProxyRegistry.lookup_of_unowned fun p found => ?_
        rw [ProxyRegistry.contains, found] at unowned
        cases unowned
      rw [callService, nobody]
      exact ⟨_, rfl, node.service, rfl⟩
  cases reached : node.destination with
  | grpc method =>
    rw [called method _ (by rw [reached]; rfl)]
    exact (and_iff_right (.grpc method)).symm
  | redis valueType =>
    rw [called "" _ (by rw [reached]; rfl)]
    exact (and_iff_right (.redis valueType)).symm
  | http url method =>
    constructor
    · rintro ⟨e, failed, service, unfound⟩
      rw [deliver, reached] at failed
      obtain ⟨fault, given, rfl⟩ := mapError_eq_error_iff.mp failed
      exact absurd unfound (fault.toForward_ne_transport _)
    · rintro ⟨proxied, -⟩
      cases proxied

/-- When the wait for services is over without an error, each of them has an owner. -/
theorem contains_of_waitForServices {services : List String} {milliseconds : Nat} {m : Network}
    (waited : n.waitForServices services milliseconds = (.ok (), m)) :
    ∀ service ∈ services, m.registry.contains service = true := by
  unfold waitForServices at waited
  dsimp only at waited
  split at waited
  next found =>
    cases waited
    intro service mem
    have owned := List.find?_eq_none.mp found service mem
    rwa [Bool.not_eq_true', Bool.not_eq_false] at owned
  next => cases waited

theorem advances_deliver (http : HttpTransport) (node : ForwardNode) (fields : CallFields)
    (n : Network) : n.Advances (deliver http node fields n).2 := by
  unfold deliver
  split
  · exact .refl n
  · exact n.advances_callService _

end Network

/-! ### The services of a request -/

namespace Cli

variable {g : Gateway} {method : Method} {url : String} {reader : ParamReader}
  {http : HttpTransport} {others : List (Made Network) → Network → Network} {n m : Network}

theorem proxiedService?_eq_some_iff {node : ForwardNode} {service : String} :
    proxiedService? node = some service ↔ node.destination.Proxied ∧ node.service = service := by
  unfold proxiedService?
  cases node.destination with
  | grpc method => exact Option.some_inj.trans (and_iff_right (.grpc method)).symm
  | redis valueType => exact Option.some_inj.trans (and_iff_right (.redis valueType)).symm
  | http url method => exact ⟨nofun, nofun⟩

/-- The services are those of the forwards of the route that go through proxies. -/
theorem mem_requiredServices {service : String} : service ∈ requiredServices g method url ↔
    ∃ r, g.route? method url = some r ∧
      ∃ node ∈ r.chain.nodes, node.destination.Proxied ∧ node.service = service := by
  unfold requiredServices
  cases g.route? method url with
  | none => exact ⟨nofun, nofun⟩
  | some r =>
    dsimp only
    rw [Text.mem_sortNames, List.mem_filterMap]
    simp only [proxiedService?_eq_some_iff, Option.some_inj, exists_eq_left']

/-- Where the services have owners and none is withdrawn, each forward finds its own. -/
theorem found_forwards
    (owned : ∀ service ∈ requiredServices g method url, n.registry.contains service = true)
    {made : Made Network} (mem : made ∈ g.forwards (deliver http) others method url reader n)
    (registered : n.registry.Gains made.world.registry) :
    OnlyFails made.result fun e => ¬ e.Unfound := by
  obtain ⟨r, found, declared, fields, result⟩ := Gateway.declares_forwards mem
  intro e failed unfound
  obtain ⟨proxied, unowned⟩ := Network.deliver_unfound_iff.mp
    ⟨e, result.symm.trans failed, unfound⟩
  have required : made.node.service ∈ requiredServices g method url :=
    mem_requiredServices.mpr ⟨r, found, made.node, declared, proxied, rfl⟩
  have still := registered.contains (owned _ required)
  rw [unowned] at still
  cases still

/-- Handlers that register at most withdraw no proxy while a request is handled. -/
theorem gains_forwards (registering : n.Registering)
    (meanwhile : ∀ log (m : Network), m.Advances (others log m)) {made : Made Network}
    (mem : made ∈ g.forwards (deliver http) others method url reader n) :
    n.registry.Gains made.world.registry := by
  have advances : n.Advances made.world :=
    (Gateway.forwards_induction (P := fun m => n.Advances m) (.refl n)
      (fun log m before => before.trans (meanwhile log m))
      (fun node fields m before => before.trans (Network.advances_deliver http node fields m))
      mem).1
  exact (advances registering).2

def noHttp : HttpTransport := fun _ _ _ => .error (.http "not available")

/-- A command that has started its backends goes on when each service has an owner. -/
theorem owned_startBackends {fs : Files} {o : OutputOptions} {c : ProxyConfig}
    {services : List String} {milliseconds : Nat}
    (started : startBackends fs o c services milliseconds = .ok n) :
    n.Registering ∧ ∀ service ∈ services, n.registry.contains service = true := by
  unfold startBackends at started
  split at started
  next none =>
    cases started
    rw [List.isEmpty_iff.mp none]
    exact ⟨Network.registering_empty, nofun⟩
  next =>
    obtain ⟨m, launched, started⟩ := bind_eq_ok_iff.mp started
    have registering :=
      Network.registering_launchAll Network.registering_empty (mapError_eq_ok_iff.mp launched)
    split at started
    next ready waited =>
      cases started
      have later := (m.advances_waitForServices services milliseconds registering).1
      rw [waited] at later
      exact ⟨later, Network.contains_of_waitForServices waited⟩
    next => cases started

/-- A request that is handled with the backends of a command finds the owner of each service, if
nothing else happens than that time passes and services are registered. -/
theorem found_startBackends {fs : Files} {o : OutputOptions} {c : ProxyConfig}
    {milliseconds : Nat}
    (started : startBackends fs o c (requiredServices g method url) milliseconds = .ok n)
    (meanwhile : ∀ log (m : Network), m.Advances (others log m)) :
    ∀ made ∈ g.forwards (deliver http) others method url reader n,
      OnlyFails made.result fun e => ¬ e.Unfound := by
  obtain ⟨registering, owned⟩ := owned_startBackends started
  intro made mem
  exact found_forwards owned mem (gains_forwards registering meanwhile mem)

end Cli

end ApiGateway
