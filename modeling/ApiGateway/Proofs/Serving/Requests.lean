import ApiGateway.Proofs.Forwarding.Provenance
import ApiGateway.Proofs.Serving.Compiled

/-
What a request to a compiled document cannot bring about.

Validation sees the declared types and forwards once, and from then on requests only meet faults of
what they bring and of what they are answered. A reference alone can fail later, since what a reply
holds is not declared: it fails when the reply is there and does not have the field.

* `ForwardFault.ofSchema` - the faults that lie with the declared forwards.
* `Route.Blameless` - no request to the route meets a fault of what was declared.
* `Api.blameless_of_compile` - so it is with every route of a compiled document.
-/

namespace ApiGateway

/-- The fault lies with what is declared of forwards, or with a reference to a reply. -/
def ForwardFault.ofSchema : ForwardFault → Bool
  | .unknownDependency _ | .cyclicDependency | .unresolvedReference _ => true
  | _ => false

variable {ω : Type}

/-- The calls of a forwarder never fail for what is declared. -/
def Forwarder.Blameless (forward : Forwarder ω) : Prop :=
  ∀ node fields world e, (forward node fields world).1 = .error e → e.fault.ofSchema = false

/-- An error of a first run: the one it ends with, or one that a forward is left with. -/
def Run.Raises (x : ForwardResult × Run ω) (e : ForwardError) : Prop :=
  x.1 = .error e ∨ ∃ name, x.2.result? name = some (.error e)

/-- Requests to the route meet no fault of what was declared. -/
structure Route.Blameless (r : Route) (forward : Forwarder ω) : Prop where
  /-- Parameters are never refused for their types, whatever a request brings. -/
  types : ∀ reader e, r.binder.bind reader = .error e → e.fault.ofSchema = false
  /-- The forwards wait for none that is not there, and not for one another. -/
  graph : ∀ params world e, Run.Raises (r.chain.execute forward params { world }) e →
    e.fault ≠ .cyclicDependency ∧ ∀ dep, e.fault ≠ .unknownDependency dep
  /-- A reference is unresolved only if its reply is there and does not have the field. -/
  references : ∀ params world name reference,
    Run.Raises (r.chain.execute forward params { world }) ⟨name, .unresolvedReference reference⟩ →
    ∃ node ∈ r.chain.nodes, ∃ dep field, node.name = name ∧
      reference = (FieldRef.reply dep field).display ∧
      (r.chain.execute forward params { world }).2.Misses r.chain forward node dep field

namespace Route.Sound

variable {r : Route} {forward : Forwarder ω}

/-- Every error of a first run has an origin. -/
theorem origin (sound : r.Sound) {params : Json} {world : ω} {e : ForwardError}
    (raised : Run.Raises (r.chain.execute forward params { world }) e) :
    (r.chain.execute forward params { world }).2.Origin r.chain forward e := by
  obtain ⟨rank, ranked⟩ := sound.ranked
  obtain ⟨accounted, fails⟩ :=
    Chain.execute_accounted ranked sound.distinct sound.refers forward params world
  rcases raised with outcome | ⟨name, kept⟩
  · exact fails e outcome
  · exact accounted.errors name e kept

theorem blameless (sound : r.Sound) (honest : forward.Blameless) : r.Blameless forward where
  types := fun reader e failed => ParamBinder.bind_blameless sound.binder reader e failed
  graph := by
    intro params world e raised
    cases sound.origin raised with
    | call _ failed =>
      have blameless := honest _ _ _ _ failed
      constructor
      · intro cyclic
        rw [cyclic] at blameless
        cases blameless
      · intro dep unknown
        rw [unknown] at blameless
        cases blameless
    | reference _ _ => exact ⟨nofun, nofun⟩
    | test _ => exact ⟨nofun, nofun⟩
  references := by
    intro params world name reference raised
    generalize named : (⟨name, .unresolvedReference reference⟩ : ForwardError) = e at raised
    cases sound.origin raised with
    | call _ failed =>
      have blameless := honest _ _ _ _ failed
      rw [← named] at blameless
      cases blameless
    | @reference node dep field hnode misses =>
      cases named
      exact ⟨node, hnode, dep, field, rfl, rfl, misses⟩
    | test _ => cases named

end Route.Sound

namespace Api

/-- **What was declared and compiled is not at fault later.** No request to a route of a compiled
document has parameters refused for their types or forwards stopped for their dependencies, and a
reference is unresolved only where a forward was called and answered without the field. -/
theorem blameless_of_compile {d : Document} {a : Api} (compiled : Api.compile d = .ok a) {r : Route}
    (hr : r ∈ a.routes) {forward : Forwarder ω} (honest : forward.Blameless) :
    r.Blameless forward :=
  (sound_of_compile compiled hr).blameless honest

/-- Orders are placed for the user that is found by their buyer. -/
def orderDocument : Document where
  version := "1"
  baseUrl := "/"
  types := [{ name := "order"
              members := [("lines", { type := .list [.named "line"], required := true })] },
            { name := "line", members := [("item", { type := .named "string" })] }]
  endpoints := [{
    url := "/orders"
    method := some "POST"
    params := [(.body, [("order", { type := .named "order", required := true }),
      ("buyer", { type := .named "string" })])]
    forwards := [
      { name := "user", service := "users",
        grpc := some { method := "Find", fields := [("name", "buyer")] } },
      { name := "place", service := "orders", deps := ["user"],
        grpc := some { method := "Place", fields := [("account", "user.account")] } }]
    returns := [("204", { type := some "nocontent" })] }]

/-- The user is found without an account, so that the reference of the order is unresolved. -/
theorem blameless_of_compile_order : ∃ a, Api.compile orderDocument = .ok a ∧ ∃ r ∈ a.routes,
    Chain.fieldless.Blameless ∧
    (r.chain.execute Chain.fieldless .null { world := 0 }).1 =
      .error ⟨"place", .unresolvedReference "user.account"⟩ ∧
    r.Blameless Chain.fieldless := by
  have computed : ((Api.compile orderDocument).toOption.any fun a => a.routes.any fun r =>
      decide ((r.chain.execute Chain.fieldless .null { world := 0 }).1 =
        .error ⟨"place", .unresolvedReference "user.account"⟩)) = true := by
    decide +kernel
  have honest : Chain.fieldless.Blameless := by
    intro node fields world e failed
    cases failed
  cases compiled : Api.compile orderDocument with
  | error e =>
    rw [compiled] at computed
    cases computed
  | ok a =>
    rw [compiled] at computed
    obtain ⟨r, hr, ended⟩ := List.any_eq_true.mp computed
    exact ⟨a, rfl, r, hr, honest, of_decide_eq_true ended,
      blameless_of_compile compiled hr honest⟩

end Api

end ApiGateway
