import ApiGateway.Proofs.Json.Quoting
import ApiGateway.Proofs.Serving.Routing

/-
What a request is answered.

A request passes three gates, one behind the other: a route answers it, its parameters can be bound,
and the chain of the route gives a body. The first gate that holds it decides the response.

* `Response.json?_failure` - the body of a failure is an object that holds its message unchanged.
* `Outcome`, `Gateway.Comes` - how far a request comes, and the response to it.
* `Gateway.Routed.exists_outcome` - a request comes to one outcome, and is answered by it.
* `Gateway.Answered` - how the status and the body of a response tell of the gates.
* `ConcurrentGateway.handles_run` - every request to every gateway is answered so, once.
-/

namespace ApiGateway

/-! ### Failures -/

namespace Response

/-- The value that the body of a failure holds. -/
def failureValue (message : String) : Json :=
  .object [("error", .string message), ("success", .bool false)]

theorem parse?_failureValue (message : String) :
    Json.parse? (failureValue message).text = some (failureValue message) := by
  have written : (failureValue message).chars = '{' :: (Json.quoteChars "error" ++
      ':' :: (Json.quoteChars message ++ ',' :: (Json.quoteChars "success" ++
        ':' :: ['f', 'a', 'l', 's', 'e', '}']))) := by
    simp [failureValue, Json.chars, Json.entriesChars]
  obtain ⟨fuel, enough⟩ : ∃ fuel, (failureValue message).chars.length = fuel + 3 := by
    refine Nat.exists_eq_add_of_le' ?_
    rw [written]
    simp only [List.length_cons, List.length_append]
    omega
  have scanned : Json.Node.scanValue (fuel + 4) (failureValue message).chars =
      some (.object [(some "error", .string (some message)), (some "success", .bool false)],
        []) := by
    rw [written, Json.Node.scanValue_object,
      Json.Node.scanEntries_comma (Json.Node.scanValue_string (fuel + 1) message _),
      Json.Node.scanEntries_brace rfl]
    rfl
  rw [Json.parse?, Json.text, String.toList_ofList, Json.Node.parse?, enough, scanned]
  rfl

/-- The message of a failure can be read from its body, whatever characters it has. -/
theorem json?_failure (status : Nat) (message : String) :
    (failure status message).json? = some (failureValue message) := by
  have body : (failure status message).body = Text.encode (failureValue message).text := rfl
  rw [json?, body, Json.parseBytes?, Text.decode?_encode, Option.bind_eq_bind, Option.bind_some,
    parse?_failureValue]

end Response

/-! ### The gates -/

/-- How far a request comes. -/
inductive Outcome where
  /-- No route answers it. -/
  | unserved
  /-- Its parameters cannot be bound. -/
  | unbound (cause : ValueError)
  /-- The chain of its route fails. -/
  | failed (cause : ForwardError)
  | done (body : Bytes)

namespace Outcome

def response : Outcome → Response
  | .unserved => .failure 404 "not found"
  | .unbound e => .failure 400 e.message
  | .failed e => .failure 500 e.message
  | .done [] => { status := 204 }
  | .done body => { status := 200, body }

/-- The outcome of a chain that ran. -/
def ofResult : ForwardResult → Outcome
  | .error e => .failed e
  | .ok body => .done body

variable {o : Outcome}

theorem status_eq_404_iff : o.response.status = 404 ↔ o = .unserved := by
  rcases o with _ | _ | _ | _ | _ <;> simp [response, Response.failure]

theorem status_eq_400_iff : o.response.status = 400 ↔ ∃ e, o = .unbound e := by
  rcases o with _ | _ | _ | _ | _ <;> simp [response, Response.failure]

theorem status_eq_500_iff : o.response.status = 500 ↔ ∃ e, o = .failed e := by
  rcases o with _ | _ | _ | _ | _ <;> simp [response, Response.failure]

theorem status_eq_204_iff : o.response.status = 204 ↔ o = .done [] := by
  rcases o with _ | _ | _ | _ | _ <;> simp [response, Response.failure]

theorem status_eq_200_iff : o.response.status = 200 ↔ ∃ body ≠ [], o = .done body := by
  rcases o with _ | _ | _ | _ | _ <;> simp [response, Response.failure]

theorem body_done (body : Bytes) : (done body).response.body = body := by
  cases body <;> rfl

end Outcome

namespace Gateway

variable {g : Gateway} {method : Method} {url : String} {r : Route}

/-- An installed route answers requests of this method and url. -/
def Serves (g : Gateway) (method : Method) (url : String) (r : Route) : Prop :=
  ∃ name a, (name, a) ∈ g.documents ∧ r ∈ a.routes ∧ r.key = (method, url)

theorem Routed.route?_eq_some_iff (routed : g.Routed) :
    g.route? method url = some r ↔ g.Serves method url r := by
  unfold route?
  constructor
  · intro found
    obtain ⟨⟨a, i⟩, place, at_i⟩ := Option.bind_eq_some_iff.mp found
    obtain ⟨name, r', there, at_i', keyed⟩ := routed.find?_eq_some_iff.mp place
    cases at_i.symm.trans at_i'
    exact ⟨name, a, there, List.mem_of_getElem? at_i, keyed⟩
  · rintro ⟨name, a, there, hr, keyed⟩
    obtain ⟨i, at_i⟩ := List.mem_iff_getElem?.mp hr
    have place := routed.find?_eq_some_iff.mpr ⟨name, r, there, at_i, keyed⟩
    exact Option.bind_eq_some_iff.mpr ⟨(a, i), place, at_i⟩

theorem Routed.route?_eq_none_iff (routed : g.Routed) :
    g.route? method url = none ↔ ∀ r, ¬g.Serves method url r := by
  rw [Option.eq_none_iff_forall_ne_some]
  exact forall_congr' fun r => not_congr routed.route?_eq_some_iff

variable {ω : Type} {forward : Forwarder ω} {reader : ParamReader} {world : ω}

/-- What a chain makes of the parameters that a route takes from a request. -/
def Runs (g : Gateway) (forward : Forwarder ω) (method : Method) (url : String)
    (reader : ParamReader) (world : ω) (result : ForwardResult × Run ω) : Prop :=
  ∃ r params, g.Serves method url r ∧ r.binder.bind reader = .ok params ∧
    result = r.chain.execute forward params.toValue { world }

/-- What a request comes to: it passes the gates one behind the other. -/
def Comes (g : Gateway) (forward : Forwarder ω) (method : Method) (url : String)
    (reader : ParamReader) (world : ω) : Outcome → Prop
  | .unserved => ∀ r, ¬g.Serves method url r
  | .unbound e => ∃ r, g.Serves method url r ∧ r.binder.bind reader = .error e
  | .failed e => ∃ run, g.Runs forward method url reader world (.error e, run)
  | .done body => ∃ run, g.Runs forward method url reader world (.ok body, run)

/-! ### Responses -/

theorem handle_unserved (unserved : g.route? method url = none) (forward : Forwarder ω)
    (x : Exchange ω) :
    g.handle forward method url reader x = x.write Outcome.unserved.response := by
  simp only [handle, unserved]
  rfl

theorem handle_unbound {e : ValueError} (found : g.route? method url = some r)
    (unbound : r.binder.bind reader = .error e) (forward : Forwarder ω) (x : Exchange ω) :
    g.handle forward method url reader x = x.write (Outcome.unbound e).response := by
  simp only [handle, found, serve, unbound]
  rfl

theorem handle_bound {params : Variable} {result : ForwardResult} {run : Run ω} {x : Exchange ω}
    (found : g.route? method url = some r) (bound : r.binder.bind reader = .ok params)
    (ran : r.chain.execute forward params.toValue { world := x.world } = (result, run)) :
    g.handle forward method url reader x =
      { x with world := run.world }.write (Outcome.ofResult result).response := by
  simp only [handle, found, serve, bound, ran]
  rcases result with e | _ | ⟨b, bs⟩ <;> rfl

/-- A request comes to one outcome, and the response to it is written. -/
theorem Routed.exists_outcome (routed : g.Routed) (x : Exchange ω) : ∃ o after,
    g.handle forward method url reader x = { x with world := after }.write o.response ∧
      ∀ o', g.Comes forward method url reader x.world o' ↔ o' = o := by
  have serves : ∀ r, g.Serves method url r ↔ g.route? method url = some r :=
    fun r => routed.route?_eq_some_iff.symm
  cases found : g.route? method url with
  | none =>
    refine ⟨.unserved, x.world, handle_unserved found forward x, fun o' => ?_⟩
    cases o' <;> simp [Comes, Runs, serves, found]
  | some r =>
    cases bound : r.binder.bind reader with
    | error e =>
      refine ⟨.unbound e, x.world, handle_unbound found bound forward x, fun o' => ?_⟩
      cases o' <;> simp [Comes, Runs, serves, found, bound, eq_comm]
    | ok params =>
      cases ran : r.chain.execute forward params.toValue { world := x.world } with
      | mk result run =>
        refine ⟨.ofResult result, run.world, handle_bound found bound ran, fun o' => ?_⟩
        cases result <;> cases o' <;>
          simp [Comes, Runs, Outcome.ofResult, serves, found, bound, ran, eq_comm]

/-- How a response, and the world after it, tell of a request. -/
structure Answered (g : Gateway) (forward : Forwarder ω) (method : Method) (url : String)
    (reader : ParamReader) (world : ω) (response : Response) (after : ω) : Prop where
  /-- The status is 404 when no installed route answers the request, -/
  notFound : response.status = 404 ↔ ∀ r, ¬g.Serves method url r
  /-- 400 when one does and its parameters cannot be bound, -/
  badRequest : response.status = 400 ↔
    ∃ e, g.Comes forward method url reader world (.unbound e)
  /-- 500 when they can and the chain fails, -/
  failed : response.status = 500 ↔ ∃ e, g.Comes forward method url reader world (.failed e)
  /-- 204 when the chain gives an empty body, -/
  noContent : response.status = 204 ↔ g.Comes forward method url reader world (.done [])
  /-- and 200 when it gives another one. -/
  content : response.status = 200 ↔
    ∃ body ≠ [], g.Comes forward method url reader world (.done body)
  /-- The body is the one that the chain gives. -/
  body : ∀ body, g.Comes forward method url reader world (.done body) → response.body = body
  /-- The world is left as the chain leaves it. -/
  effects : ∀ run, g.Runs forward method url reader world run → after = run.2.world
  /-- A request that is held before its chain runs calls no forward: whatever forwards do, the
  response is written and nothing else happens. -/
  uncalled : response.status = 404 ∨ response.status = 400 →
    after = world ∧ ∀ {ω' : Type} (other : Forwarder ω') (x : Exchange ω'),
      g.handle other method url reader x = x.write response
  /-- The body of a failure is an object that holds what went wrong. -/
  notFoundText : response.status = 404 →
    response.json? = some (Response.failureValue "not found")
  unboundText : ∀ e, g.Comes forward method url reader world (.unbound e) →
    response.json? = some (Response.failureValue e.message)
  failedText : ∀ e, g.Comes forward method url reader world (.failed e) →
    response.json? = some (Response.failureValue e.message)

/-- The handling of a request writes one response, which tells of it. -/
theorem Routed.answered (routed : g.Routed) (x : Exchange ω) : ∃ response after,
    g.handle forward method url reader x = { x with world := after }.write response ∧
      g.Answered forward method url reader x.world response after := by
  obtain ⟨o, after, written, comes⟩ : ∃ o after,
      g.handle forward method url reader x = { x with world := after }.write o.response ∧
        ∀ o', g.Comes forward method url reader x.world o' ↔ o' = o := routed.exists_outcome x
  have left : ∀ {y : Nat × Exchange ω}, g.handle forward method url reader x = y →
      after = y.2.world := fun same => congrArg (·.2.world) (written.symm.trans same)
  refine ⟨o.response, after, written, ?_⟩
  constructor
  · rw [Outcome.status_eq_404_iff, eq_comm]
    exact (comes .unserved).symm
  · rw [Outcome.status_eq_400_iff]
    exact exists_congr fun e => eq_comm.trans (comes (.unbound e)).symm
  · rw [Outcome.status_eq_500_iff]
    exact exists_congr fun e => eq_comm.trans (comes (.failed e)).symm
  · rw [Outcome.status_eq_204_iff, eq_comm]
    exact (comes (.done [])).symm
  · rw [Outcome.status_eq_200_iff]
    exact exists_congr fun body => and_congr_right fun _ =>
      eq_comm.trans (comes (.done body)).symm
  · intro body done
    rw [← (comes _).mp done, Outcome.body_done]
  · rintro run ⟨r, params, served, bound, ran⟩
    exact left (handle_bound (routed.route?_eq_some_iff.mpr served) bound ran.symm)
  · rintro (notFound | badRequest)
    · obtain rfl := Outcome.status_eq_404_iff.mp notFound
      have unserved := routed.route?_eq_none_iff.mpr ((comes .unserved).mpr rfl)
      exact ⟨left (handle_unserved unserved forward x),
        fun other x' => handle_unserved unserved other x'⟩
    · obtain ⟨e, rfl⟩ := Outcome.status_eq_400_iff.mp badRequest
      obtain ⟨r, served, unbound⟩ := (comes (.unbound e)).mpr rfl
      have found := routed.route?_eq_some_iff.mpr served
      exact ⟨left (handle_unbound found unbound forward x),
        fun other x' => handle_unbound found unbound other x'⟩
  · intro unserved
    rw [Outcome.status_eq_404_iff.mp unserved]
    exact Response.json?_failure 404 "not found"
  · intro e unbound
    rw [← (comes _).mp unbound]
    exact Response.json?_failure 400 e.message
  · intro e failed
    rw [← (comes _).mp failed]
    exact Response.json?_failure 500 e.message

end Gateway

/-! ### Requests to a gateway among concurrent tasks -/

namespace ConcurrentGateway

variable {ω : Type}

/-- Every request to a gateway, whatever was installed in it, is answered once, with the status that
is written, and in the way its outcome has it. -/
theorem handles_run (events : List GatewayEvent) (forward : Forwarder ω) (method : Method)
    (url : String) (reader : ParamReader) (x : Exchange ω) : ∃ response after,
      (run events).gateway.handle forward method url reader x =
        (response.status, { written := x.written ++ [response], world := after }) ∧
      (run events).gateway.Answered forward method url reader x.world response after :=
  (sound_run events).routed.answered x

end ConcurrentGateway

end ApiGateway
