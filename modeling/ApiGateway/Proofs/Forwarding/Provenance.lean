import ApiGateway.Proofs.Forwarding.Reordering

/-
Where the errors of a run come from.

The first run of a chain stops for no dependency, and it keeps an account of its results: a body was
given to a call that was made, and an error is that of a call, or that of a reference to a field
which the reply of a forward does not have. An error that is handed on keeps its origin.

* `Run.Answered` - a forward was called, and its reply is kept.
* `Run.Misses` - a forward refers to a field that a reply does not have.
* `Run.Origin` - what an error of a run comes from.
* `Run.Accounted` - the results of a run with what they come from; `Run.Accounted.perform` - one
  more forward keeps the account.
* `Chain.execute_accounted` - the first run of a chain is accounted for, its outcome included.
-/

namespace ApiGateway

variable {ω : Type}

/-- A body without a field is no object that holds it. -/
theorem ForwardResult.field?_eq_none_iff {body : Bytes} {name : String} :
    ForwardResult.field? (.ok body) name = none ↔
      ∀ entries, Json.parseBytes? body = some (.object entries) → entries.lookup name = none := by
  have json : ForwardResult.json? (.ok body) = Json.parseBytes? body := rfl
  unfold ForwardResult.field?
  rw [json]
  cases Json.parseBytes? body with
  | none => simp
  | some v => cases v <;> simp [Json.field?]

/-- A forward rejects a failure, or a reply that does not meet its test. -/
theorem ForwardNode.rejection?_cases {node : ForwardNode} {result : ForwardResult}
    {e : ForwardError} (rejected : node.rejection? result = some e) :
    result = .error e ∨ e = ⟨node.name, .testFailed⟩ := by
  unfold rejection? at rejected
  split at rejected
  · cases result with
    | error e' =>
      cases rejected
      exact .inl rfl
    | ok body =>
      unfold failure? at rejected
      dsimp only at rejected
      split at rejected
      · cases rejected
      · split at rejected
        · cases rejected
        · cases rejected
          exact .inr rfl
  · cases rejected

namespace Run

/-- A forward of the name was called and answered with this body, which is its result. -/
structure Answered (r : Run ω) (c : Chain) (forward : Forwarder ω) (name : String) (body : Bytes) :
    Prop where
  result : r.result? name = some (.ok body)
  called : ∃ node ∈ c.nodes, node.name = name ∧ ∃ fields world,
    ⟨name, fields⟩ ∈ r.calls ∧ (forward node fields world).1 = .ok body

/-- A forward refers to a field that a reply does not have: the forward of the reply is one it waits
for, which was called and answered, and the body is no JSON object that holds the field. -/
structure Misses (r : Run ω) (c : Chain) (forward : Forwarder ω) (node : ForwardNode)
    (dep name : String) : Prop where
  refers : ∃ field ∈ node.mapping, .reply dep name ∈ field.2.refs
  waits : dep ∈ node.deps
  answered : ∃ body, r.Answered c forward dep body ∧
    ∀ entries, Json.parseBytes? body = some (.object entries) → entries.lookup name = none

/-- What an error of a run comes from. -/
inductive Origin (r : Run ω) (c : Chain) (forward : Forwarder ω) : ForwardError → Prop where
  /-- A call failed. -/
  | call {node : ForwardNode} {fields : CallFields} {world : ω} {e : ForwardError} :
    node ∈ c.nodes → (forward node fields world).1 = .error e → Origin r c forward e
  /-- A reply does not have a field that is referred to. -/
  | reference {node : ForwardNode} {dep name : String} : node ∈ c.nodes →
    r.Misses c forward node dep name →
    Origin r c forward ⟨node.name, .unresolvedReference (FieldRef.reply dep name).display⟩
  /-- A reply does not meet the test of its forward. -/
  | test {node : ForwardNode} : node ∈ c.nodes → Origin r c forward ⟨node.name, .testFailed⟩

/-- The results of a run and what they come from. -/
structure Accounted (r : Run ω) (c : Chain) (forward : Forwarder ω) : Prop where
  bodies : ∀ name body, r.result? name = some (.ok body) → r.Answered c forward name body
  errors : ∀ name e, r.result? name = some (.error e) → r.Origin c forward e

/-! ### A run that goes on -/

/-- A later run has the results and the calls of an earlier one. -/
structure Extends (r' r : Run ω) : Prop where
  results : ∀ name result, r.result? name = some result → r'.result? name = some result
  calls : r.calls ⊆ r'.calls

variable {c : Chain} {forward : Forwarder ω} {params : Json} {r r' : Run ω} {node : ForwardNode}

theorem Answered.mono {name : String} {body : Bytes} (later : r'.Extends r)
    (h : r.Answered c forward name body) : r'.Answered c forward name body := by
  obtain ⟨own, hown, named, fields, world, called, answer⟩ := h.called
  exact ⟨later.results name _ h.result, own, hown, named, fields, world, later.calls called, answer⟩

theorem Misses.mono {dep name : String} (later : r'.Extends r)
    (h : r.Misses c forward node dep name) : r'.Misses c forward node dep name := by
  obtain ⟨body, answered, lacks⟩ := h.answered
  exact ⟨h.refers, h.waits, body, answered.mono later, lacks⟩

theorem Origin.mono {e : ForwardError} (later : r'.Extends r) (h : r.Origin c forward e) :
    r'.Origin c forward e := by
  cases h with
  | call hnode failed => exact .call hnode failed
  | reference hnode misses => exact .reference hnode (misses.mono later)
  | test hnode => exact .test hnode

/-- The account of a run is about its results and its calls. -/
theorem Accounted.congr (results : r'.results = r.results) (calls : r'.calls = r.calls)
    (accounted : r.Accounted c forward) : r'.Accounted c forward ∧ r'.Extends r := by
  have found : ∀ name, r'.result? name = r.result? name := fun name => by
    rw [result?, results, result?]
  have later : r'.Extends r :=
    ⟨fun name result h => (found name).trans h, calls ▸ List.Subset.refl _⟩
  refine ⟨⟨fun name body h => ?_, fun name e h => ?_⟩, later⟩
  · exact (accounted.bodies name body ((found name).symm.trans h)).mono later
  · exact (accounted.errors name e ((found name).symm.trans h)).mono later

/-- The fields of a forward fail in the ways in which their references do. -/
theorem resolve_fails {fails : ForwardError → Prop}
    (each : ∀ field ∈ node.mapping, ∀ ref ∈ field.2.refs,
      OnlyFails (r.resolveRef params node.name ref) fails) :
    OnlyFails (r.resolve params node) fails := by
  refine OnlyFails.mapM fun field hfield => ?_
  exact OnlyFails.bind (.mapM (each field hfield)) fun vs _ => .ok _

/-- A reference of a forward whose dependencies have results fails for what they came to. -/
theorem Accounted.resolve_fails (accounted : r.Accounted c forward) (hnode : node ∈ c.nodes)
    (refers : node.RefersToDeps) (waited : ∀ d ∈ node.deps, d ∈ r.finished) (params : Json) :
    OnlyFails (r.resolve params node) (r.Origin c forward) := by
  refine Run.resolve_fails fun (dest, e) hfield ref href => ?_
  cases ref with
  | param name => exact .ok _
  | reply dep name =>
    have listed : (dep, name) ∈ e.nodeRefs := List.mem_filterMap.mpr ⟨_, href, rfl⟩
    have waits := refers (dest, e) hfield _ listed
    obtain ⟨result, found⟩ := Option.isSome_iff_exists.mp
      ((isSome_result? r dep).mpr (waited dep waits))
    dsimp only [resolveRef]
    rw [found]
    cases result with
    | error e' => exact .error (accounted.errors dep e' found)
    | ok body =>
      dsimp only
      cases lacks : ForwardResult.field? (.ok body) name with
      | some v => exact .ok v
      | none =>
        have misses : r.Misses c forward node dep name :=
          ⟨⟨_, hfield, href⟩, waits, body, accounted.bodies dep body found,
            ForwardResult.field?_eq_none_iff.mp lacks⟩
        exact .error (.reference hnode misses)

/-- Performing a forward adds its result, and its call if its fields resolve. -/
theorem perform_results (forward : Forwarder ω) (params : Json) (node : ForwardNode) (r : Run ω) :
    (r.perform forward params node).2.results =
      r.results ++ [(node.name, (r.perform forward params node).1)] := by
  unfold perform
  cases r.resolve params node <;> rfl

theorem perform_result? {name : String} {result : ForwardResult} :
    (r.perform forward params node).2.result? name = some result ↔ r.result? name = some result ∨
      r.result? name = none ∧ name = node.name ∧ result = (r.perform forward params node).1 := by
  rw [result?, perform_results, List.lookup_append]
  change (r.result? name).or _ = _ ↔ _
  cases r.result? name with
  | some old => simp
  | none =>
    by_cases own : name = node.name
    · simp [own, eq_comm]
    · have other : (name == node.name) = false := by simpa using own
      simp [own, List.lookup_cons, other]

theorem perform_extends (forward : Forwarder ω) (params : Json) (node : ForwardNode) (r : Run ω) :
    (r.perform forward params node).2.Extends r where
  results := fun name result found => perform_result?.mpr (.inl found)
  calls := by
    unfold perform
    cases r.resolve params node with
    | error e => exact List.Subset.refl _
    | ok fields => exact List.subset_append_left _ _

variable (accounted : r.Accounted c forward) (hnode : node ∈ c.nodes)
  (refers : node.RefersToDeps) (waited : ∀ d ∈ node.deps, d ∈ r.finished)

include accounted hnode refers waited in
/-- The error of a forward that was performed is that of its call or of a reference. -/
theorem Accounted.perform_fails (params : Json) :
    OnlyFails (r.perform forward params node).1
      ((r.perform forward params node).2.Origin c forward) := by
  intro e failed
  have later := perform_extends forward params node r
  have fails := accounted.resolve_fails hnode refers waited params
  refine Origin.mono later ?_
  unfold Run.perform at failed
  cases resolved : r.resolve params node with
  | error e' =>
    simp only [resolved, Except.error.injEq] at failed
    subst failed
    exact fails e' resolved
  | ok fields =>
    simp only [resolved] at failed
    exact .call hnode failed

include accounted hnode refers waited in
/-- One more forward keeps the account of a run, if those it waits for have results. -/
theorem Accounted.perform (params : Json) :
    (r.perform forward params node).2.Accounted c forward := by
  have later := perform_extends forward params node r
  constructor
  · intro name body found
    rcases perform_result?.mp found with old | ⟨-, rfl, own⟩
    · exact (accounted.bodies name body old).mono later
    · refine ⟨found, node, hnode, rfl, ?_⟩
      unfold Run.perform at own ⊢
      cases resolved : r.resolve params node with
      | error e => simp [resolved] at own
      | ok fields =>
        simp only [resolved] at own
        exact ⟨fields, r.world, List.mem_append_right _ (List.mem_singleton.mpr rfl), own.symm⟩
  · intro name e found
    rcases perform_result?.mp found with old | ⟨-, -, own⟩
    · exact (accounted.errors name e old).mono later
    · exact accounted.perform_fails hnode refers waited params e own.symm

end Run

namespace Chain

open Run

variable {c : Chain} {rank : String → Nat} {forward : Forwarder ω} {params : Json}

/-! ### The first run -/

theorem Visits.straight_accounted (ranked : c.Ranked rank)
    (refers : ∀ node ∈ c.nodes, node.RefersToDeps) {seen new : List ForwardNode}
    {names : List String} (h : c.Visits seen names new) {r : Run ω}
    (cached : r.finished = seen.map (·.name)) (accounted : r.Accounted c forward) :
    (straight forward params new r).2.Accounted c forward ∧
      ∀ e, (straight forward params new r).1 = some e →
        (straight forward params new r).2.Origin c forward e := by
  refine h.straight_keeps ranked (P := fun r => r.Accounted c forward)
    (Q := fun r e => r.Origin c forward e) ?_ cached accounted
  intro node hnode r _ waited accounted
  refine ⟨accounted.perform hnode (refers node hnode) waited params, fun e rejected => ?_⟩
  rcases ForwardNode.rejection?_cases rejected with failed | rfl
  · exact accounted.perform_fails hnode (refers node hnode) waited params e failed
  · exact .test hnode

/-- The first run of a chain is accounted for, and so is the error that it ends with. -/
theorem execute_accounted (ranked : c.Ranked rank) (distinct : c.names.Nodup)
    (refers : ∀ node ∈ c.nodes, node.RefersToDeps) (forward : Forwarder ω) (params : Json)
    (world : ω) :
    (c.execute forward params { world }).2.Accounted c forward ∧
      OnlyFails (c.execute forward params { world }).1
        ((c.execute forward params { world }).2.Origin c forward) := by
  obtain ⟨order, h⟩ := exists_postOrder ranked
  have perm := h.perm ranked distinct
  have start : ({ world } : Run ω).Accounted c forward := ⟨nofun, nofun⟩
  obtain ⟨accounted, stopped⟩ : (straight forward params order { world }).2.Accounted c forward ∧
      ∀ e, (straight forward params order { world }).1 = some e →
        (straight forward params order { world }).2.Origin c forward e :=
    Visits.straight_accounted ranked refers h rfl start
  have line : c.RunsStraight forward params world order :=
    .of_follows (fun node hnode => perm.mem_iff.mpr hnode)
      (runNodes_follows ranked distinct h world)
  obtain ⟨accounted, later⟩ := accounted.congr line.results line.calls
  refine ⟨accounted, fun e failed => ?_⟩
  cases stop : (straight forward params order { world }).1 with
  | some e' =>
    cases (line.stopped e' stop).symm.trans failed
    exact (stopped e stop).mono later
  | none =>
    cases last : c.nodes.getLast? with
    | none =>
      cases (line.empty (List.getLast?_eq_none_iff.mp last)).symm.trans failed
    | some node =>
      have found := later.results _ _ (line.ended stop node last)
      exact accounted.errors node.name e (found.trans (congrArg some failed))

end Chain

end ApiGateway
