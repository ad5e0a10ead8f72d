import ApiGateway.Proofs.Forwarding.StraightRun
import ApiGateway.Proofs.Graph.Reordering

/-
What forwards come to does not depend on the order in which they are declared.

Where fields refer only to what a forward waits for, and replies depend on nothing but the call,
each forward has a value: the result that it comes to if the run gets that far. The value is read
off the chain by names alone, so every order of declaration gives the same.

* `ForwardNode.resultBy` - the result of a forward from the results of those it waits for.
* `Chain.value` - the value of each forward; `Chain.value_eq` - it is what its forward makes of the
  values of those it waits for.
* `Run.Evaluated` - a run has the values of some forwards, and made the calls that they take.
* `Chain.Visits.straight_evaluated` - a walk evaluates what it visits, up to the first rejection.
* `Chain.reordered_agrees` - two orders of declaration reject together, or agree on every forward.
-/

namespace ApiGateway

variable {ω : Type}

namespace ForwardNode

/-- Fields refer only to replies of forwards that this one waits for. -/
def RefersToDeps (node : ForwardNode) : Prop :=
  ∀ field ∈ node.mapping, ∀ ref ∈ field.2.nodeRefs, ref.1 ∈ node.deps

/-- The fields of a forward, from the results of those it waits for. -/
def fieldsBy (node : ForwardNode) (params : Json) (value : String → ForwardResult) :
    Except ForwardError CallFields :=
  ({ results := node.deps.map fun d => (d, value d), world := () } : Run Unit).resolve params node

/-- The result of a forward, from the results of those it waits for. -/
def resultBy (node : ForwardNode) (answer : ForwardNode → CallFields → ForwardResult)
    (params : Json) (value : String → ForwardResult) : ForwardResult :=
  match node.fieldsBy params value with
  | .error e => .error e
  | .ok fields => answer node fields

/-- The call that a forward makes, if its fields resolve. -/
def callBy (node : ForwardNode) (params : Json) (value : String → ForwardResult) :
    List CallRecord :=
  match node.fieldsBy params value with
  | .error _ => []
  | .ok fields => [⟨node.name, fields⟩]

theorem resultBy_congr {node : ForwardNode} {value value' : String → ForwardResult}
    (same : ∀ d ∈ node.deps, value d = value' d)
    (answer : ForwardNode → CallFields → ForwardResult) (params : Json) :
    node.resultBy answer params value = node.resultBy answer params value' := by
  have results : (node.deps.map fun d => (d, value d)) = node.deps.map fun d => (d, value' d) :=
    List.map_congr_left fun d hd => by rw [same d hd]
  rw [resultBy, resultBy, fieldsBy, fieldsBy, results]

end ForwardNode

namespace Run

/-- Two runs that have the same results of what a forward waits for resolve its fields alike. -/
theorem resolve_congr {ω' : Type} {r : Run ω} {r' : Run ω'} {node : ForwardNode}
    (refers : node.RefersToDeps) (same : ∀ d ∈ node.deps, r.result? d = r'.result? d)
    (params : Json) : r.resolve params node = r'.resolve params node := by
  refine mapM_congr fun (dest, e) hfield => ?_
  have refs : e.refs.mapM (r.resolveRef params node.name) =
      e.refs.mapM (r'.resolveRef params node.name) := by
    refine mapM_congr fun ref href => ?_
    cases ref with
    | param name => rfl
    | reply dep name =>
      have listed : (dep, name) ∈ e.nodeRefs := List.mem_filterMap.mpr ⟨_, href, rfl⟩
      dsimp only [resolveRef]
      rw [same dep (refers (dest, e) hfield _ listed)]
  dsimp only
  rw [refs]

/-- A run has the values of forwards, and made the calls that they take. -/
structure Evaluated (r : Run ω) (params : Json) (value : String → ForwardResult)
    (done : List ForwardNode) : Prop where
  results : r.results = (done.map (·.name)).map fun name => (name, value name)
  calls : r.calls = done.flatMap (·.callBy params value)

theorem Evaluated.result? {r : Run ω} {params : Json} {value : String → ForwardResult}
    {done : List ForwardNode} (evaluated : r.Evaluated params value done) {name : String}
    (mem : name ∈ done.map (·.name)) : r.result? name = some (value name) := by
  rw [Run.result?, evaluated.results]
  exact ForwardGraph.lookup_of_names mem value

/-- A forward whose dependencies are evaluated is evaluated by its turn. -/
theorem Evaluated.perform {r : Run ω} {params : Json} {value : String → ForwardResult}
    {done : List ForwardNode} (evaluated : r.Evaluated params value done) {forward : Forwarder ω}
    {answer : ForwardNode → CallFields → ForwardResult}
    (answers : ∀ node fields world, (forward node fields world).1 = answer node fields)
    {node : ForwardNode} (refers : node.RefersToDeps)
    (waited : ∀ d ∈ node.deps, d ∈ done.map (·.name))
    (right : value node.name = node.resultBy answer params value) :
    (r.perform forward params node).1 = value node.name ∧
      (r.perform forward params node).2.Evaluated params value (done ++ [node]) := by
  have fields : r.resolve params node = node.fieldsBy params value := by
    refine resolve_congr refers (fun d hd => ?_) params
    rw [evaluated.result? (waited d hd)]
    exact (ForwardGraph.lookup_of_names hd value).symm
  unfold Run.perform
  rw [fields]
  have call : node.callBy params value = match node.fieldsBy params value with
      | .error _ => []
      | .ok fields => [⟨node.name, fields⟩] := rfl
  unfold ForwardNode.resultBy at right
  cases resolved : node.fieldsBy params value with
  | error e =>
    rw [resolved] at right call
    refine ⟨right.symm, ?_, ?_⟩
    · simp [evaluated.results, right]
    · simp [evaluated.calls, call]
  | ok values =>
    rw [resolved] at right call
    refine ⟨(answers node values r.world).trans right.symm, ?_, ?_⟩
    · simp [evaluated.results, right, answers]
    · simp [evaluated.calls, call]

end Run

/-- Replies depend on nothing but the forward and its fields. -/
def Forwarder.Steady (forward : Forwarder ω) : Prop :=
  ∀ node fields world world', (forward node fields world).1 = (forward node fields world').1

namespace Chain

variable {c c' : Chain} {rank : String → Nat} {forward : Forwarder ω} {params : Json}
  {answer : ForwardNode → CallFields → ForwardResult}

/-! ### Values -/

/-- The value of a forward below which no more than some number of others lie. -/
def valueWithin (c : Chain) (answer : ForwardNode → CallFields → ForwardResult) (params : Json) :
    Nat → String → ForwardResult
  | 0, _ => .ok []
  | depth + 1, name =>
    match c.find? name with
    | none => .ok []
    | some node => node.resultBy answer params (c.valueWithin answer params depth)

/-- The result that each forward comes to if nothing is rejected before. -/
def value (c : Chain) (answer : ForwardNode → CallFields → ForwardResult) (params : Json) :
    String → ForwardResult :=
  c.valueWithin answer params c.nodes.length

/-- Any depth above the rank of a forward gives its value. -/
theorem valueWithin_eq (ranked : c.Ranked rank) (distinct : c.names.Nodup) {depth depth' : Nat}
    {name : String} (known : name ∈ c.names) (below : rank name < depth)
    (below' : rank name < depth') :
    c.valueWithin answer params depth name = c.valueWithin answer params depth' name := by
  induction depth generalizing depth' name with
  | zero => exact absurd below (Nat.not_lt_zero _)
  | succ depth ih =>
    obtain ⟨depth', rfl⟩ : ∃ k, depth' = k + 1 := ⟨depth' - 1, by omega⟩
    obtain ⟨node, hnode, rfl⟩ := List.mem_map.mp known
    rw [valueWithin, valueWithin, find?_of_mem distinct hnode]
    refine ForwardNode.resultBy_congr (fun d hd => ?_) answer params
    have down := ranked.below node hnode d hd
    exact ih (ranked.known node hnode d hd) (by omega) (by omega)

/-- The value of a forward is what it makes of the values of those it waits for. -/
theorem value_eq (ranked : c.Ranked rank) (distinct : c.names.Nodup) {node : ForwardNode}
    (hnode : node ∈ c.nodes) :
    c.value answer params node.name = node.resultBy answer params (c.value answer params) := by
  have known : node.name ∈ c.names := List.mem_map_of_mem hnode
  have bound := ranked.bounded node.name known
  have deeper : c.value answer params node.name =
      c.valueWithin answer params (c.nodes.length + 1) node.name :=
    valueWithin_eq ranked distinct known bound (Nat.lt_succ_of_lt bound)
  rw [deeper, valueWithin, find?_of_mem distinct hnode]
  rfl

/-! ### A walk evaluates what it visits -/

/-- The first rejection among forwards by their values. -/
def rejectionAmong (nodes : List ForwardNode) (value : String → ForwardResult) :
    Option ForwardError :=
  nodes.findSome? fun node => node.rejection? (value node.name)

theorem Visits.straight_evaluated {value : String → ForwardResult}
    (right : ∀ node ∈ c.nodes, value node.name = node.resultBy answer params value)
    (refers : ∀ node ∈ c.nodes, node.RefersToDeps)
    (answers : ∀ node fields world, (forward node fields world).1 = answer node fields)
    {seen new : List ForwardNode} {names : List String} (h : c.Visits seen names new) {r : Run ω}
    (evaluated : r.Evaluated params value seen) :
    (Run.straight forward params new r).1 = rejectionAmong new value ∧
      (rejectionAmong new value = none →
        (Run.straight forward params new r).2.Evaluated params value (seen ++ new)) := by
  induction h generalizing r with
  | nil =>
    rw [List.append_nil]
    exact ⟨rfl, fun _ => evaluated⟩
  | skip _ _ ih => exact ih evaluated
  | @visit seen below new node names hnode _ walk _ first rest =>
    obtain ⟨stops, through⟩ := first evaluated
    have split : rejectionAmong (below ++ node :: new) value =
        (rejectionAmong below value).or
          ((node.rejection? (value node.name)).or (rejectionAmong new value)) := by
      rw [rejectionAmong, List.findSome?_append, List.findSome?_cons]
      cases node.rejection? (value node.name) <;> rfl
    rw [split, Run.straight_append]
    generalize Run.straight forward params below r = line at stops through
    obtain ⟨stop, s⟩ := line
    cases rejected : rejectionAmong below value with
    | some e =>
      obtain rfl : stop = some e := stops.trans rejected
      exact ⟨rfl, nofun⟩
    | none =>
      obtain rfl : stop = none := stops.trans rejected
      obtain ⟨result, performed⟩ := (through rejected).perform answers (refers node hnode)
        (walk.covers) (right node hnode)
      dsimp only
      rw [Run.straight_cons, result]
      cases node.rejection? (value node.name) with
      | some e => exact ⟨rfl, nofun⟩
      | none =>
        obtain ⟨stops', through'⟩ := rest performed
        exact ⟨stops', fun clear => by simpa using through' clear⟩

/-- The first execution aborts on a forward that must not fail. -/
def Aborts (c : Chain) (forward : Forwarder ω) (params : Json) (world : ω) : Prop :=
  ∃ e, (c.runNodes forward params c.nodes { world := world }).1 = .error (.rejected e)

/-- The first execution aborts if a value is rejected, and else evaluates all forwards. -/
theorem PostOrder.evaluated (ranked : c.Ranked rank) (distinct : c.names.Nodup)
    (refers : ∀ node ∈ c.nodes, node.RefersToDeps)
    (answers : ∀ node fields world, (forward node fields world).1 = answer node fields)
    {order : List ForwardNode} (h : c.PostOrder order) (params : Json) (world : ω) :
    (c.Aborts forward params world ↔ rejectionAmong order (c.value answer params) ≠ none) ∧
      (¬ c.Aborts forward params world →
        (c.execute forward params { world := world }).2.Evaluated params (c.value answer params)
          order) := by
  obtain ⟨stops, through⟩ := Visits.straight_evaluated (fun _ => value_eq ranked distinct) refers
    answers h (r := { world := world }) ⟨rfl, rfl⟩
  have follows : Follows (c.runNodes forward params c.nodes { world := world })
      (Run.straight forward params order { world := world }) :=
    runNodes_follows ranked distinct h world
  generalize Run.straight forward params order { world := world } = line at stops through follows
  obtain ⟨stop, s⟩ := line
  dsimp only at stops through
  rw [Aborts, execute_eq]
  cases stop with
  | some e =>
    obtain ⟨p, same⟩ : ∃ p, c.runNodes forward params c.nodes { world := world } =
        (.error (.rejected e), { s with inProgress := p }) := follows
    rw [same, ← stops]
    exact ⟨by simp, fun proceeds => absurd ⟨e, rfl⟩ proceeds⟩
  | none =>
    have same : c.runNodes forward params c.nodes { world := world } = (.ok (), s) := follows
    rw [same, ← stops]
    exact ⟨by simp, fun _ => through stops.symm⟩

/-! ### Reordering -/

theorem find?_perm (distinct : c.names.Nodup) (perm : c.nodes.Perm c'.nodes) :
    c.find? = c'.find? := by
  have distinct' : c'.names.Nodup := (perm.map _).nodup_iff.mp distinct
  funext name
  cases found : c.find? name with
  | some node =>
    obtain ⟨hnode, rfl⟩ := mem_nodes_of_find? found
    exact (find?_of_mem distinct' (perm.mem_iff.mp hnode)).symm
  | none =>
    cases found' : c'.find? name with
    | none => rfl
    | some node =>
      obtain ⟨hnode, rfl⟩ := mem_nodes_of_find? found'
      rw [find?_of_mem distinct (perm.mem_iff.mpr hnode)] at found
      cases found

theorem value_perm (distinct : c.names.Nodup) (perm : c.nodes.Perm c'.nodes) :
    c.value answer params = c'.value answer params := by
  have within : ∀ depth,
      c.valueWithin answer params depth = c'.valueWithin answer params depth := by
    intro depth
    induction depth with
    | zero => rfl
    | succ depth ih =>
      funext name
      rw [valueWithin, valueWithin, find?_perm distinct perm, ih]
  rw [value, value, within, perm.length_eq]

theorem rejectionAmong_perm {nodes nodes' : List ForwardNode} (perm : nodes.Perm nodes')
    (value : String → ForwardResult) :
    rejectionAmong nodes value = none ↔ rejectionAmong nodes' value = none := by
  unfold rejectionAmong
  rw [List.findSome?_eq_none_iff, List.findSome?_eq_none_iff]
  exact forall_congr' fun node => by rw [perm.mem_iff]

/-- Forwards that compile in one order of declaration compile in any. -/
theorem compile_perm {fs gs : List Forward} (compiled : Chain.compile fs = .ok c)
    (distinct : (fs.map (·.name)).Nodup) (perm : fs.Perm gs) :
    ∃ c', Chain.compile gs = .ok c' ∧ c.nodes.Perm c'.nodes := by
  obtain ⟨⟨g, built⟩, nodes⟩ := compile_eq_ok_iff.mp compiled
  obtain ⟨nodes', compiled', perm'⟩ := List.perm_comp_forall₂ perm.symm nodes
  refine ⟨⟨nodes'⟩, compile_eq_ok_iff.mpr ⟨⟨g, ?_⟩, compiled'⟩, perm'.symm⟩
  exact ForwardGraph.build_perm distinct perm built

/-- Two runs have the same result of each forward, and made the same calls. -/
structure Agrees (c : Chain) {ω' : Type} (r : Run ω) (r' : Run ω') : Prop where
  results : ∀ node ∈ c.nodes, ∃ result,
    r.result? node.name = some result ∧ r'.result? node.name = some result
  calls : r.calls.Perm r'.calls

/-- **The order of declaration changes nothing.** Forwards of distinct names that compile in one
order compile in any other; their first executions abort together, and if they do not, each forward
has one result and was called with the same fields or in neither. -/
theorem reordered_agrees {fs gs : List Forward} (compiled : Chain.compile fs = .ok c)
    (distinct : (fs.map (·.name)).Nodup) (reordered : fs.Perm gs)
    (refers : ∀ node ∈ c.nodes, node.RefersToDeps) {forward : Forwarder ω}
    (steady : forward.Steady) (params : Json) (world world' : ω) :
    ∃ c', Chain.compile gs = .ok c' ∧
      (c.Aborts forward params world ↔ c'.Aborts forward params world') ∧
      (¬ c.Aborts forward params world →
        c.Agrees (c.execute forward params { world := world }).2
          (c'.execute forward params { world := world' }).2) := by
  obtain ⟨c', compiled', perm⟩ := compile_perm compiled distinct reordered
  obtain ⟨rank, ranked⟩ := exists_ranked_of_compile compiled
  obtain ⟨rank', ranked'⟩ := exists_ranked_of_compile compiled'
  have distinct : c.names.Nodup := names_of_compile compiled ▸ distinct
  have distinct' : c'.names.Nodup := (perm.map _).nodup_iff.mp distinct
  have refers' : ∀ node ∈ c'.nodes, node.RefersToDeps :=
    fun node hnode => refers node (perm.mem_iff.mpr hnode)
  have answers : ∀ node fields w, (forward node fields w).1 = (forward node fields world).1 :=
    fun node fields w => steady node fields w world
  obtain ⟨order, h⟩ := exists_postOrder ranked
  obtain ⟨order', h'⟩ := exists_postOrder ranked'
  have orders : order.Perm order' :=
    (h.perm ranked distinct).trans (perm.trans (h'.perm ranked' distinct').symm)
  obtain ⟨aborts, evaluated⟩ := h.evaluated ranked distinct refers answers params world
  obtain ⟨aborts', evaluated'⟩ := h'.evaluated ranked' distinct' refers' answers params world'
  rw [← value_perm distinct perm] at aborts' evaluated'
  have together : c.Aborts forward params world ↔ c'.Aborts forward params world' := by
    rw [aborts, aborts', ne_eq, ne_eq, rejectionAmong_perm orders]
  refine ⟨c', compiled', together, fun proceeds => ?_⟩
  have values := evaluated proceeds
  have values' := evaluated' fun aborts => proceeds (together.mpr aborts)
  refine ⟨fun node hnode => ?_, ?_⟩
  · have visited : node ∈ order := (h.perm ranked distinct).mem_iff.mpr hnode
    exact ⟨_, values.result? (List.mem_map_of_mem visited),
      values'.result? (List.mem_map_of_mem (orders.mem_iff.mp visited))⟩
  · rw [values.calls, values'.calls]
    exact orders.flatMap_right _

/-- A placement that refers to its user and its stock. -/
def placeForwards : List Forward :=
  [{ name := "place", deps := ["user", "stock"],
     grpc := some { method := "Place", fields := [("label", "user.name | stock.left | %s: %d")] } },
   { name := "user", grpc := some { method := "Find", fields := [("id", "id")] }
     onFail := .reject },
   { name := "stock", redis := some { key := "item" } }]

def placeChain : Chain := (Chain.compile placeForwards).toOption.getD {}

/-- Every call is answered with an object that has no field. -/
def fieldless : Forwarder Nat := fun _ _ calls => (.ok [0x7b, 0x7d], calls + 1)

/-- Declared from the back, the user and the stock are called as before and the placement is not. -/
theorem reordered_agrees_place :
    Chain.compile placeForwards = .ok placeChain ∧ (placeForwards.map (·.name)).Nodup ∧
      placeForwards.Perm placeForwards.reverse ∧ (∀ node ∈ placeChain.nodes, node.RefersToDeps) ∧
      fieldless.Steady ∧ ¬ placeChain.Aborts fieldless .null 0 ∧
      ∃ c', Chain.compile placeForwards.reverse = .ok c' ∧
        (placeChain.Aborts fieldless .null 0 ↔ c'.Aborts fieldless .null 5) ∧
        (¬ placeChain.Aborts fieldless .null 0 →
          placeChain.Agrees (placeChain.execute fieldless .null { world := 0 }).2
            (c'.execute fieldless .null { world := 5 }).2) := by
  have compiled : Chain.compile placeForwards = .ok placeChain := rfl
  have distinct : (placeForwards.map (·.name)).Nodup := by decide
  have reordered := placeForwards.reverse_perm.symm
  have refers : ∀ node ∈ placeChain.nodes, node.RefersToDeps := by
    unfold ForwardNode.RefersToDeps
    decide
  have steady : fieldless.Steady := fun _ _ _ _ => rfl
  have proceeds : ¬ placeChain.Aborts fieldless .null 0 := by
    rintro ⟨e, rejected⟩
    have through : (placeChain.runNodes fieldless .null placeChain.nodes { world := 0 }).1 =
        .ok () := rfl
    cases through.symm.trans rejected
  exact ⟨compiled, distinct, reordered, refers, steady, proceeds,
    reordered_agrees compiled distinct reordered refers steady .null 0 5⟩

end Chain

end ApiGateway
