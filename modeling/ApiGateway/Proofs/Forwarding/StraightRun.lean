import ApiGateway.Forwarding.Engine
import ApiGateway.Proofs.Forwarding.PostOrder

/-
A chain runs as a straight line.

The engine descends from each forward to those it waits for, with a memory of results and a guard
against circles. On a chain that compiles all of this comes to one pass over the depth-first order
(`Chain.execute_straight`).

* `Run.perform` - one forward: its fields, its call, its result.
* `Run.straight` - one forward after another, up to the first that must not fail and does.
-/

namespace ApiGateway

variable {ω : Type}

namespace Run

/-! ### The straight run -/

/-- Resolves the fields of a forward, calls it if they resolve, and keeps the result. -/
def perform (forward : Forwarder ω) (params : Json) (node : ForwardNode) (r : Run ω) :
    ForwardResult × Run ω :=
  match r.resolve params node with
  | .error e => (.error e, { r with results := r.results ++ [(node.name, .error e)] })
  | .ok fields =>
    let (result, world) := forward node fields r.world
    (result, { r with
      results := r.results ++ [(node.name, result)]
      calls := r.calls ++ [⟨node.name, fields⟩]
      world := world })

/-- Performs forwards in order, up to the first that fails and must not. -/
def straight (forward : Forwarder ω) (params : Json) :
    List ForwardNode → Run ω → Option ForwardError × Run ω
  | [], r => (none, r)
  | node :: nodes, r =>
    let (result, r) := r.perform forward params node
    match node.onFail, node.failure? result with
    | .reject, some e => (some e, r)
    | _, _ => straight forward params nodes r

variable (forward : Forwarder ω) (params : Json)

theorem straight_cons (node : ForwardNode) (nodes : List ForwardNode) (r : Run ω) :
    straight forward params (node :: nodes) r =
      match node.rejection? (r.perform forward params node).1 with
      | some e => (some e, (r.perform forward params node).2)
      | none => straight forward params nodes (r.perform forward params node).2 := by
  rw [straight, ForwardNode.rejection?]
  obtain ⟨result, r⟩ := r.perform forward params node
  dsimp only
  cases node.onFail with
  | proceed => rfl
  | reject =>
    cases node.failure? result with
    | none => rfl
    | some e => rfl

theorem straight_append (xs ys : List ForwardNode) (r : Run ω) :
    straight forward params (xs ++ ys) r =
      match straight forward params xs r with
      | (some e, r) => (some e, r)
      | (none, r) => straight forward params ys r := by
  induction xs generalizing r with
  | nil => rfl
  | cons x xs ih =>
    rw [List.cons_append, straight_cons, straight_cons]
    cases x.rejection? (r.perform forward params x).1 with
    | none => exact ih _
    | some e => rfl

/-- A straight run does not look at what is in progress, and leaves it. -/
theorem perform_inProgress (node : ForwardNode) (r : Run ω) (p : List String) :
    ({ r with inProgress := p } : Run ω).perform forward params node =
      ((r.perform forward params node).1,
        { (r.perform forward params node).2 with inProgress := p }) := by
  unfold perform
  have same : ({ r with inProgress := p } : Run ω).resolve params node = r.resolve params node := rfl
  rw [same]
  cases r.resolve params node <;> rfl

theorem straight_inProgress (nodes : List ForwardNode) (r : Run ω) (p : List String) :
    straight forward params nodes { r with inProgress := p } =
      ((straight forward params nodes r).1,
        { (straight forward params nodes r).2 with inProgress := p }) := by
  induction nodes generalizing r with
  | nil => rfl
  | cons node nodes ih =>
    rw [straight_cons, straight_cons, perform_inProgress]
    cases node.rejection? (r.perform forward params node).1 with
    | none => exact ih _
    | some e => rfl

/-- The names with results. -/
def finished (r : Run ω) : List String := r.results.map (·.1)

@[simp] theorem perform_finished (node : ForwardNode) (r : Run ω) :
    (r.perform forward params node).2.finished = r.finished ++ [node.name] := by
  unfold perform finished
  cases r.resolve params node <;> simp

theorem straight_finished (nodes : List ForwardNode) (r : Run ω)
    (through : (straight forward params nodes r).1 = none) :
    (straight forward params nodes r).2.finished = r.finished ++ nodes.map (·.name) := by
  induction nodes generalizing r with
  | nil => simp [straight]
  | cons node nodes ih =>
    rw [straight_cons] at through ⊢
    cases rejected : node.rejection? (r.perform forward params node).1 with
    | none =>
      rw [rejected] at through
      simp [ih _ through]
    | some e =>
      rw [rejected] at through
      cases through

theorem isSome_result? (r : Run ω) (name : String) :
    (r.result? name).isSome = true ↔ name ∈ r.finished := by
  unfold result? finished
  induction r.results with
  | nil => simp
  | cons entry entries ih =>
    obtain ⟨n, result⟩ := entry
    by_cases same : name = n
    · subst same
      simp
    · have differ : (name == n) = false := by simpa using same
      rw [List.lookup_cons, differ, List.map_cons, List.mem_cons]
      exact ih.trans (or_iff_right same).symm

theorem perform_keeps_inProgress (node : ForwardNode) (r : Run ω) :
    (r.perform forward params node).2.inProgress = r.inProgress :=
  congrArg (·.2.inProgress) (perform_inProgress forward params node r r.inProgress)

theorem straight_keeps_inProgress (nodes : List ForwardNode) (r : Run ω) :
    (straight forward params nodes r).2.inProgress = r.inProgress :=
  congrArg (·.2.inProgress) (straight_inProgress forward params nodes r r.inProgress)

/-- The engine's call performs the forward and ends its progress. -/
theorem call_eq (node : ForwardNode) (r : Run ω) :
    r.call forward params node =
      ((r.perform forward params node).1,
        { (r.perform forward params node).2 with
          inProgress := r.inProgress.filter (· ≠ node.name) }) := by
  unfold call perform finish
  cases r.resolve params node <;> rfl

end Run

namespace Chain

open Run

variable {c : Chain} {rank : String → Nat} {forward : Forwarder ω} {params : Json}

/-- What an execution gives, from how its forwards ended. -/
def resultOf (c : Chain) (r : Run ω) : Except Stop Unit → ForwardResult
  | .error s => .error s.error
  | .ok () => c.lastResult r

theorem execute_eq (c : Chain) (forward : Forwarder ω) (params : Json) (r : Run ω) :
    c.execute forward params r =
      (c.resultOf (c.runNodes forward params c.nodes r).2 (c.runNodes forward params c.nodes r).1,
        (c.runNodes forward params c.nodes r).2) := by
  unfold execute
  split
  next s r' stopped => rw [stopped, resultOf]
  next r' through => rw [through, resultOf]

/-! ### What a straight run keeps -/

/-- What each turn keeps, a walk keeps: that of a forward which has no result, after all that it
waits for. What holds of an error that rejects holds of the one that the walk stops with. -/
theorem Visits.straight_keeps (ranked : c.Ranked rank) {P : Run ω → Prop}
    {Q : Run ω → ForwardError → Prop}
    (turn : ∀ node ∈ c.nodes, ∀ r, node.name ∉ r.finished → (∀ d ∈ node.deps, d ∈ r.finished) →
      P r → P (r.perform forward params node).2 ∧
        ∀ e, node.rejection? (r.perform forward params node).1 = some e →
          Q (r.perform forward params node).2 e)
    {seen new : List ForwardNode} {names : List String} (h : c.Visits seen names new) {r : Run ω}
    (cached : r.finished = seen.map (·.name)) (start : P r) :
    P (straight forward params new r).2 ∧
      ∀ e, (straight forward params new r).1 = some e → Q (straight forward params new r).2 e := by
  induction h generalizing r with
  | nil => exact ⟨start, nofun⟩
  | skip _ _ ih => exact ih cached start
  | @visit seen below new node names hnode fresh walk _ first rest =>
    have under := first cached start
    have through := straight_finished forward params below r
    rw [straight_append]
    generalize straight forward params below r = line at under through
    obtain ⟨stop, s⟩ := line
    cases stop with
    | some e => exact under
    | none =>
      have done : s.finished = (seen ++ below).map (·.name) := by
        rw [through rfl, cached, List.map_append]
      have unfinished : node.name ∉ s.finished := done ▸ walk.unseen ranked hnode fresh
      obtain ⟨kept, rejects⟩ := turn node hnode s unfinished (done ▸ walk.covers) under.1
      dsimp only
      rw [straight_cons]
      cases rejected : node.rejection? (s.perform forward params node).1 with
      | some e =>
        refine ⟨kept, fun e' same => ?_⟩
        cases same
        exact rejects e rejected
      | none => exact rest (by rw [perform_finished, done]; simp) kept

/-! ### The engine follows the straight run -/

/-- What the engine came to is what a straight run came to. A run that stopped may leave forwards in
progress, which a straight run does not know. -/
def Follows (engine : Except Stop Unit × Run ω) (line : Option ForwardError × Run ω) : Prop :=
  match line with
  | (none, s) => engine = (.ok (), s)
  | (some e, s) => ∃ p, engine = (.error (.rejected e), { s with inProgress := p })

/-- Two parts of a run follow one straight run, the second only if the first came to its end. -/
theorem Follows.andThen {engine : Except Stop Unit × Run ω} {xs ys : List ForwardNode} {r : Run ω}
    {next : Run ω → Except Stop Unit × Run ω} (first : Follows engine (straight forward params xs r))
    (second : (straight forward params xs r).1 = none →
      Follows (next (straight forward params xs r).2)
        (straight forward params ys (straight forward params xs r).2)) :
    Follows (match engine with
      | (.error s, r) => (.error s, r)
      | (.ok (), r) => next r) (straight forward params (xs ++ ys) r) := by
  rw [straight_append]
  generalize straight forward params xs r = line at first second
  obtain ⟨stop, s⟩ := line
  cases stop with
  | none =>
    obtain rfl : engine = (.ok (), s) := first
    exact second rfl
  | some e =>
    obtain ⟨p, rfl⟩ : ∃ p, engine = (.error (.rejected e), { s with inProgress := p }) := first
    exact ⟨p, rfl⟩

theorem mem_nodes_of_find? {name : String} {node : ForwardNode} (found : c.find? name = some node) :
    node ∈ c.nodes ∧ node.name = name :=
  ⟨List.mem_reverse.mp (List.mem_of_find?_eq_some found), by simpa using List.find?_some found⟩

theorem exists_find? {name : String} (known : name ∈ c.names) :
    ∃ node, c.find? name = some node ∧ node ∈ c.nodes ∧ node.name = name := by
  obtain ⟨node, hnode, rfl⟩ := List.mem_map.mp known
  cases found : c.find? node.name with
  | none =>
    have none := List.find?_eq_none.mp found node (List.mem_reverse.mpr hnode)
    simp at none
  | some m => exact ⟨m, rfl, mem_nodes_of_find? found⟩

theorem find?_of_mem (distinct : c.names.Nodup) {node : ForwardNode} (hnode : node ∈ c.nodes) :
    c.find? node.name = some node := by
  obtain ⟨m, found, hm, same⟩ := exists_find? (List.mem_map_of_mem hnode : node.name ∈ c.names)
  rw [found, eq_of_name_eq distinct hm hnode same]

/-- A forward that has no result and is not in progress is performed after what it waits for. -/
theorem runNode_follows (distinct : c.names.Nodup) {node : ForwardNode} (hnode : node ∈ c.nodes)
    {r : Run ω} (fresh : node.name ∉ r.finished) (idle : node.name ∉ r.inProgress) {fuel : Nat}
    {below : List ForwardNode}
    (deps : Follows
      (c.runDeps (c.runNode forward params fuel) node node.deps
        { r with inProgress := node.name :: r.inProgress })
      (straight forward params below { r with inProgress := node.name :: r.inProgress })) :
    Follows (c.runNode forward params (fuel + 1) node.name r)
      (straight forward params (below ++ [node]) r) := by
  have unfinished : ¬ (r.result? node.name).isSome = true := by rwa [isSome_result?]
  have waiting : ¬ r.inProgress.contains node.name = true := by simpa using idle
  rw [runNode, if_neg unfinished, find?_of_mem distinct hnode]
  dsimp only
  rw [if_neg waiting]
  have kept := straight_keeps_inProgress forward params below r
  rw [straight_inProgress] at deps
  rw [straight_append]
  generalize straight forward params below r = line at deps kept
  obtain ⟨stop, s⟩ := line
  cases stop with
  | none =>
    have through : c.runDeps (c.runNode forward params fuel) node node.deps
        { r with inProgress := node.name :: r.inProgress } =
        (.ok (), { s with inProgress := node.name :: r.inProgress }) := deps
    rw [through]
    dsimp only
    -- The forward leaves the progress, which is then what it was before.
    have restored : (node.name :: r.inProgress).filter (· ≠ node.name) = s.inProgress := by
      rw [List.filter_cons_of_neg (by simp), kept]
      refine List.filter_eq_self.mpr fun n hn => ?_
      have other : n ≠ node.name := fun same => idle (same ▸ hn)
      simpa using other
    rw [call_eq, perform_inProgress, straight_cons, restored,
      ← perform_keeps_inProgress forward params node s]
    cases node.rejection? (s.perform forward params node).1 with
    | none => rfl
    | some e => exact ⟨_, rfl⟩
  | some e =>
    obtain ⟨p, same⟩ : ∃ p, c.runDeps (c.runNode forward params fuel) node node.deps
        { r with inProgress := node.name :: r.inProgress } =
        (.error (.rejected e), { s with inProgress := p }) := deps
    rw [same]
    exact ⟨p, rfl⟩

/-- The engine's descent follows the depth-first walk. The results are those of the forwards left;
what is in progress stands above all that the walk still goes to, so that it meets no circle, and
the fuel lasts. -/
theorem Visits.runDeps_follows (ranked : c.Ranked rank) (distinct : c.names.Nodup)
    {seen new : List ForwardNode} {names : List String} (h : c.Visits seen names new)
    (owner : ForwardNode) (fuel : Nat) (r : Run ω)
    (cached : r.finished = seen.map (·.name)) (fueled : ∀ n ∈ names, rank n < fuel)
    (above : ∀ p ∈ r.inProgress, ∀ n ∈ names, rank n < rank p) :
    Follows (c.runDeps (c.runNode forward params fuel) owner names r)
      (straight forward params new r) := by
  induction h generalizing owner fuel r with
  | nil => rfl
  | skip old _ ih =>
    have done : (r.result? _).isSome = true := (isSome_result? r _).mpr (cached ▸ old)
    rw [runDeps, if_pos done]
    exact ih owner fuel r cached
      (fun n hn => fueled n (List.mem_cons_of_mem _ hn))
      (fun p hp n hn => above p hp n (List.mem_cons_of_mem _ hn))
  | @visit seen below new node names hnode fresh _ _ first rest =>
    have unfinished : ¬ (r.result? node.name).isSome = true := by
      rwa [isSome_result?, cached]
    have found : ¬ (c.find? node.name).isNone = true := by
      rw [find?_of_mem distinct hnode]
      simp
    have idle : node.name ∉ r.inProgress := fun hp =>
      Nat.lt_irrefl _ (above _ hp _ List.mem_cons_self)
    obtain ⟨fuel, rfl⟩ : ∃ f, fuel = f + 1 := by
      have positive := fueled node.name List.mem_cons_self
      exact ⟨fuel - 1, by omega⟩
    rw [runDeps, if_neg unfinished, if_neg found, List.append_cons below]
    refine Follows.andThen ?_ ?_
    · refine runNode_follows distinct hnode (by rwa [cached]) idle ?_
      refine first node fuel _ cached ?_ ?_
      · intro d hd
        have down := ranked.below node hnode d hd
        have top := fueled node.name List.mem_cons_self
        omega
      · intro p hp d hd
        have down := ranked.below node hnode d hd
        rcases List.mem_cons.mp hp with rfl | hp
        · exact down
        · exact Nat.lt_trans down (above p hp _ List.mem_cons_self)
    · intro through
      refine rest owner (fuel + 1) _ ?_ (fun n hn => fueled n (List.mem_cons_of_mem _ hn)) ?_
      · rw [straight_finished _ _ _ _ through, cached]
        simp
      · rw [straight_keeps_inProgress]
        exact fun p hp n hn => above p hp n (List.mem_cons_of_mem _ hn)

/-- Running the declared forwards is running what one would wait for that waits for them all. -/
theorem runNodes_eq_runDeps (distinct : c.names.Nodup) (owner : ForwardNode)
    (nodes : List ForwardNode) (declared : ∀ node ∈ nodes, node ∈ c.nodes) (r : Run ω) :
    c.runNodes forward params nodes r =
      c.runDeps (c.runNode forward params (c.nodes.length + 1)) owner (nodes.map (·.name)) r := by
  induction nodes generalizing r with
  | nil => rfl
  | cons node nodes ih =>
    have ih := ih fun n hn => declared n (List.mem_cons_of_mem _ hn)
    have found : ¬ (c.find? node.name).isNone = true := by
      rw [find?_of_mem distinct (declared node List.mem_cons_self)]
      simp
    rw [runNodes, List.map_cons, runDeps]
    by_cases done : (r.result? node.name).isSome = true
    · rw [if_pos done, if_pos done]
      exact ih r
    · rw [if_neg done, if_neg done, if_neg found]
      obtain ⟨outcome, s⟩ := c.runNode forward params (c.nodes.length + 1) node.name r
      cases outcome with
      | error stop => rfl
      | ok _ => exact ih s

theorem runNodes_follows (ranked : c.Ranked rank) (distinct : c.names.Nodup)
    {order : List ForwardNode} (h : c.PostOrder order) (world : ω) :
    Follows (c.runNodes forward params c.nodes { world := world })
      (straight forward params order { world := world }) := by
  cases declared : c.nodes with
  | nil =>
    rw [PostOrder, names, declared] at h
    cases h
    rfl
  | cons owner nodes =>
    rw [← declared, runNodes_eq_runDeps distinct owner c.nodes (fun _ hn => hn)]
    refine Visits.runDeps_follows ranked distinct h owner _ _ rfl ?_ ?_
    · exact fun n hn => Nat.lt_succ_of_lt (ranked.bounded n hn)
    · exact fun p hp => absurd hp List.not_mem_nil

/-- The first run of a chain is the straight run over an order. -/
structure RunsStraight (c : Chain) (forward : Forwarder ω) (params : Json) (world : ω)
    (order : List ForwardNode) : Prop where
  results : (c.execute forward params { world := world }).2.results =
    (straight forward params order { world := world }).2.results
  calls : (c.execute forward params { world := world }).2.calls =
    (straight forward params order { world := world }).2.calls
  worldAfter : (c.execute forward params { world := world }).2.world =
    (straight forward params order { world := world }).2.world
  /-- A forward that stops the run gives its error as the outcome. -/
  stopped : ∀ e, (straight forward params order { world := world }).1 = some e →
    (c.execute forward params { world := world }).1 = .error e
  /-- Without a stop the outcome is the result of the last forward declared, which is there. -/
  ended : (straight forward params order { world := world }).1 = none → ∀ last,
    c.nodes.getLast? = some last →
    (straight forward params order { world := world }).2.result? last.name =
      some (c.execute forward params { world := world }).1
  empty : c.nodes = [] → (c.execute forward params { world := world }).1 = .ok []
  /-- The run never stops for broken dependencies. -/
  sound : ∀ e, (c.runNodes forward params c.nodes { world := world }).1 ≠ .error (.broken e)

theorem RunsStraight.of_follows {order : List ForwardNode} {world : ω}
    (covers : ∀ node ∈ c.nodes, node ∈ order)
    (follows : Follows (c.runNodes forward params c.nodes { world := world })
      (straight forward params order { world := world })) :
    c.RunsStraight forward params world order := by
  cases line : straight forward params order { world := world } with
  | mk stop s =>
  rw [line] at follows
  cases stop with
  | some e =>
    obtain ⟨p, same⟩ : ∃ p, c.runNodes forward params c.nodes { world := world } =
        (.error (.rejected e), { s with inProgress := p }) := follows
    have run : c.execute forward params { world := world } =
        (.error e, { s with inProgress := p }) := by
      rw [execute, same]
      rfl
    refine ⟨?_, ?_, ?_, ?_, ?_, ?_, ?_⟩ <;> simp only [run, line, same]
    · rintro e' ⟨⟩
      rfl
    · exact nofun
    · intro none
      simp [none, runNodes] at same
    · exact nofun
  | none =>
    have same : c.runNodes forward params c.nodes { world := world } = (.ok (), s) := follows
    have run : c.execute forward params { world := world } = (c.lastResult s, s) := by
      rw [execute, same]
    refine ⟨?_, ?_, ?_, ?_, ?_, ?_, ?_⟩ <;> simp only [run, line, same]
    · exact nofun
    · intro _ last hlast
      have there : (s.result? last.name).isSome = true := by
        have finished := straight_finished forward params order { world := world }
          (congrArg Prod.fst line)
        rw [line] at finished
        rw [isSome_result?, finished]
        exact List.mem_map_of_mem (covers last (List.mem_of_getLast? hlast))
      obtain ⟨result, found⟩ := Option.isSome_iff_exists.mp there
      simp [lastResult, hlast, found]
    · intro none
      simp [lastResult, none]
    · exact nofun

/-- **A chain that compiles runs as a straight line.** Its forwards have one depth-first order, in
which each stands once. The run resolves, calls and keeps them in that order and stops at the first
that fails and must not. -/
theorem execute_straight {fs : List Forward} (compiled : Chain.compile fs = .ok c)
    (distinct : (fs.map (·.name)).Nodup) (forward : Forwarder ω) (params : Json) (world : ω) :
    ∃ order, c.PostOrder order ∧ (∀ other, c.PostOrder other → other = order) ∧
      order.Perm c.nodes ∧ c.RunsStraight forward params world order := by
  obtain ⟨rank, ranked⟩ := exists_ranked_of_compile compiled
  have distinct : c.names.Nodup := names_of_compile compiled ▸ distinct
  obtain ⟨order, h⟩ := exists_postOrder ranked
  have perm := h.perm ranked distinct
  refine ⟨order, h, fun other h' => PostOrder.unique distinct h' h, perm, ?_⟩
  exact .of_follows (fun node hnode => perm.mem_iff.mpr hnode)
    (runNodes_follows ranked distinct h world)

/-- A page that waits for a user and a quota, for which the user waits too. -/
def pageForwards : List Forward :=
  [{ name := "page", deps := ["user", "quota"], grpc := some { method := "Render" } },
   { name := "user", deps := ["quota"], grpc := some { method := "Find" }, onFail := .reject },
   { name := "quota", grpc := some { method := "Check" } }]

/-- The user is not found, so that the page is not called. -/
theorem execute_straight_page :
    ∃ c, Chain.compile pageForwards = .ok c ∧ (pageForwards.map (·.name)).Nodup ∧
      ∃ order, c.PostOrder order ∧ (∀ other, c.PostOrder other → other = order) ∧
        order.Perm c.nodes ∧
        c.RunsStraight
          (fun node _ calls =>
            (if node.name = "user" then .error ⟨"user", .httpStatus 404⟩ else .ok [], calls + 1))
          .null 0 order := by
  obtain ⟨c, compiled⟩ : ∃ c, Chain.compile pageForwards = .ok c := ⟨_, rfl⟩
  have distinct : (pageForwards.map (·.name)).Nodup := by decide
  exact ⟨c, compiled, distinct, execute_straight compiled distinct _ _ _⟩

end Chain

end ApiGateway
