import ApiGateway.Proofs.Forwarding.Descent
import ApiGateway.Proofs.Graph.Circles

/-
How an execution ends.

An execution that begins with nothing in progress has in progress just the forwards on its stack.
They form a line: each waits for the one inside it, and the outermost has its turn among those
declared. What the line was when the execution ended tells what it leaves in progress.

* `Chain.declared` - what the forwards of a chain declare to wait for.
* `Chain.Line` - a line of forwards; `Chain.Stands` - where a descent stands with its line.
* `Chain.Rejects` - a forward that must not fail did, at the inner end of a line.
* `Chain.Ends` - the ends that there are: no forward is left, one rejects, one waits for a name that
  is not declared, or one lies on a circle.
* `Chain.Placed.descend` - each step keeps the line or comes to such an end;
  `Chain.Orderly.ends` - so each execution comes to one.
* `Chain.Orderly.sound_of_finished`, `Chain.Ends.of_compile` - which ends sound dependencies leave.
-/

namespace ApiGateway

variable {ω : Type}

namespace Chain

/-- The forwards with what each waits for. -/
def declared (c : Chain) : Dependencies := c.nodes.map fun node => (node.name, node.deps)

/-- The names declared before the first forward of a name. -/
def before (c : Chain) (name : String) : List String := c.names.takeWhile (· ≠ name)

variable {c : Chain}

theorem waits_declared {name dep : String} :
    c.declared.Waits name dep ↔ ∃ node ∈ c.nodes, node.name = name ∧ dep ∈ node.deps := by
  unfold Dependencies.Waits declared
  simp [and_assoc]

theorem names_declared (c : Chain) : c.declared.names = c.names := by
  simp [declared, names, Dependencies.names]

theorem missing_of_unknown {node : ForwardNode} {dep : String} (hnode : node ∈ c.nodes)
    (waits : dep ∈ node.deps) (unknown : dep ∉ c.names) : c.declared.Missing := by
  refine ⟨node.name, dep, waits_declared.mpr ⟨node, hnode, rfl, waits⟩, ?_⟩
  rwa [names_declared]

theorem mem_of_mem_before {done rest : List String} {root name : String}
    (split : c.names = done ++ root :: rest) (h : name ∈ c.before root) : name ∈ done := by
  unfold before at h
  rw [split] at h
  clear split
  induction done with
  | nil => simp at h
  | cons n done ih =>
    rw [List.cons_append, List.takeWhile_cons] at h
    split at h
    · rcases List.mem_cons.mp h with rfl | later
      · exact List.mem_cons_self
      · exact List.mem_cons_of_mem _ (ih later)
    · simp at h

/-! ### Lines -/

/-- Names of forwards, the innermost first, of which each waits for the one inside it. The outermost
has its turn among the declared, behind those that all have results. -/
structure Line (c : Chain) (line : List String) (toCome : List ForwardNode)
    (finished : List String) : Prop where
  linked : line.IsChain fun inner outer => c.declared.Waits outer inner
  place : ∃ done, c.names = done ++ line.getLast?.toList ++ toCome.map (·.name) ∧
    ∀ name ∈ done, name ∈ finished

namespace Line

variable {name dep : String} {line finished : List String} {node : ForwardNode}
  {toCome : List ForwardNode}

/-- Whatever stands further out waits for what stands inside, by any number of steps. -/
theorem waits (h : c.Line (name :: line) toCome finished) {outer : String} (hline : outer ∈ line) :
    Relation.TransGen c.declared.Waits outer name := by
  have steps : (name :: line).IsChain
      (Relation.TransGen fun inner outer => c.declared.Waits outer inner) :=
    h.linked.imp fun _ _ => .single
  have apart := (List.pairwise_cons.mp steps.pairwise).1 outer hline
  exact Relation.transGen_swap.mp apart

theorem skip (h : c.Line [] (node :: toCome) finished) (done : node.name ∈ finished) :
    c.Line [] toCome finished := by
  obtain ⟨before, split, results⟩ := h.place
  refine ⟨.nil, before ++ [node.name], by simpa using split, fun n hn => ?_⟩
  rcases List.mem_append.mp hn with old | new
  · exact results n old
  · obtain rfl : n = node.name := by simpa using new
    exact done

theorem turn (h : c.Line [] (node :: toCome) finished) : c.Line [node.name] toCome finished := by
  obtain ⟨before, split, results⟩ := h.place
  exact ⟨.singleton _, before, by simpa using split, results⟩

theorem push (h : c.Line (name :: line) toCome finished) (waits : c.declared.Waits name dep) :
    c.Line (dep :: name :: line) toCome finished := by
  obtain ⟨before, split, results⟩ := h.place
  exact ⟨.cons_cons waits h.linked, before, by simpa using split, results⟩

/-- The innermost forward has a result. -/
theorem pop (h : c.Line (name :: line) toCome finished) :
    c.Line line toCome (finished ++ [name]) := by
  obtain ⟨before, split, results⟩ := h.place
  have kept : ∀ n ∈ before, n ∈ finished ++ [name] :=
    fun n hn => List.mem_append_left _ (results n hn)
  cases line with
  | nil =>
    refine ⟨.nil, before ++ [name], by simpa using split, fun n hn => ?_⟩
    rcases List.mem_append.mp hn with old | new
    · exact kept n old
    · exact List.mem_append_right _ new
  | cons outer line => exact ⟨h.linked.tail, before, by simpa using split, kept⟩

/-- The outermost forward is declared, and all declared before it have results. -/
theorem exists_root (h : c.Line (name :: line) toCome finished) :
    ∃ root ∈ c.names, (name :: line).getLast? = some root ∧
      ∀ n ∈ c.before root, n ∈ finished := by
  obtain ⟨done, split, results⟩ := h.place
  obtain ⟨root, last⟩ : ∃ root, (name :: line).getLast? = some root := ⟨_, List.getLast?_cons⟩
  rw [last, Option.toList_some, List.append_assoc, List.singleton_append] at split
  exact ⟨root, by simp [split], last, fun n hn => results n (mem_of_mem_before split hn)⟩

end Line

/-! ### Ends -/

/-- A forward that must not fail did. It had no result at the start. What is in progress is the line
of those that wait for it; all that is declared before the outermost had a result before. -/
structure Rejects (c : Chain) (start r : Run ω) (node : ForwardNode) (e : ForwardError) : Prop where
  found : c.find? node.name = some node
  fresh : node.name ∉ start.finished
  rejected : ∃ result, r.result? node.name = some result ∧ node.rejection? result = some e
  linked : (node.name :: r.inProgress).IsChain fun inner outer => c.declared.Waits outer inner
  place : ∃ root ∈ c.names, (node.name :: r.inProgress).getLast? = some root ∧
    ∀ name ∈ c.before root, name ∈ r.finished ∧ name ≠ node.name

/-- How an execution that begins with nothing in progress ends, and with which run. -/
inductive Ends (c : Chain) (start : Run ω) : Except Stop Unit → Run ω → Prop where
  /-- No forward is left, and nothing in progress. -/
  | through {r : Run ω} : r.inProgress = [] → (∀ name ∈ c.names, name ∈ r.finished) →
    Ends c start (.ok ()) r
  | rejected {r : Run ω} {node : ForwardNode} {e : ForwardError} : c.Rejects start r node e →
    Ends c start (.error (.rejected e)) r
  | missing {r : Run ω} {node : ForwardNode} {dep : String} : node ∈ c.nodes → dep ∈ node.deps →
    dep ∉ c.names → Ends c start (.error (.broken ⟨node.name, .unknownDependency dep⟩)) r
  | circle {r : Run ω} {name : String} : c.declared.OnCircle name →
    Ends c start (.error (.broken ⟨name, .cyclicDependency⟩)) r

/-- What is in progress is what lies on the stack, in line. -/
structure Stands (c : Chain) (start : Run ω) (stack : List Begun) (toCome : List ForwardNode)
    (r : Run ω) : Prop where
  grows : start.finished ⊆ r.finished
  inProgress : r.inProgress = stack.map (·.node.name)
  looks : ∀ b ∈ stack, ∀ dep ∈ b.waits, dep ∈ b.node.deps
  line : c.Line r.inProgress toCome r.finished

/-- Where a descent is: in line, or at an end. -/
def Placed (c : Chain) (start : Run ω) : Descent ω → Prop
  | .going stack toCome r => c.Stands start stack toCome r
  | .ended outcome r => c.Ends start outcome r

variable {start : Run ω} {forward : Forwarder ω} {params : Json}

/-- A declared forward without a result begins at the inner end of the line, or lies on a circle. -/
theorem Placed.enter {name : String} {stack : List Begun} {toCome : List ForwardNode} {r : Run ω}
    (grows : start.finished ⊆ r.finished) (inProgress : r.inProgress = stack.map (·.node.name))
    (looks : ∀ b ∈ stack, ∀ dep ∈ b.waits, dep ∈ b.node.deps)
    (line : c.Line (name :: r.inProgress) toCome r.finished) (known : name ∈ c.names)
    (unfinished : ¬ (r.result? name).isSome = true) :
    c.Placed start (c.enter name stack toCome r) := by
  obtain ⟨node, found, -, rfl⟩ := exists_find? known
  unfold Chain.enter
  rw [if_neg unfinished, found]
  dsimp only
  split
  next again =>
    have begun : node.name ∈ r.inProgress := by simpa using again
    exact .circle (line.waits begun)
  next =>
    refine ⟨grows, by simp [inProgress], ?_, line⟩
    intro b hb
    rcases List.mem_cons.mp hb with rfl | below
    · exact fun _ h => h
    · exact looks b below

/-- The call of the innermost forward leaves the rest of the line, with its result added. -/
theorem Stands.call {node : ForwardNode} {stack : List Begun} {toCome : List ForwardNode}
    {r : Run ω} (stands : c.Stands start (⟨node, []⟩ :: stack) toCome r)
    (sound : c.Sound (.going (⟨node, []⟩ :: stack) toCome r)) (forward : Forwarder ω)
    (params : Json) :
    (r.call forward params node).2.inProgress = stack.map (·.node.name) ∧
      (r.call forward params node).2.finished = r.finished ++ [node.name] := by
  obtain ⟨-, stacked⟩ := sound
  obtain ⟨s, same, finished, inProgress, -⟩ := Run.call_cases forward params node r
  have own : node.name ∉ stack.map (·.node.name) := (List.nodup_cons.mp stacked.distinct).1
  rw [same, inProgress, stands.inProgress, List.map_cons, List.filter_cons_of_neg (by simp)]
  refine ⟨List.filter_eq_self.mpr fun n hn => ?_, finished⟩
  have other : n ≠ node.name := by
    rintro rfl
    exact own hn
  simpa using other

/-- What a call gives is kept under the forward's name. -/
theorem result?_call {r : Run ω} {node : ForwardNode} (fresh : node.name ∉ r.finished) :
    (r.call forward params node).2.result? node.name = some (r.call forward params node).1 := by
  have none : r.results.lookup node.name = none := by
    have unfinished := mt (Run.isSome_result? r node.name).mp fresh
    exact Option.not_isSome_iff_eq_none.mp unfinished
  unfold Run.call Run.result? Run.finish
  cases r.resolve params node <;> simp [List.lookup_append, none]

/-- A forward that rejects ends the execution at the inner end of its line. -/
theorem Stands.rejects {node : ForwardNode} {stack : List Begun} {toCome : List ForwardNode}
    {r : Run ω} (stands : c.Stands start (⟨node, []⟩ :: stack) toCome r)
    (sound : c.Sound (.going (⟨node, []⟩ :: stack) toCome r)) {e : ForwardError}
    (rejected : node.rejection? (r.call forward params node).1 = some e) :
    c.Rejects start (r.call forward params node).2 node e := by
  obtain ⟨inProgress, finished⟩ := stands.call sound forward params
  obtain ⟨orderly, stacked⟩ := sound
  have fresh : node.name ∉ r.finished :=
    orderly.apart node.name (stacked.begun _ List.mem_cons_self)
  have line := stands.line
  rw [stands.inProgress, List.map_cons] at line
  refine ⟨stacked.found _ List.mem_cons_self, fun old => fresh (stands.grows old),
    ⟨_, result?_call fresh, rejected⟩, ?_, ?_⟩
  · rw [inProgress]
    exact line.linked
  · obtain ⟨root, known, last, results⟩ := line.exists_root
    rw [inProgress, finished]
    refine ⟨root, known, last, fun name hname => ?_⟩
    have done := results name hname
    exact ⟨List.mem_append_left _ done, fun same => fresh (same ▸ done)⟩

/-- The next declared forward begins a line, unless it has a result. -/
theorem Stands.next {node : ForwardNode} {toCome : List ForwardNode} {r : Run ω}
    (stands : c.Stands start [] (node :: toCome) r) :
    c.Placed start (c.descend forward params (.going [] (node :: toCome) r)) := by
  obtain ⟨grows, inProgress, looks, line⟩ := stands
  rw [List.map_nil] at inProgress
  rw [inProgress] at line
  rw [Chain.descend]
  split
  next done =>
    have finished := (Run.isSome_result? r node.name).mp done
    exact ⟨grows, inProgress, looks, inProgress ▸ line.skip finished⟩
  next unfinished =>
    have known : node.name ∈ c.names := by
      obtain ⟨done, split, -⟩ := line.place
      simp [split]
    exact .enter grows inProgress looks (inProgress ▸ line.turn) known unfinished

/-- A name that the innermost forward waits for lengthens the line, unless it has a result or is not
declared. -/
theorem Stands.look {node : ForwardNode} {dep : String} {deps : List String} {stack : List Begun}
    {toCome : List ForwardNode} {r : Run ω} (hnode : node ∈ c.nodes)
    (stands : c.Stands start (⟨node, dep :: deps⟩ :: stack) toCome r) :
    c.Placed start
      (c.descend forward params (.going (⟨node, dep :: deps⟩ :: stack) toCome r)) := by
  obtain ⟨grows, inProgress, looks, line⟩ := stands
  rw [List.forall_mem_cons, List.forall_mem_cons] at looks
  obtain ⟨⟨waits, later⟩, below⟩ := looks
  have looks : ∀ b ∈ (⟨node, deps⟩ :: stack : List Begun), ∀ d ∈ b.waits, d ∈ b.node.deps :=
    List.forall_mem_cons.mpr ⟨later, below⟩
  rw [Chain.descend]
  split
  next => exact ⟨grows, inProgress, looks, line⟩
  next unfinished =>
    split
    next unknown =>
      refine .missing hnode waits fun known => ?_
      obtain ⟨m, found, -⟩ := exists_find? known
      simp [found] at unknown
    next known =>
      obtain ⟨m, found⟩ : ∃ m, c.find? dep = some m :=
        Option.ne_none_iff_exists'.mp (by simpa using known)
      obtain ⟨hm, rfl⟩ := mem_nodes_of_find? found
      refine .enter grows inProgress looks ?_ (List.mem_map_of_mem hm) unfinished
      rw [inProgress] at line ⊢
      exact line.push (waits_declared.mpr ⟨node, hnode, rfl, waits⟩)

/-- The turn of the innermost forward shortens the line, unless it rejects. -/
theorem Stands.turn {node : ForwardNode} {stack : List Begun} {toCome : List ForwardNode}
    {r : Run ω} (stands : c.Stands start (⟨node, []⟩ :: stack) toCome r)
    (sound : c.Sound (.going (⟨node, []⟩ :: stack) toCome r)) :
    c.Placed start (c.descend forward params (.going (⟨node, []⟩ :: stack) toCome r)) := by
  obtain ⟨inProgress, finished⟩ := stands.call sound forward params
  rw [Chain.descend]
  dsimp only
  split
  next e rejected => exact .rejected (stands.rejects sound rejected)
  next =>
    obtain ⟨grows, before, looks, line⟩ := stands
    rw [List.forall_mem_cons] at looks
    refine ⟨?_, inProgress, looks.2, ?_⟩
    · rw [finished]
      exact fun n hn => List.mem_append_left _ (grows hn)
    · rw [before, List.map_cons] at line
      rw [inProgress, finished]
      exact line.pop

/-- Each step keeps to the line, or comes to an end. -/
theorem Placed.descend {d : Descent ω} (sound : c.Sound d) (placed : c.Placed start d) :
    c.Placed start (c.descend forward params d) := by
  match d with
  | .ended outcome r => exact placed
  | .going [] [] r =>
    obtain ⟨-, inProgress, -, line⟩ := placed
    rw [inProgress] at line
    obtain ⟨done, split, results⟩ := line.place
    have all : c.names = done := by simpa using split
    exact .through inProgress (all ▸ results)
  | .going [] (node :: toCome) r => exact Stands.next placed
  | .going (⟨node, dep :: deps⟩ :: stack) toCome r =>
    exact Stands.look (mem_nodes_of_find? (sound.2.found _ List.mem_cons_self)).1 placed
  | .going (⟨node, []⟩ :: stack) toCome r => exact Stands.turn placed sound

/-- Every execution that begins with nothing in progress comes to one of the ends. -/
theorem Orderly.ends {r : Run ω} (orderly : c.Orderly r) (idle : r.inProgress = [])
    (forward : Forwarder ω) (params : Json) :
    c.Ends r (c.runNodes forward params c.nodes r).1 (c.execute forward params r).2 := by
  have begins : c.Placed r (.going [] c.nodes r) := by
    refine ⟨List.Subset.refl _, idle, List.forall_mem_nil _, ?_⟩
    rw [idle]
    exact ⟨.nil, [], rfl, List.forall_mem_nil _⟩
  suffices ∀ d, c.Comes forward params (.going [] c.nodes r) d → c.Placed r d from
    this _ (comes_execute c forward params r)
  intro d comes
  induction comes with
  | refl => exact begins
  | tail comes step ih => exact step ▸ Placed.descend (orderly.start.comes comes) ih

/-! ### Executions that end with all results -/

theorem Settled.declared {names : List String} (settled : c.Settled names) :
    ∀ name ∈ names, name ∈ c.names := by
  induction settled with
  | nil => simp
  | snoc _ found _ ih =>
    intro name hname
    rcases List.mem_append.mp hname with old | new
    · exact ih name old
    · obtain rfl := List.mem_singleton.mp new
      exact List.mem_map_of_mem (mem_nodes_of_find? found).1

/-- Results come in an order that respects any dependencies that forwards wait for. -/
theorem Settled.respected {ds : Dependencies} {names : List String} (settled : c.Settled names)
    (waits : ∀ node, c.find? node.name = some node → ∀ dep ∈ ds.of node.name, dep ∈ node.deps) :
    ds.Respected names := by
  induction settled with
  | nil => exact .nil
  | snoc _ found ready ih => exact ih.snoc fun dep hdep => ready dep (waits _ found dep hdep)

theorem mem_of_declared_iff (distinct : c.names.Nodup) {node : ForwardNode} (hnode : node ∈ c.nodes)
    {dep : String} : dep ∈ c.declared.of node.name ↔ dep ∈ node.deps := by
  rw [Dependencies.mem_of_iff (names_declared c ▸ distinct), waits_declared]
  constructor
  · rintro ⟨other, hother, same, waits⟩
    rwa [← eq_of_name_eq distinct hother hnode same]
  · intro waits
    exact ⟨node, hnode, rfl, waits⟩

/-- Where every forward came to have a result, nothing was wrong with what they wait for. -/
theorem Orderly.sound_of_finished {r : Run ω} (orderly : c.Orderly r) (distinct : c.names.Nodup)
    (finished : ∀ name ∈ c.names, name ∈ r.finished) :
    ¬ c.declared.Missing ∧ ¬ c.declared.Circular := by
  have respected : c.declared.Respected r.finished := by
    refine orderly.settled.respected fun node found dep hdep => ?_
    exact (mem_of_declared_iff distinct (mem_nodes_of_find? found).1).mp hdep
  have below : ∀ name dep, c.declared.Waits name dep →
      r.finished.idxOf dep < r.finished.idxOf name := by
    intro name dep waits
    have known : name ∈ c.names := names_declared c ▸ waits.declared
    rw [← Dependencies.mem_of_iff (names_declared c ▸ distinct)] at waits
    exact respected.idxOf_lt (finished name known) waits
  constructor
  · rintro ⟨name, dep, waits, unknown⟩
    have early := below name dep waits
    have known : name ∈ c.names := names_declared c ▸ waits.declared
    have there : r.finished.idxOf dep < r.finished.length :=
      Nat.lt_trans early (List.idxOf_lt_length_of_mem (finished name known))
    have declared := orderly.settled.declared dep (List.idxOf_lt_length_iff.mp there)
    exact unknown (names_declared c ▸ declared)
  · exact Dependencies.not_circular_of_rank _ below

/-- Nothing is wrong with what the forwards of a compiled chain wait for. -/
theorem sound_of_compile {fs : List Forward} (compiled : Chain.compile fs = .ok c) :
    ¬ c.declared.Missing ∧ ¬ c.declared.Circular := by
  obtain ⟨rank, ranked⟩ := exists_ranked_of_compile compiled
  constructor
  · rintro ⟨name, dep, waits, unknown⟩
    obtain ⟨node, hnode, -, hd⟩ := waits_declared.mp waits
    rw [names_declared] at unknown
    exact unknown (ranked.known node hnode dep hd)
  · refine Dependencies.not_circular_of_rank rank fun name dep waits => ?_
    obtain ⟨node, hnode, rfl, hd⟩ := waits_declared.mp waits
    exact ranked.below node hnode dep hd

/-- An execution of a compiled chain gets through, or a forward rejects. -/
theorem Ends.of_compile {fs : List Forward} (compiled : Chain.compile fs = .ok c)
    {outcome : Except Stop Unit} {r : Run ω} (ends : c.Ends start outcome r) :
    (outcome = .ok () ∧ r.inProgress = [] ∧ ∀ name ∈ c.names, name ∈ r.finished) ∨
      ∃ node e, outcome = .error (.rejected e) ∧ c.Rejects start r node e := by
  obtain ⟨present, straight⟩ := sound_of_compile compiled
  cases ends with
  | through idle finished => exact .inl ⟨rfl, idle, finished⟩
  | rejected rejects => exact .inr ⟨_, _, rfl, rejects⟩
  | missing hnode waits unknown => exact absurd (missing_of_unknown hnode waits unknown) present
  | circle onCircle => exact absurd ⟨_, onCircle⟩ straight

end Chain

end ApiGateway
