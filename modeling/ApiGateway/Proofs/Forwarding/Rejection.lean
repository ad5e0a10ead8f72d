import ApiGateway.Proofs.Forwarding.Endings

/-
What a rejection leaves behind.

An execution that a forward aborts keeps the result of that forward, and leaves in progress those
that waited for it. No note of the abort is kept. So what a further execution does hangs on where
the forward stood: if others waited for it, the outermost of them is taken for one on a circle, now
and ever after; if none did, the forward is passed over and the next one has its turn.

* `Chain.Blocked` - a run of which no execution gets past a forward left in progress;
  `Chain.Blocked.execute` - such a run stays as it is.
* `Chain.Rejects.idle_iff` - when a rejection leaves nothing in progress.
* `Chain.Rests` - between executions of a compiled chain nothing is in progress, or the run is
  blocked (`Chain.Rests.execute`, `Chain.rests_executions`).
* `Chain.inProgress_executions` - what each execution leaves in progress.
* `Chain.Sound.exists_first` - where results come, some forward is the first to have its turn.
* `Chain.rejected_executions` - whether a rejection is the last thing that a chain does.
-/

namespace ApiGateway

variable {ω : Type}

namespace Chain

variable {c : Chain} {fs : List Forward} {forward : Forwarder ω} {params : Json}

/-! ### The order of declaration -/

/-- Of two names that are declared one is declared first. -/
theorem before_total {a b : String} (ha : a ∈ c.names) (hb : b ∈ c.names) (differ : a ≠ b) :
    a ∈ c.before b ∨ b ∈ c.before a := by
  unfold before
  generalize c.names = names at ha hb
  induction names with
  | nil => cases ha
  | cons n ns ih =>
    by_cases first : n = a
    · subst first
      left
      simp [differ]
    · by_cases second : n = b
      · subst second
        right
        simp [first]
      · have ha : a ∈ ns := (List.mem_cons.mp ha).resolve_left (Ne.symm first)
        have hb : b ∈ ns := (List.mem_cons.mp hb).resolve_left (Ne.symm second)
        rcases ih ha hb with h | h
        · left
          rw [List.takeWhile_cons_of_pos (by simpa using second)]
          exact List.mem_cons_of_mem _ h
        · right
          rw [List.takeWhile_cons_of_pos (by simpa using first)]
          exact List.mem_cons_of_mem _ h

theorem exists_split {root : String} (known : root ∈ c.names) :
    ∃ done node rest, c.nodes = done ++ node :: rest ∧ node.name = root ∧
      c.before root = done.map (·.name) := by
  unfold before names at *
  generalize c.nodes = nodes at known ⊢
  induction nodes with
  | nil => simp at known
  | cons node nodes ih =>
    by_cases own : node.name = root
    · exact ⟨[], node, nodes, rfl, own, by simp [own]⟩
    · rw [List.map_cons] at known
      have later := (List.mem_cons.mp known).resolve_left (Ne.symm own)
      obtain ⟨done, first, rest, split, named, before⟩ := ih later
      refine ⟨node :: done, first, rest, by rw [split, List.cons_append], named, ?_⟩
      rw [List.map_cons, List.takeWhile_cons_of_pos (by simpa using own), before, List.map_cons]

/-- Forwards with results are passed over. -/
theorem runNodes_append {done : List ForwardNode} {r : Run ω}
    (finished : ∀ name ∈ done.map (·.name), name ∈ r.finished) (nodes : List ForwardNode) :
    c.runNodes forward params (done ++ nodes) r = c.runNodes forward params nodes r := by
  induction done with
  | nil => rfl
  | cons node done ih =>
    rw [List.map_cons, List.forall_mem_cons] at finished
    rw [List.cons_append, runNodes, if_pos ((Run.isSome_result? r node.name).mpr finished.1)]
    exact ih finished.2

/-- Where all forwards have results, an execution does nothing. -/
theorem execute_finished {r : Run ω} (finished : ∀ name ∈ c.names, name ∈ r.finished)
    (forward : Forwarder ω) (params : Json) : (c.execute forward params r).2 = r := by
  have through : c.runNodes forward params (c.nodes ++ []) r = (.ok (), r) :=
    runNodes_append finished []
  rw [List.append_nil] at through
  rw [execute_eq, through]

/-! ### Blocked runs -/

/-- The first declared forward without a result was left in progress, the outermost of all. -/
structure Blocked (c : Chain) (r : Run ω) (root : String) : Prop where
  declared : root ∈ c.names
  before : ∀ name ∈ c.before root, name ∈ r.finished
  unfinished : root ∉ r.finished
  begun : r.inProgress.getLast? = some root

/-- What is left in progress looks like a circle. -/
theorem Blocked.runNodes {r : Run ω} {root : String} (blocked : c.Blocked r root)
    (forward : Forwarder ω) (params : Json) :
    c.runNodes forward params c.nodes r = (.error (.broken ⟨root, .cyclicDependency⟩), r) := by
  obtain ⟨known, before, unfinished, begun⟩ := blocked
  have inProgress : r.inProgress.contains root = true := by
    simpa using List.mem_of_getLast? begun
  have noResult : ¬ (r.result? root).isSome = true := by rwa [Run.isSome_result?]
  obtain ⟨own, found, -, rfl⟩ := exists_find? known
  obtain ⟨done, node, rest, split, named, names⟩ := exists_split known
  rw [names] at before
  rw [split, runNodes_append before, Chain.runNodes, named, if_neg noResult, runNode, if_neg noResult, found]
  dsimp only
  rw [if_pos inProgress]

theorem Blocked.execute {r : Run ω} {root : String} (blocked : c.Blocked r root)
    (forward : Forwarder ω) (params : Json) :
    c.execute forward params r = (.error ⟨root, .cyclicDependency⟩, r) := by
  rw [execute_eq, blocked.runNodes forward params]
  rfl

/-! ### Runs after a rejection -/

/-- The forwards that a rejection leaves in progress block the run. -/
theorem Rejects.blocked {start r : Run ω} {node : ForwardNode} {e : ForwardError}
    (rejects : c.Rejects start r node e) (orderly : c.Orderly r) (busy : r.inProgress ≠ []) :
    ∃ root, c.Blocked r root ∧ node.name ∉ c.before root := by
  obtain ⟨root, known, last, before⟩ := rejects.place
  have begun : r.inProgress.getLast? = some root := by
    rwa [List.getLast?_cons_of_ne_nil busy] at last
  have unfinished : root ∉ r.finished := orderly.apart root (List.mem_of_getLast? begun)
  refine ⟨root, ⟨known, fun name hname => (before name hname).1, unfinished, begun⟩, ?_⟩
  exact fun early => (before node.name early).2 rfl

theorem Rejects.finished {start r : Run ω} {node : ForwardNode} {e : ForwardError}
    (rejects : c.Rejects start r node e) : node.name ∈ r.finished := by
  obtain ⟨result, found, -⟩ := rejects.rejected
  rw [← Run.isSome_result?, found]
  rfl

/-- A rejection leaves nothing in progress exactly where all that is declared before has results. -/
theorem Rejects.idle_iff {start r : Run ω} {node : ForwardNode} {e : ForwardError}
    (rejects : c.Rejects start r node e) (orderly : c.Orderly r) :
    r.inProgress = [] ↔ ∀ name ∈ c.before node.name, name ∈ r.finished := by
  constructor
  · intro idle name hname
    obtain ⟨root, -, last, before⟩ := rejects.place
    rw [idle] at last
    obtain rfl : node.name = root := by simpa using last
    exact (before name hname).1
  · intro finished
    by_contra busy
    -- The outermost in progress is declared before the one that rejected, and has no result.
    obtain ⟨root, blocked, notBefore⟩ := rejects.blocked orderly busy
    have known : node.name ∈ c.names :=
      List.mem_map_of_mem (mem_nodes_of_find? rejects.found).1
    have differ : root ≠ node.name := by
      rintro rfl
      exact blocked.unfinished rejects.finished
    rcases before_total blocked.declared known differ with early | late
    · exact blocked.unfinished (finished root early)
    · exact notBefore late

/-- How a run is between executions: nothing is in progress, or it is blocked. -/
def Rests (c : Chain) (r : Run ω) : Prop := r.inProgress = [] ∨ ∃ root, c.Blocked r root

theorem Rests.execute (compiled : Chain.compile fs = .ok c) {r : Run ω} (rests : c.Rests r)
    (orderly : c.Orderly r) (forward : Forwarder ω) (params : Json) :
    c.Rests (c.execute forward params r).2 := by
  rcases rests with idle | ⟨root, blocked⟩
  · have after : c.Orderly (c.execute forward params r).2 := orderly.execute
    rcases (orderly.ends idle forward params).of_compile compiled with
      ⟨-, idle, -⟩ | ⟨node, e, -, rejects⟩
    · exact .inl idle
    · by_cases idle : (c.execute forward params r).2.inProgress = []
      · exact .inl idle
      · obtain ⟨root, blocked, -⟩ := rejects.blocked after idle
        exact .inr ⟨root, blocked⟩
  · rw [blocked.execute]
    exact .inr ⟨root, blocked⟩

theorem rests_executions (compiled : Chain.compile fs = .ok c) (forward : Forwarder ω)
    (params : Json) (world : ω) (n : Nat) :
    c.Rests (c.executions forward params world n) := by
  induction n with
  | zero => exact .inl rfl
  | succ n ih => exact ih.execute compiled (orderly_executions world n) forward params

/-! ### What is left in progress -/

/-- What an execution that goes on from a run leaves in progress. -/
structure Leaves (c : Chain) (forward : Forwarder ω) (params : Json) (r : Run ω) : Prop where
  /-- Nothing, if it does not stop. -/
  through : (c.runNodes forward params c.nodes r).1 = .ok () →
    (c.execute forward params r).2.inProgress = []
  /-- The line of those that wait for a forward that rejects. There is none exactly if all that is
  declared before that forward has results. -/
  rejected : ∀ e, (c.runNodes forward params c.nodes r).1 = .error (.rejected e) →
    ∃ node, c.Rejects r (c.execute forward params r).2 node e ∧
      ((c.execute forward params r).2.inProgress = [] ↔
        ∀ name ∈ c.before node.name, name ∈ (c.execute forward params r).2.finished)
  /-- A defect of the graph is reported exactly if something was left in progress before. -/
  broken_iff : (∃ e, (c.runNodes forward params c.nodes r).1 = .error (.broken e)) ↔
    r.inProgress ≠ []
  /-- It is a circle through the outermost in progress, and nothing else is done. -/
  blocked : r.inProgress ≠ [] → ∃ root, r.inProgress.getLast? = some root ∧
    c.execute forward params r = (.error ⟨root, .cyclicDependency⟩, r)

/-- No forward waits for one that must not fail. -/
def Sheltered (c : Chain) : Prop :=
  ∀ node ∈ c.nodes, node.onFail = .reject → ∀ other ∈ c.nodes, node.name ∉ other.deps

theorem onFail_of_rejection? {node : ForwardNode} {result : ForwardResult} {e : ForwardError}
    (rejected : node.rejection? result = some e) : node.onFail = .reject := by
  unfold ForwardNode.rejection? at rejected
  split at rejected
  · assumption
  · cases rejected

theorem Rejects.idle_of_sheltered {start r : Run ω} {node : ForwardNode} {e : ForwardError}
    (rejects : c.Rejects start r node e) (sheltered : c.Sheltered) : r.inProgress = [] := by
  have linked := rejects.linked
  cases busy : r.inProgress with
  | nil => rfl
  | cons outer rest =>
    rw [busy, List.isChain_cons_cons] at linked
    obtain ⟨other, hother, -, waits⟩ := waits_declared.mp linked.1
    obtain ⟨result, -, rejected⟩ := rejects.rejected
    have own := (mem_nodes_of_find? rejects.found).1
    exact absurd waits (sheltered node own (onFail_of_rejection? rejected) other hother)

theorem Blocked.leaves {r : Run ω} {root : String} (blocked : c.Blocked r root)
    (forward : Forwarder ω) (params : Json) : c.Leaves forward params r := by
  have busy : r.inProgress ≠ [] := by
    intro idle
    have begun := blocked.begun
    simp [idle] at begun
  have stop := blocked.runNodes forward params
  constructor
  case through =>
    intro through
    cases (congrArg Prod.fst stop).symm.trans through
  case rejected =>
    intro e rejected
    cases (congrArg Prod.fst stop).symm.trans rejected
  case broken_iff =>
    rw [stop]
    exact ⟨fun _ => busy, fun _ => ⟨_, rfl⟩⟩
  case blocked => exact fun _ => ⟨root, blocked.begun, blocked.execute forward params⟩

theorem Orderly.leaves (compiled : Chain.compile fs = .ok c) {r : Run ω} (orderly : c.Orderly r)
    (idle : r.inProgress = []) (forward : Forwarder ω) (params : Json) :
    c.Leaves forward params r := by
  have after : c.Orderly (c.execute forward params r).2 := orderly.execute
  rcases (orderly.ends idle forward params).of_compile compiled with
    ⟨through, idleAfter, -⟩ | ⟨node, e, rejected, rejects⟩
  · constructor
    case through => exact fun _ => idleAfter
    case rejected =>
      intro e rejected
      cases through.symm.trans rejected
    case broken_iff =>
      rw [through]
      exact ⟨nofun, fun busy => absurd idle busy⟩
    case blocked => exact fun busy => absurd idle busy
  · constructor
    case through =>
      intro through
      cases rejected.symm.trans through
    case rejected =>
      intro e' same
      cases rejected.symm.trans same
      exact ⟨node, rejects, rejects.idle_iff after⟩
    case broken_iff =>
      rw [rejected]
      exact ⟨nofun, fun busy => absurd idle busy⟩
    case blocked => exact fun busy => absurd idle busy

theorem leaves_executions (compiled : Chain.compile fs = .ok c) (forward : Forwarder ω)
    (params : Json) (world : ω) (n : Nat) :
    c.Leaves forward params (c.executions forward params world n) := by
  rcases rests_executions compiled forward params world n with idle | ⟨root, blocked⟩
  · exact Orderly.leaves compiled (orderly_executions world n) idle forward params
  · exact blocked.leaves forward params

/-- **What executions leave in progress.** On a compiled chain an execution leaves nothing in
progress, unless a forward rejects for which others wait: those stay in progress, and from then on
every execution reports a circle through the outermost of them. If no forward waits for one that
must not fail, nothing is ever left in progress. -/
theorem inProgress_executions (compiled : Chain.compile fs = .ok c) (forward : Forwarder ω)
    (params : Json) (world : ω) (n : Nat) :
    c.Leaves forward params (c.executions forward params world n) ∧
      (c.Sheltered → (c.executions forward params world n).inProgress = []) := by
  refine ⟨leaves_executions compiled forward params world n, fun sheltered => ?_⟩
  induction n with
  | zero => rfl
  | succ n ih =>
    have ends := (orderly_executions world n).ends ih forward params
    rcases ends.of_compile compiled with ⟨-, idle, -⟩ | ⟨node, e, -, rejects⟩
    · exact idle
    · exact rejects.idle_of_sheltered sheltered

def pageChain : Chain := (Chain.compile pageForwards).toOption.getD {}

/-- The user is not found; all else is answered with an empty body. -/
def notFound : Forwarder Nat := fun node _ calls =>
  (if node.name = "user" then .error ⟨"user", .httpStatus 404⟩ else .ok [], calls + 1)

theorem inProgress_executions_page :
    Chain.compile pageForwards = .ok pageChain ∧
      pageChain.Leaves notFound .null (pageChain.executions notFound .null 0 1) ∧
      (pageChain.Sheltered → (pageChain.executions notFound .null 0 1).inProgress = []) := by
  have compiled : Chain.compile pageForwards = .ok pageChain := rfl
  exact ⟨compiled, inProgress_executions compiled notFound .null 0 1⟩

/-- The page waits for the user and is left in progress, so that the next execution takes it for one
on a circle. -/
theorem not_idle_page :
    Chain.compile pageForwards = .ok pageChain ∧
      (pageChain.executions notFound .null 0 1).inProgress = ["page"] ∧
      (pageChain.execute notFound .null (pageChain.executions notFound .null 0 1)).1 =
        .error ⟨"page", .cyclicDependency⟩ :=
  ⟨rfl, rfl, rfl⟩

/-! ### Whether a rejection is final -/

theorem finished_comes {d d' : Descent ω} (comes : c.Comes forward params d d') :
    d.run.finished ⊆ d'.run.finished := by
  refine comes.keeps (P := fun r => d.run.finished ⊆ r.finished) (fun _ _ h => h) ?_
    (List.Subset.refl _)
  intro r node h
  obtain ⟨s, same, finished, -⟩ := Run.call_cases forward params node r
  rw [same, finished]
  exact fun name hname => List.mem_append_left _ (h hname)

/-- A forward that has its turn is a declared one without a result. -/
theorem Sound.turn {d : Descent ω} (sound : c.Sound d) {node : ForwardNode}
    (turn : d.turn? = some node) : node ∈ c.nodes ∧ node.name ∉ d.run.finished := by
  unfold Descent.turn? at turn
  split at turn
  next node' stack toCome r =>
    cases turn
    obtain ⟨orderly, stacked⟩ := sound
    have found := stacked.found _ List.mem_cons_self
    have begun := stacked.begun _ List.mem_cons_self
    exact ⟨(mem_nodes_of_find? found).1, orderly.apart _ begun⟩
  next => cases turn

/-- Where results come, some forward is the first to have its turn. -/
theorem Sound.exists_first {d d' : Descent ω} (sound : c.Sound d)
    (comes : c.Comes forward params d d') {name : String} (unfinished : name ∉ d.run.finished)
    (finished : name ∈ d'.run.finished) :
    ∃ first ∈ c.nodes, first.name ∉ d.run.finished ∧ first.name ∈ d'.run.finished ∧
      (∀ dep ∈ first.deps, dep ∈ d.run.finished) ∧
      (d.run.call forward params first).2.calls <+: d'.run.calls := by
  induction comes using Relation.ReflTransGen.head_induction_on with
  | refl => exact absurd finished unfinished
  | @head d next step rest ih =>
    subst step
    rcases run_descend c forward params d with ⟨p, same⟩ | ⟨node, turn, same⟩
    · -- Nothing but what is in progress changes, which no call looks at.
      have ih := ih sound.descend
      rw [same] at ih
      obtain ⟨first, hfirst, fresh, done, ready, calls⟩ := ih unfinished
      refine ⟨first, hfirst, fresh, done, ready, ?_⟩
      rw [Run.call_eq, Run.perform_inProgress] at calls
      rwa [Run.call_eq]
    · obtain ⟨own, fresh⟩ := sound.turn turn
      obtain ⟨s, called, results, -⟩ := Run.call_cases forward params node d.run
      refine ⟨node, own, fresh, finished_comes rest ?_, ?_, same ▸ calls_comes rest⟩
      · rw [same, called, results]
        simp
      · exact fun dep hdep => (Run.isSome_result? d.run dep).mp (sound.ready turn dep hdep)

/-- Something declared before a forward has no result, or all that is declared has one. -/
def Final (c : Chain) (r : Run ω) (name : String) : Prop :=
  (∃ other ∈ c.before name, other ∉ r.finished) ∨ ∀ other ∈ c.names, other ∈ r.finished

/-- What becomes of a chain when a forward has rejected in some execution. -/
structure AfterRejection (c : Chain) (forward : Forwarder ω) (params : Json) (world : ω) (n : Nat)
    (node : ForwardNode) (e : ForwardError) : Prop where
  outcome : (c.execute forward params (c.executions forward params world n)).1 = .error e
  rejects : c.Rejects (c.executions forward params world n)
    (c.executions forward params world (n + 1)) node e
  /-- No later execution does anything exactly if the rejection is final. -/
  final_iff : (∀ m, c.executions forward params world (n + 1 + m) =
      c.executions forward params world (n + 1)) ↔
    c.Final (c.executions forward params world (n + 1)) node.name
  /-- If it is not, the next execution goes on to another forward. -/
  resumes : ¬ c.Final (c.executions forward params world (n + 1)) node.name →
    ∃ first ∈ c.nodes, first.name ∉ (c.executions forward params world (n + 1)).finished ∧
      first.name ∈ (c.executions forward params world (n + 2)).finished ∧
      (∀ dep ∈ first.deps, dep ∈ (c.executions forward params world (n + 1)).finished) ∧
      ((c.executions forward params world (n + 1)).call forward params first).2.calls <+:
        (c.executions forward params world (n + 2)).calls

theorem Rejects.execute_of_final {start r : Run ω} {node : ForwardNode} {e : ForwardError}
    (rejects : c.Rejects start r node e) (orderly : c.Orderly r) (final : c.Final r node.name)
    (forward : Forwarder ω) (params : Json) : (c.execute forward params r).2 = r := by
  rcases final with ⟨other, hbefore, unfinished⟩ | finished
  · have busy : r.inProgress ≠ [] := fun idle =>
      unfinished ((rejects.idle_iff orderly).mp idle other hbefore)
    obtain ⟨root, blocked, -⟩ := rejects.blocked orderly busy
    rw [blocked.execute]
  · exact execute_finished finished forward params

/-- An execution that does nothing is followed by such executions only. -/
theorem executions_of_stays {world : ω} {n : Nat}
    (stays : (c.execute forward params (c.executions forward params world n)).2 =
      c.executions forward params world n) (m : Nat) :
    c.executions forward params world (n + m) = c.executions forward params world n := by
  induction m with
  | zero => rfl
  | succ m ih => rw [← Nat.add_assoc, executions, ih, stays]

/-- A rejection that is not final is followed by the turn of another forward. -/
theorem Rejects.resumes (compiled : Chain.compile fs = .ok c) {start r : Run ω} {node : ForwardNode}
    {e : ForwardError} (rejects : c.Rejects start r node e) (orderly : c.Orderly r)
    (resumed : ¬ c.Final r node.name) (forward : Forwarder ω) (params : Json) :
    ∃ first ∈ c.nodes, first.name ∉ r.finished ∧
      first.name ∈ (c.execute forward params r).2.finished ∧
      (∀ dep ∈ first.deps, dep ∈ r.finished) ∧
      (r.call forward params first).2.calls <+: (c.execute forward params r).2.calls := by
  unfold Final at resumed
  push Not at resumed
  obtain ⟨before, name, known, unfinished⟩ := resumed
  have idle := (rejects.idle_iff orderly).mpr before
  have comes := comes_execute c forward params r
  rcases (orderly.ends idle forward params).of_compile compiled with
    ⟨-, -, finished⟩ | ⟨other, e', -, again⟩
  · exact orderly.start.exists_first comes unfinished (finished name known)
  · exact orderly.start.exists_first comes again.fresh again.finished

/-- **Whether a rejection is final.** When a forward of a compiled chain rejects, the execution ends
with its error. No later execution does anything if some forward declared before it has no result,
or if all have; otherwise the next one gives another forward its turn, as if nothing had been
rejected. -/
theorem rejected_executions (compiled : Chain.compile fs = .ok c) {forward : Forwarder ω}
    {params : Json} {world : ω} {n : Nat} {e : ForwardError}
    (rejected : (c.runNodes forward params c.nodes (c.executions forward params world n)).1 =
      .error (.rejected e)) : ∃ node, c.AfterRejection forward params world n node e := by
  have orderly : c.Orderly (c.executions forward params world (n + 1)) :=
    orderly_executions world (n + 1)
  obtain ⟨node, rejects, -⟩ := (leaves_executions compiled forward params world n).rejected e rejected
  have resumes := rejects.resumes compiled orderly
  refine ⟨node, ?_⟩
  constructor
  case outcome =>
    rw [execute_eq, rejected]
    rfl
  case rejects => exact rejects
  case final_iff =>
    constructor
    · intro stays
      by_contra resumed
      obtain ⟨first, -, fresh, done, -⟩ := resumes resumed forward params
      have same : (c.executions forward params world (n + 2)).finished =
          (c.executions forward params world (n + 1)).finished := congrArg Run.finished (stays 1)
      exact fresh (same ▸ done)
    · intro final
      exact executions_of_stays (rejects.execute_of_final orderly final forward params)
  case resumes => exact fun resumed => resumes resumed forward params

/-- The page is declared last. -/
def lateChain : Chain := (Chain.compile pageForwards.reverse).toOption.getD {}

theorem rejected_executions_late :
    Chain.compile pageForwards.reverse = .ok lateChain ∧
      (lateChain.runNodes notFound .null lateChain.nodes
        (lateChain.executions notFound .null 0 0)).1 =
        .error (.rejected ⟨"user", .httpStatus 404⟩) ∧
      ∃ node, lateChain.AfterRejection notFound .null 0 0 node ⟨"user", .httpStatus 404⟩ := by
  have compiled : Chain.compile pageForwards.reverse = .ok lateChain := rfl
  have rejected : (lateChain.runNodes notFound .null lateChain.nodes
      (lateChain.executions notFound .null 0 0)).1 =
      .error (.rejected ⟨"user", .httpStatus 404⟩) := rfl
  exact ⟨compiled, rejected, rejected_executions compiled rejected⟩

/-- The user is rejected, and the next execution calls the page that waits for the user. -/
theorem not_final_late :
    Chain.compile pageForwards.reverse = .ok lateChain ∧
      (lateChain.execute notFound .null { world := 0 }).1 = .error ⟨"user", .httpStatus 404⟩ ∧
      (lateChain.executions notFound .null 0 1).calls.map (·.node) = ["quota", "user"] ∧
      (lateChain.executions notFound .null 0 2).calls.map (·.node) = ["quota", "user", "page"] :=
  ⟨rfl, rfl, rfl, rfl⟩

end Chain

end ApiGateway
