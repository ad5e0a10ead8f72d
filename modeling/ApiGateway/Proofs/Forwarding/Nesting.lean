import ApiGateway.Proofs.Forwarding.Endings

/-
The calls that the engine nests.

The engine goes to a forward from an execution, or from another forward that waits for it. Whenever
it does, and between any two executions of it, results are kept in order: no name has one that is in
progress, none loses the one that it has, and each with one belongs to a forward whose dependencies
all have theirs. The forwards from which the engine came are in progress, and lie in a line.

* `Chain.Enters` - the engine goes to a name, with these callers, this fuel and this run.
* `Chain.Path` - callers of which each waits for the next, none twice.
* `Chain.Enters.moment` - what the engine goes to, the descent begins at some moment, and what is in
  progress then.
* `Chain.Enters.path` - the callers are such; nothing else is in progress in a first execution.
* `Chain.Cached` - what holds of the results of a run; `Chain.Caches` - of those in an execution.
* `Chain.caches_executions` - it holds of every execution, whatever became of those before.
-/

namespace ApiGateway

variable {ω : Type}

namespace Chain

open Descent

variable {c : Chain} {forward : Forwarder ω} {params : Json} {start r s : Run ω}
  {stack : List ForwardNode} {fuel : Nat} {name : String}

/-! ### Where the engine goes -/

/-- An execution that starts with a run goes to a name: it calls `runNode` for it. The stack holds the
forwards whose calls are not over, the innermost first. -/
inductive Enters (c : Chain) (forward : Forwarder ω) (params : Json) (start : Run ω) :
    List ForwardNode → Nat → String → Run ω → Prop where
  /-- A declared forward has its turn, behind others. -/
  | declared {done later : List ForwardNode} {node : ForwardNode} {r : Run ω} :
    c.nodes = done ++ node :: later → c.runNodes forward params done start = (.ok (), r) →
    r.result? node.name = none →
    Enters c forward params start [] (c.nodes.length + 1) node.name r
  /-- A forward that has begun waits for a name, behind others that it waited for. -/
  | waited {stack : List ForwardNode} {fuel : Nat} {node : ForwardNode} {done later : List String}
    {name dep : String} {r s : Run ω} :
    Enters c forward params start stack (fuel + 1) name r → r.result? name = none →
    c.find? name = some node → node.name ∉ r.inProgress → node.deps = done ++ dep :: later →
    c.runDeps (c.runNode forward params fuel) node done
      { r with inProgress := node.name :: r.inProgress } = (.ok (), s) →
    s.result? dep = none → (c.find? dep).isSome = true →
    Enters c forward params start (node :: stack) fuel dep s

/-- Forwards that lead to a name, the innermost first: each is that of its name, stands once, and
waits for the next. -/
inductive Path (c : Chain) : List ForwardNode → String → Prop where
  | root {name : String} : name ∈ c.names → Path c [] name
  | waits {stack : List ForwardNode} {node : ForwardNode} {dep : String} : Path c stack node.name →
    c.find? node.name = some node → node.name ∉ stack.map (·.name) → dep ∈ node.deps →
    Path c (node :: stack) dep

theorem Path.nodup (path : c.Path stack name) : (stack.map (·.name)).Nodup := by
  induction path with
  | root => exact List.nodup_nil
  | waits _ _ fresh _ ih => exact List.nodup_cons.mpr ⟨fresh, ih⟩

/-- The engine goes to a name at a moment of the descent, and the fuel lasts. -/
structure Moment (c : Chain) (forward : Forwarder ω) (params : Json) (start : Run ω)
    (stack : List ForwardNode) (fuel : Nat) (name : String) (r : Run ω) (begun : List Begun)
    (toCome : List ForwardNode) : Prop where
  comes : c.Comes forward params (going [] c.nodes start) (going begun toCome r)
  stacked : begun.map (·.node) = stack
  next : ∃ below toCome', c.descend forward params (going begun toCome r) =
    c.enter name below toCome' r ∧ below.map (·.node) = stack
  fueled : c.idle r.inProgress < fuel

/-- A forward that begins lies on the stack, with all that it waits for still to be looked at. -/
theorem enter_of_idle {node : ForwardNode} (unfinished : r.result? name = none)
    (found : c.find? name = some node) (idle : node.name ∉ r.inProgress) (below : List Begun)
    (toCome : List ForwardNode) :
    c.enter name below toCome r = going (⟨node, node.deps⟩ :: below) toCome
      { r with inProgress := node.name :: r.inProgress } := by
  rw [enter, if_neg (by simp [unfinished]), found]
  dsimp only
  rw [if_neg (by simpa using idle)]

/-- Waiting for some names leaves the descent where the next is looked at, and leaves in progress
what was so. -/
theorem Moment.waited {node : ForwardNode} {done later : List String} {dep : String}
    {begun : List Begun} {toCome : List ForwardNode}
    (moment : c.Moment forward params start stack (fuel + 1) name r begun toCome)
    (unfinished : r.result? name = none) (found : c.find? name = some node)
    (idle : node.name ∉ r.inProgress) (deps : node.deps = done ++ dep :: later)
    (engine : c.runDeps (c.runNode forward params fuel) node done
      { r with inProgress := node.name :: r.inProgress } = (.ok (), s))
    (waits : s.result? dep = none) (known : (c.find? dep).isSome = true) :
    s.inProgress = node.name :: r.inProgress ∧ ∃ begun' toCome',
      c.Moment forward params start (node :: stack) fuel dep s begun' toCome' := by
  obtain ⟨comes, -, ⟨below, toCome', next, stacked⟩, fueled⟩ := moment
  rw [enter_of_idle unfinished found idle, deps] at next
  have declared : node.name ∈ c.names := List.mem_map_of_mem (mem_nodes_of_find? found).1
  have fewer := idle_cons_lt declared idle
  let begins : Run ω := { r with inProgress := node.name :: r.inProgress }
  have lasts : c.idle begins.inProgress < fuel := by
    dsimp only [begins]
    omega
  obtain ⟨descends, keeps⟩ : c.Descends forward params
      (going (⟨node, done ++ dep :: later⟩ :: below) toCome' begins)
      (⟨node, dep :: later⟩ :: below) toCome' begins.inProgress
      (c.runDeps (c.runNode forward params fuel) node done begins) :=
    descends_runDeps (descends_runNode fuel) node below toCome' done (dep :: later) begins lasts
  rw [engine] at descends keeps
  have inProgress : s.inProgress = node.name :: r.inProgress := keeps rfl
  refine ⟨inProgress, ⟨node, dep :: later⟩ :: below, toCome', ?_, ?_, ?_, ?_⟩
  · exact (comes.tail next).trans descends
  · rw [List.map_cons, stacked]
  · refine ⟨⟨node, later⟩ :: below, toCome', ?_, by rw [List.map_cons, stacked]⟩
    obtain ⟨inner, known⟩ := Option.isSome_iff_exists.mp known
    rw [descend, if_neg (by simp [waits]), if_neg (by simp [known])]
  · rw [inProgress]
    omega

/-- What the engine goes to, the descent begins: with the callers on its stack, and with nothing in
progress but them and what was so at the start. -/
theorem Enters.moment (enters : c.Enters forward params start stack fuel name r) :
    r.inProgress = stack.map (·.name) ++ start.inProgress ∧ ∃ begun toCome,
      c.Moment forward params start stack fuel name r begun toCome := by
  induction enters with
  | @declared done later node r split engine unfinished =>
    obtain ⟨comes, keeps⟩ : c.Descends forward params (going [] (done ++ node :: later) start) []
        (node :: later) start.inProgress (c.runNodes forward params done start) :=
      descends_runNodes done (node :: later) start
    rw [engine, ← split] at comes
    rw [engine] at keeps
    refine ⟨keeps rfl, [], node :: later, comes, rfl, ⟨[], later, ?_, rfl⟩, ?_⟩
    · rw [descend, if_neg (by simp [unfinished])]
    · exact Nat.lt_succ_of_le (idle_le _)
  | waited _ unfinished found idle deps engine waits known ih =>
    obtain ⟨callers, begun, toCome, moment⟩ := ih
    obtain ⟨inProgress, inner⟩ := moment.waited unfinished found idle deps engine waits known
    refine ⟨?_, inner⟩
    rw [inProgress, callers, List.map_cons, List.cons_append]

/-- The callers lead to the name. -/
theorem Enters.path (enters : c.Enters forward params start stack fuel name r) :
    c.Path stack name := by
  induction enters with
  | declared split _ _ =>
    refine .root (List.mem_map_of_mem ?_)
    rw [split]
    simp
  | waited outer _ found idle deps _ _ _ ih =>
    obtain ⟨-, rfl⟩ := mem_nodes_of_find? found
    refine .waits ih found (fun again => idle ?_) (by simp [deps])
    rw [outer.moment.1]
    exact List.mem_append_left _ again

/-! ### Results -/

/-- What holds of the results of a run: a name gets one at most once, one that is in progress has
none, and one that has belongs to a declared forward all of whose dependencies have one. -/
structure Cached (c : Chain) (r : Run ω) : Prop where
  once : (r.results.map (·.1)).Nodup
  apart : ∀ name ∈ r.inProgress, r.result? name = none
  closed : ∀ name result, r.result? name = some result →
    ∃ node, c.find? name = some node ∧ ∀ dep ∈ node.deps, (r.result? dep).isSome = true

theorem Settled.closed {names : List String} (settled : c.Settled names) (hname : name ∈ names) :
    ∃ node, c.find? name = some node ∧ ∀ dep ∈ node.deps, dep ∈ names := by
  induction settled with
  | nil => cases hname
  | @snoc names node _ found waited ih =>
    rcases List.mem_append.mp hname with old | new
    · obtain ⟨node, found, deps⟩ := ih old
      exact ⟨node, found, fun dep hdep => List.mem_append_left _ (deps dep hdep)⟩
    · obtain rfl := List.mem_singleton.mp new
      exact ⟨node, found, fun dep hdep => List.mem_append_left _ (waited dep hdep)⟩

theorem Orderly.cached (orderly : c.Orderly r) : c.Cached r where
  once := orderly.once
  apart := by
    intro name hname
    have unfinished := mt (Run.isSome_result? r name).mp (orderly.apart name hname)
    exact Option.not_isSome_iff_eq_none.mp unfinished
  closed := by
    intro name result found
    have finished : name ∈ r.finished := (Run.isSome_result? r name).mp (by simp [found])
    obtain ⟨node, declared, deps⟩ := orderly.settled.closed finished
    exact ⟨node, declared, fun dep hdep => (Run.isSome_result? r dep).mpr (deps dep hdep)⟩

theorem Sound.orderly {d : Descent ω} (sound : c.Sound d) : c.Orderly d.run := by
  cases d with
  | going stack toCome r => exact sound.1
  | ended outcome r => exact sound

/-- A call adds a result behind all others. -/
theorem results_call (forward : Forwarder ω) (params : Json) (node : ForwardNode) (r : Run ω) :
    r.results <+: (r.call forward params node).2.results := by
  unfold Run.call Run.finish
  cases r.resolve params node <;> exact List.prefix_append _ _

/-- From one moment to another results are added only. -/
theorem results_comes {d d' : Descent ω} (comes : c.Comes forward params d d') :
    d.run.results <+: d'.run.results := by
  refine comes.keeps (P := fun r => d.run.results <+: r.results) (fun _ _ h => h) ?_ List.prefix_rfl
  intro r node kept
  exact kept.trans (results_call forward params node r)

/-- What holds of the results in an execution that starts with a run. -/
structure Caches (c : Chain) (forward : Forwarder ω) (params : Json) (start : Run ω) : Prop where
  /-- Whenever the engine goes to a name it is at a moment with its callers on the stack. -/
  enters : ∀ stack fuel name r, c.Enters forward params start stack fuel name r →
    ∃ begun toCome, begun.map (·.node) = stack ∧
      c.Comes forward params (going [] c.nodes start) (going begun toCome r)
  /-- At some moment the execution returns. -/
  returns : ∃ outcome, c.Comes forward params (going [] c.nodes start)
    (ended outcome (c.execute forward params start).2)
  /-- At every moment the results are in order. -/
  cached : ∀ d, c.Comes forward params (going [] c.nodes start) d → c.Cached d.run
  /-- From any moment on results are added only: none is replaced, none is taken away. -/
  kept : ∀ d d', c.Comes forward params (going [] c.nodes start) d → c.Comes forward params d d' →
    d.run.results <+: d'.run.results

/-- What holds at every moment of an execution holds of one that starts in order. -/
theorem Orderly.caches (orderly : c.Orderly start) : c.Caches forward params start where
  enters := by
    intro stack fuel name r enters
    obtain ⟨-, begun, toCome, moment⟩ := enters.moment
    exact ⟨begun, toCome, moment.stacked, moment.comes⟩
  returns := ⟨_, comes_execute c forward params start⟩
  cached := fun _ comes => (orderly.start.comes comes).orderly.cached
  kept := fun _ _ _ later => results_comes later

/-- **Results are kept.** In every execution of an engine, on any chain and whatever became of those
before, a name in progress has no result, one that has a result keeps it, and what the forward of
such a name waits for has results. In the first one, what is in progress where the engine goes to a
name is just what leads to it. -/
theorem caches_executions (c : Chain) (forward : Forwarder ω) (params : Json) (world : ω) (n : Nat) :
    c.Caches forward params (c.executions forward params world n) ∧
      ∀ stack fuel name r, c.Enters forward params { world := world } stack fuel name r →
        r.inProgress = stack.map (·.name) ∧ r.inProgress.Nodup ∧ c.Path stack name := by
  refine ⟨(orderly_executions world n).caches, ?_⟩
  intro stack fuel name r enters
  obtain ⟨inProgress, -⟩ := enters.moment
  rw [List.append_nil] at inProgress
  have path := enters.path
  exact ⟨inProgress, inProgress ▸ path.nodup, path⟩

end Chain

end ApiGateway
