import ApiGateway.Proofs.Forwarding.StraightRun
import Mathlib.Logic.Relation

/-
An execution as a descent with a stack.

The engine goes down from each forward to those it waits for, by nested calls of a bounded depth.
Here each thing that it does is a step of its own, the forwards that have begun lie on a stack, and
nothing bounds the number of steps. So it can be said that the steps come to an end on every chain,
also one with circles, unknown dependencies and repeated names, and what holds at each moment.

* `Descent` - where an execution stands; `Chain.descend` - its next step.
* `Chain.Comes` - some number of steps leads from one moment to another.
* `Chain.comes_runNodes` - the steps come to what the engine gives, from any run.
* `Chain.Sound` - what holds at every moment (`Chain.Sound.comes`): what lies on the stack has no
  result, and all that it waits for has one, is still waited for, or lies above it.
* `Chain.executions` - a run after a number of executions; `Chain.runsOnce_executions` - each of
  them ends, calls no forward that was called before, and calls none before what it waits for.
-/

namespace ApiGateway

variable {ω : Type}

/-- A forward that has begun, with the names that it has not looked at. -/
structure Begun where
  node : ForwardNode
  waits : List String

inductive Descent (ω : Type) where
  /-- The forwards that have begun, the innermost first, and the declared ones still to come. -/
  | going (stack : List Begun) (toCome : List ForwardNode) (run : Run ω)
  | ended (outcome : Except Stop Unit) (run : Run ω)

namespace Descent

def run : Descent ω → Run ω
  | going _ _ r => r
  | ended _ r => r

/-- The forward whose turn it is: it waits for nothing more. -/
def turn? : Descent ω → Option ForwardNode
  | going (⟨node, []⟩ :: _) _ _ => some node
  | _ => none

/-- Where a nested call leaves the descent: its caller goes on, or all is over. -/
def back (stack : List Begun) (toCome : List ForwardNode) :
    Except Stop Unit × Run ω → Descent ω
  | (.ok (), r) => going stack toCome r
  | (.error s, r) => ended (.error s) r

end Descent

namespace Chain

open Descent

/-- Begins the forward of a name, unless it has a result. -/
def enter (c : Chain) (name : String) (stack : List Begun) (toCome : List ForwardNode)
    (r : Run ω) : Descent ω :=
  if (r.result? name).isSome then going stack toCome r
  else match c.find? name with
    | none => ended (.error (.broken ⟨name, .unresolvedReference name⟩)) r
    | some node =>
      if r.inProgress.contains node.name then
        ended (.error (.broken ⟨node.name, .cyclicDependency⟩)) r
      else going (⟨node, node.deps⟩ :: stack) toCome
        { r with inProgress := node.name :: r.inProgress }

/-- The next step. The innermost forward looks at one name after another and begins those without
a result; when none is left it has its turn and leaves the stack. -/
def descend (c : Chain) (forward : Forwarder ω) (params : Json) : Descent ω → Descent ω
  | .ended outcome r => ended outcome r
  | .going [] [] r => ended (.ok ()) r
  | .going [] (node :: toCome) r =>
    if (r.result? node.name).isSome then going [] toCome r else c.enter node.name [] toCome r
  | .going (⟨node, dep :: deps⟩ :: stack) toCome r =>
    if (r.result? dep).isSome then going (⟨node, deps⟩ :: stack) toCome r
    else if (c.find? dep).isNone then
      ended (.error (.broken ⟨node.name, .unknownDependency dep⟩)) r
    else c.enter dep (⟨node, deps⟩ :: stack) toCome r
  | .going (⟨node, []⟩ :: stack) toCome r =>
    let (result, r) := r.call forward params node
    match node.rejection? result with
    | some e => ended (.error (.rejected e)) r
    | none => going stack toCome r

/-- Some number of steps leads from one moment to another. -/
def Comes (c : Chain) (forward : Forwarder ω) (params : Json) : Descent ω → Descent ω → Prop :=
  Relation.ReflTransGen fun d d' => c.descend forward params d = d'

variable {c : Chain} {forward : Forwarder ω} {params : Json}

theorem Comes.of_step {d d' : Descent ω}
    (rest : c.Comes forward params (c.descend forward params d) d') :
    c.Comes forward params d d' :=
  Relation.ReflTransGen.head rfl rest

/-! ### The steps come to what the engine gives -/

/-- How many declared forwards are not in progress. -/
def idle (c : Chain) (inProgress : List String) : Nat :=
  (c.names.filter fun name => !inProgress.contains name).length

theorem idle_le (inProgress : List String) : c.idle inProgress ≤ c.nodes.length := by
  have le := List.length_filter_le (fun name => !inProgress.contains name) c.names
  rwa [names, List.length_map] at le

/-- A forward that begins is idle no longer. -/
theorem idle_cons_lt {name : String} {inProgress : List String} (declared : name ∈ c.names)
    (first : name ∉ inProgress) : c.idle (name :: inProgress) < c.idle inProgress := by
  have fewer : c.names.filter (fun n => !(name :: inProgress).contains n) =
      (c.names.filter fun n => !inProgress.contains n).filter (· ≠ name) := by
    rw [List.filter_filter]
    refine List.filter_congr fun n _ => ?_
    by_cases same : n = name <;> simp [same]
  unfold idle
  rw [fewer, List.length_filter_lt_length_iff_exists]
  exact ⟨name, List.mem_filter.mpr ⟨declared, by simpa using first⟩, by simp⟩

/-- A nested call does what the descent does from there, and leaves in progress what was so before
if it does not stop. -/
def Descends (c : Chain) (forward : Forwarder ω) (params : Json) (d : Descent ω)
    (stack : List Begun) (toCome : List ForwardNode) (before : List String)
    (engine : Except Stop Unit × Run ω) : Prop :=
  c.Comes forward params d (back stack toCome engine) ∧
    (engine.1 = .ok () → engine.2.inProgress = before)

theorem Descends.stop {d : Descent ω} {stack : List Begun} {toCome : List ForwardNode}
    {before : List String} {s : Stop} {r : Run ω}
    (comes : c.Comes forward params d (ended (.error s) r)) :
    c.Descends forward params d stack toCome before (.error s, r) :=
  ⟨comes, fun ok => by cases ok⟩

/-- Waiting for names one after another, if each nested call descends. -/
theorem descends_runDeps {fuel : Nat} {run : String → Run ω → Except Stop Unit × Run ω}
    (nested : ∀ name stack toCome r, c.idle r.inProgress < fuel →
      c.Descends forward params (c.enter name stack toCome r) stack toCome r.inProgress
        (run name r))
    (node : ForwardNode) (stack : List Begun) (toCome : List ForwardNode)
    (deps later : List String) (r : Run ω) (fueled : c.idle r.inProgress < fuel) :
    c.Descends forward params (going (⟨node, deps ++ later⟩ :: stack) toCome r)
      (⟨node, later⟩ :: stack) toCome r.inProgress (c.runDeps run node deps r) := by
  induction deps generalizing r with
  | nil => exact ⟨.refl, fun _ => rfl⟩
  | cons dep deps ih =>
    rw [runDeps, List.cons_append]
    by_cases done : (r.result? dep).isSome = true
    · rw [if_pos done]
      obtain ⟨comes, keeps⟩ := ih r fueled
      refine ⟨.of_step ?_, keeps⟩
      rwa [descend, if_pos done]
    rw [if_neg done]
    by_cases unknown : (c.find? dep).isNone = true
    · rw [if_pos unknown]
      refine .stop (.of_step ?_)
      rw [descend, if_neg done, if_pos unknown]
      exact .refl
    rw [if_neg unknown]
    obtain ⟨comes, keeps⟩ := nested dep (⟨node, deps ++ later⟩ :: stack) toCome r fueled
    have step : c.descend forward params (going (⟨node, dep :: (deps ++ later)⟩ :: stack) toCome r) =
        c.enter dep (⟨node, deps ++ later⟩ :: stack) toCome r := by
      rw [descend, if_neg done, if_neg unknown]
    cases engine : run dep r with
    | mk outcome s =>
    rw [engine] at comes keeps
    cases outcome with
    | error stop => exact .stop (.of_step (step ▸ comes))
    | ok _ =>
      have same : s.inProgress = r.inProgress := keeps rfl
      obtain ⟨rest, keepsRest⟩ := ih s (same ▸ fueled)
      exact ⟨.of_step (step ▸ comes.trans rest), fun ok => (keepsRest ok).trans same⟩

/-- The depth of nesting never exceeds the number of idle forwards, so the bound is never met. -/
theorem descends_runNode (fuel : Nat) (name : String) (stack : List Begun)
    (toCome : List ForwardNode) (r : Run ω) (fueled : c.idle r.inProgress < fuel) :
    c.Descends forward params (c.enter name stack toCome r) stack toCome r.inProgress
      (c.runNode forward params fuel name r) := by
  induction fuel generalizing name stack toCome r with
  | zero => exact absurd fueled (Nat.not_lt_zero _)
  | succ fuel ih =>
    rw [enter, runNode]
    by_cases done : (r.result? name).isSome = true
    · rw [if_pos done, if_pos done]
      exact ⟨.refl, fun _ => rfl⟩
    rw [if_neg done, if_neg done]
    cases found : c.find? name with
    | none => exact .stop .refl
    | some node =>
    dsimp only
    by_cases circle : r.inProgress.contains node.name = true
    · rw [if_pos circle, if_pos circle]
      exact .stop .refl
    rw [if_neg circle, if_neg circle]
    have first : node.name ∉ r.inProgress := by simpa using circle
    have declared : node.name ∈ c.names := List.mem_map_of_mem (mem_nodes_of_find? found).1
    have fewer := idle_cons_lt declared first
    obtain ⟨comes, keeps⟩ := descends_runDeps ih node stack toCome node.deps []
      { r with inProgress := node.name :: r.inProgress } (by dsimp only; omega)
    rw [List.append_nil] at comes
    cases waited : c.runDeps (c.runNode forward params fuel) node node.deps
        { r with inProgress := node.name :: r.inProgress } with
    | mk outcome s =>
    rw [waited] at comes keeps
    cases outcome with
    | error stop => exact .stop comes
    | ok _ =>
      have inProgress : s.inProgress = node.name :: r.inProgress := keeps rfl
      have restored : (s.call forward params node).2.inProgress = r.inProgress := by
        rw [Run.call_eq, inProgress]
        dsimp only
        rw [List.filter_cons_of_neg (by simp)]
        refine List.filter_eq_self.mpr fun n hn => ?_
        have other : n ≠ node.name := fun same => first (same ▸ hn)
        simpa using other
      refine ⟨comes.trans (Comes.of_step ?_), ?_⟩
      · simp only [back, descend]
        cases node.rejection? (s.call forward params node).1 <;> exact .refl
      · dsimp only
        cases node.rejection? (s.call forward params node).1 with
        | some e => exact fun ok => by cases ok
        | none => exact fun _ => restored

/-- Running declared forwards one after another, whatever is declared behind them. -/
theorem descends_runNodes (nodes later : List ForwardNode) (r : Run ω) :
    c.Descends forward params (going [] (nodes ++ later) r) [] later r.inProgress
      (c.runNodes forward params nodes r) := by
  induction nodes generalizing r with
  | nil => exact ⟨.refl, fun _ => rfl⟩
  | cons node nodes ih =>
    rw [runNodes, List.cons_append]
    by_cases done : (r.result? node.name).isSome = true
    · rw [if_pos done]
      obtain ⟨comes, keeps⟩ := ih r
      refine ⟨.of_step ?_, keeps⟩
      rwa [descend, if_pos done]
    rw [if_neg done]
    have step : c.descend forward params (going [] (node :: (nodes ++ later)) r) =
        c.enter node.name [] (nodes ++ later) r := by
      rw [descend, if_neg done]
    obtain ⟨comes, keeps⟩ : c.Descends forward params (c.enter node.name [] (nodes ++ later) r) []
        (nodes ++ later) r.inProgress
        (c.runNode forward params (c.nodes.length + 1) node.name r) :=
      descends_runNode _ node.name [] (nodes ++ later) r (Nat.lt_succ_of_le (idle_le _))
    cases engine : c.runNode forward params (c.nodes.length + 1) node.name r with
    | mk outcome s =>
    rw [engine] at comes keeps
    cases outcome with
    | error stop => exact .stop (.of_step (step ▸ comes))
    | ok _ =>
      have same : s.inProgress = r.inProgress := keeps rfl
      obtain ⟨rest, keepsRest⟩ := ih s
      exact ⟨.of_step (step ▸ comes.trans rest), fun ok => (keepsRest ok).trans same⟩

/-- The steps come to what the engine gives, from any run and on any chain. -/
theorem comes_runNodes (nodes : List ForwardNode) (r : Run ω) :
    c.Comes forward params (going [] nodes r)
      (ended (c.runNodes forward params nodes r).1 (c.runNodes forward params nodes r).2) := by
  obtain ⟨comes, -⟩ : c.Descends forward params (going [] (nodes ++ []) r) [] [] r.inProgress
      (c.runNodes forward params nodes r) := descends_runNodes nodes [] r
  rw [List.append_nil] at comes
  cases engine : c.runNodes forward params nodes r with
  | mk outcome s =>
  rw [engine] at comes
  cases outcome with
  | error stop => exact comes
  | ok _ => exact comes.tail rfl

end Chain

/-! ### What holds at each moment -/

/-- A forward that has its turn gets a result, and is called with its fields or not at all. -/
theorem Run.call_cases (forward : Forwarder ω) (params : Json) (node : ForwardNode) (r : Run ω) :
    ∃ s, (r.call forward params node).2 = s ∧ s.finished = r.finished ++ [node.name] ∧
      s.inProgress = r.inProgress.filter (· ≠ node.name) ∧
      ((s.calls = r.calls ∧ s.world = r.world) ∨ ∃ fields,
        s.calls = r.calls ++ [⟨node.name, fields⟩] ∧
          s.world = (forward node fields r.world).2) := by
  refine ⟨_, rfl, ?_⟩
  unfold call finish finished
  cases r.resolve params node with
  | error e => exact ⟨by simp, rfl, .inl ⟨rfl, rfl⟩⟩
  | ok fields => exact ⟨by simp, rfl, .inr ⟨fields, rfl, rfl⟩⟩

/-- Names of forwards, each behind all that its forward waits for. -/
inductive Chain.Settled (c : Chain) : List String → Prop where
  | nil : Settled c []
  | snoc {names : List String} {node : ForwardNode} : Settled c names →
      c.find? node.name = some node → (∀ dep ∈ node.deps, dep ∈ names) →
      Settled c (names ++ [node.name])

/-- What holds of a run of a chain, also between two executions. -/
structure Chain.Orderly (c : Chain) (r : Run ω) : Prop where
  once : r.finished.Nodup
  settled : c.Settled r.finished
  apart : ∀ name ∈ r.inProgress, name ∉ r.finished
  called : (r.calls.map (·.node)).Sublist r.finished

/-- A forward in progress that waits for nothing more may have its turn. -/
theorem Chain.Orderly.call {c : Chain} {r : Run ω} (orderly : c.Orderly r) (forward : Forwarder ω)
    (params : Json) {node : ForwardNode} (found : c.find? node.name = some node)
    (begun : node.name ∈ r.inProgress) (waited : ∀ dep ∈ node.deps, dep ∈ r.finished) :
    c.Orderly (r.call forward params node).2 := by
  obtain ⟨s, same, finished, inProgress, calls⟩ := Run.call_cases forward params node r
  rw [same]
  have fresh := orderly.apart node.name begun
  refine ⟨?_, ?_, ?_, ?_⟩
  · rw [finished]
    refine List.nodup_append.mpr ⟨orderly.once, List.nodup_singleton _, ?_⟩
    rintro name hname other hother rfl
    obtain rfl : name = node.name := by simpa using hother
    exact fresh hname
  · rw [finished]
    exact orderly.settled.snoc found waited
  · intro name hname
    rw [inProgress] at hname
    obtain ⟨still, other⟩ := List.mem_filter.mp hname
    rw [finished, List.mem_append, List.mem_singleton, not_or]
    exact ⟨orderly.apart name still, by simpa using other⟩
  · rw [finished]
    obtain ⟨none, -⟩ | ⟨fields, one, -⟩ := calls
    · rw [none]
      exact orderly.called.trans (List.sublist_append_left _ _)
    · rw [one, List.map_append]
      exact orderly.called.append (.refl _)

/-- Each name that a forward on the stack waits for is one that it has not looked at, has a result,
or is the name of what lies above. -/
def Waited (finished : List String) : List String → List Begun → Prop
  | _, [] => True
  | above, b :: stack =>
    (∀ dep ∈ b.node.deps, dep ∈ b.waits ∨ dep ∈ finished ∨ dep ∈ above) ∧
      Waited finished [b.node.name] stack

/-- What lies above has a result, and more results came. -/
theorem Waited.settle {finished finished' above : List String} {stack : List Begun}
    (waited : Waited finished above stack) (grows : ∀ name ∈ finished, name ∈ finished')
    (settled : ∀ name ∈ above, name ∈ finished') : Waited finished' [] stack := by
  suffices ∀ above above' : List String, Waited finished above stack →
      (∀ name ∈ above, name ∈ finished' ∨ name ∈ above') → Waited finished' above' stack from
    this above [] waited fun name hname => .inl (settled name hname)
  clear waited settled
  induction stack with
  | nil => exact fun _ _ _ _ => trivial
  | cons b stack ih =>
    rintro above above' ⟨first, rest⟩ moved
    refine ⟨fun dep hdep => ?_, ih [b.node.name] [b.node.name] rest fun _ hname => .inr hname⟩
    obtain waits | done | inner := first dep hdep
    · exact .inl waits
    · exact .inr (.inl (grows dep done))
    · exact .inr (moved dep inner)

/-- What lies on the stack is in progress, each once, and waits as it should. -/
structure Stacked (c : Chain) (above : List String) (stack : List Begun) (r : Run ω) : Prop where
  distinct : (stack.map (·.node.name)).Nodup
  found : ∀ b ∈ stack, c.find? b.node.name = some b.node
  begun : ∀ b ∈ stack, b.node.name ∈ r.inProgress
  waited : Waited r.finished above stack

theorem Stacked.nil (c : Chain) (above : List String) (r : Run ω) : Stacked c above [] r :=
  ⟨List.nodup_nil, fun _ h => absurd h List.not_mem_nil, fun _ h => absurd h List.not_mem_nil,
    trivial⟩

/-- What the innermost forward looks at is taken from what it has not looked at. -/
theorem Stacked.look {c : Chain} {node : ForwardNode} {dep : String} {deps : List String}
    {stack : List Begun} {r : Run ω} (stacked : Stacked c [] (⟨node, dep :: deps⟩ :: stack) r)
    {above : List String} (moved : dep ∈ r.finished ∨ dep ∈ above) :
    Stacked c above (⟨node, deps⟩ :: stack) r := by
  obtain ⟨distinct, found, begun, looks, waited⟩ := stacked
  rw [List.forall_mem_cons] at found begun
  refine ⟨distinct, List.forall_mem_cons.mpr found, List.forall_mem_cons.mpr begun,
    fun d hd => ?_, waited⟩
  obtain waits | done | inner := looks d hd
  · rcases List.mem_cons.mp waits with rfl | later
    · exact .inr moved
    · exact .inl later
  · exact .inr (.inl done)
  · cases inner

/-- Nothing is left that the innermost forward has not looked at. -/
theorem Stacked.waited_of_nil {c : Chain} {node : ForwardNode} {stack : List Begun} {r : Run ω}
    (stacked : Stacked c [] (⟨node, []⟩ :: stack) r) : ∀ dep ∈ node.deps, dep ∈ r.finished := by
  intro dep hdep
  obtain waits | done | inner := stacked.waited.1 dep hdep
  · cases waits
  · exact done
  · cases inner

namespace Chain

open Descent

variable {c : Chain} {forward : Forwarder ω} {params : Json}

/-- What holds at each moment of an execution. -/
def Sound (c : Chain) : Descent ω → Prop
  | .going stack _ r => c.Orderly r ∧ Stacked c [] stack r
  | .ended _ r => c.Orderly r

/-- A forward that has its turn waits for nothing without a result. -/
theorem Sound.ready {d : Descent ω} (sound : c.Sound d) {node : ForwardNode}
    (turn : d.turn? = some node) : ∀ dep ∈ node.deps, (d.run.result? dep).isSome = true := by
  unfold turn? at turn
  split at turn
  next node' stack toCome r =>
    cases turn
    exact fun dep hdep => (Run.isSome_result? r dep).mpr (sound.2.waited_of_nil dep hdep)
  next => cases turn

theorem Sound.enter {name : String} {stack : List Begun} {r : Run ω} (toCome : List ForwardNode)
    (orderly : c.Orderly r) (stacked : Stacked c [name] stack r) :
    c.Sound (c.enter name stack toCome r) := by
  unfold Chain.enter
  split
  next done =>
    have settled : name ∈ r.finished := (Run.isSome_result? r name).mp done
    exact ⟨orderly, stacked.distinct, stacked.found, stacked.begun,
      stacked.waited.settle (fun _ h => h) (by simpa using settled)⟩
  next unfinished =>
  split
  next => exact orderly
  next node found =>
  split
  next => exact orderly
  next idle =>
  obtain ⟨-, rfl⟩ := mem_nodes_of_find? found
  have fresh : node.name ∉ r.inProgress := by simpa using idle
  have noResult : node.name ∉ r.finished := fun h =>
    unfinished ((Run.isSome_result? r node.name).mpr h)
  refine ⟨⟨orderly.once, orderly.settled, ?_, orderly.called⟩, ?_, ?_, ?_, ?_⟩
  · exact List.forall_mem_cons.mpr ⟨noResult, orderly.apart⟩
  · rw [List.map_cons, List.nodup_cons]
    refine ⟨fun again => ?_, stacked.distinct⟩
    obtain ⟨b, hb, same⟩ := List.mem_map.mp again
    exact fresh (same ▸ stacked.begun b hb)
  · exact List.forall_mem_cons.mpr ⟨found, stacked.found⟩
  · refine List.forall_mem_cons.mpr ⟨List.mem_cons_self, fun b hb => ?_⟩
    exact List.mem_cons_of_mem _ (stacked.begun b hb)
  · exact ⟨fun dep hdep => .inl hdep, stacked.waited⟩

theorem Sound.descend {d : Descent ω} (sound : c.Sound d) :
    c.Sound (c.descend forward params d) := by
  match d with
  | .ended outcome r => exact sound
  | .going [] [] r => exact sound.1
  | .going [] (node :: toCome) r =>
    rw [Chain.descend]
    split
    · exact sound
    · exact .enter toCome sound.1 (.nil c [node.name] r)
  | .going (⟨node, dep :: deps⟩ :: stack) toCome r =>
    obtain ⟨orderly, stacked⟩ := sound
    rw [Chain.descend]
    split
    next done => exact ⟨orderly, stacked.look (.inl ((Run.isSome_result? r dep).mp done))⟩
    next =>
      split
      next => exact orderly
      next => exact .enter toCome orderly (stacked.look (.inr List.mem_cons_self))
  | .going (⟨node, []⟩ :: stack) toCome r =>
    obtain ⟨orderly, stacked⟩ := sound
    have waited := stacked.waited_of_nil
    obtain ⟨distinct, found, begun, -, below⟩ := stacked
    rw [List.forall_mem_cons] at found begun
    have after : c.Orderly (r.call forward params node).2 :=
      orderly.call forward params found.1 begun.1 waited
    rw [Chain.descend]
    dsimp only
    split
    next => exact after
    next =>
      obtain ⟨s, same, finished, inProgress, -⟩ := Run.call_cases forward params node r
      have unique := List.nodup_cons.mp distinct
      refine ⟨after, unique.2, found.2, fun b hb => ?_, ?_⟩
      · rw [same, inProgress, List.mem_filter]
        have other : b.node.name ≠ node.name := fun clash =>
          unique.1 (List.mem_map.mpr ⟨b, hb, clash⟩)
        exact ⟨begun.2 b hb, by simpa using other⟩
      · rw [same, finished]
        exact below.settle (fun _ h => List.mem_append_left _ h) (by simp)

theorem Sound.comes {d d' : Descent ω} (sound : c.Sound d) (comes : c.Comes forward params d d') :
    c.Sound d' := by
  induction comes with
  | refl => exact sound
  | tail _ step ih => exact step ▸ ih.descend

/-! ### Executions -/

/-- Beginning a forward changes nothing but what is in progress. -/
theorem run_enter (c : Chain) (name : String) (stack : List Begun) (toCome : List ForwardNode)
    (r : Run ω) : ∃ p, (c.enter name stack toCome r).run = { r with inProgress := p } := by
  unfold enter
  split
  · exact ⟨_, rfl⟩
  · split
    · exact ⟨_, rfl⟩
    · split <;> exact ⟨_, rfl⟩

/-- A step changes nothing but what is in progress, or is the call of the forward that has its
turn. -/
theorem run_descend (c : Chain) (forward : Forwarder ω) (params : Json) (d : Descent ω) :
    (∃ p, (c.descend forward params d).run = { d.run with inProgress := p }) ∨
    ∃ node, d.turn? = some node ∧
      (c.descend forward params d).run = (d.run.call forward params node).2 := by
  match d with
  | .ended outcome r => exact .inl ⟨_, rfl⟩
  | .going [] [] r => exact .inl ⟨_, rfl⟩
  | .going [] (node :: toCome) r =>
    rw [descend]
    split
    · exact .inl ⟨_, rfl⟩
    · exact .inl (run_enter c node.name [] toCome r)
  | .going (⟨node, dep :: deps⟩ :: stack) toCome r =>
    rw [descend]
    split
    · exact .inl ⟨_, rfl⟩
    · split
      · exact .inl ⟨_, rfl⟩
      · exact .inl (run_enter c dep (⟨node, deps⟩ :: stack) toCome r)
  | .going (⟨node, []⟩ :: stack) toCome r =>
    refine .inr ⟨node, rfl, ?_⟩
    rw [descend]
    dsimp only
    split <;> rfl

/-- What each call keeps is kept all along, if it does not look at what is in progress. -/
theorem Comes.keeps {P : Run ω → Prop} {d d' : Descent ω} (comes : c.Comes forward params d d')
    (progress : ∀ r p, P r → P { r with inProgress := p })
    (call : ∀ r node, P r → P (r.call forward params node).2) (start : P d.run) : P d'.run := by
  induction comes with
  | refl => exact start
  | @tail d' _ _ step ih =>
    subst step
    rcases run_descend c forward params d' with ⟨p, same⟩ | ⟨node, -, same⟩
    · rw [same]
      exact progress _ p ih
    · rw [same]
      exact call _ node ih

/-- A forward that has its turn is declared. -/
theorem Sound.mem_nodes {d : Descent ω} (sound : c.Sound d) {node : ForwardNode}
    (turn : d.turn? = some node) : node ∈ c.nodes := by
  unfold turn? at turn
  split at turn
  next node' stack toCome r =>
    cases turn
    exact (mem_nodes_of_find? (sound.2.found _ List.mem_cons_self)).1
  next => cases turn

/-- What the calls of declared forwards keep is kept all along where no others have a turn. -/
theorem Sound.keeps {P : Run ω → Prop} {d d' : Descent ω} (sound : c.Sound d)
    (comes : c.Comes forward params d d')
    (progress : ∀ r p, P r → P { r with inProgress := p })
    (call : ∀ r, ∀ node ∈ c.nodes, P r → P (r.call forward params node).2) (start : P d.run) :
    P d'.run := by
  induction comes with
  | refl => exact start
  | @tail d' _ before step ih =>
    subst step
    rcases run_descend c forward params d' with ⟨p, same⟩ | ⟨node, turn, same⟩
    · rw [same]
      exact progress _ p ih
    · rw [same]
      exact call _ node ((sound.comes before).mem_nodes turn) ih

/-- A step calls no forward, or the one that has its turn. -/
theorem calls_descend (c : Chain) (forward : Forwarder ω) (params : Json) (d : Descent ω) :
    ((c.descend forward params d).run.calls = d.run.calls ∧
      (c.descend forward params d).run.world = d.run.world) ∨
    ∃ node fields, d.turn? = some node ∧
      (c.descend forward params d).run.calls = d.run.calls ++ [⟨node.name, fields⟩] ∧
      (c.descend forward params d).run.world = (forward node fields d.run.world).2 := by
  rcases run_descend c forward params d with ⟨p, same⟩ | ⟨node, turn, same⟩
  · rw [same]
    exact .inl ⟨rfl, rfl⟩
  · rw [same]
    obtain ⟨s, called, -, -, none | ⟨fields, one⟩⟩ := Run.call_cases forward params node d.run
    · exact .inl (by rwa [called])
    · exact .inr ⟨node, fields, turn, by rwa [called]⟩

theorem calls_comes {d d' : Descent ω} (comes : c.Comes forward params d d') :
    d.run.calls <+: d'.run.calls := by
  refine comes.keeps (P := fun r => d.run.calls <+: r.calls) (fun _ _ h => h) ?_ List.prefix_rfl
  intro r node h
  obtain ⟨s, same, -, -, ⟨none, -⟩ | ⟨fields, one, -⟩⟩ := Run.call_cases forward params node r
  · rwa [same, none]
  · rw [same, one]
    exact h.trans (List.prefix_append _ _)

/-- What holds of an execution that goes on from a run. -/
structure RunsOnce (c : Chain) (forward : Forwarder ω) (params : Json) (r : Run ω) : Prop where
  /-- After some number of steps it is over, with the run and the result that it gives. -/
  ends : ∃ outcome, c.Comes forward params (going [] c.nodes r)
      (ended outcome (c.execute forward params r).2) ∧
    (c.execute forward params r).1 = c.resultOf (c.execute forward params r).2 outcome
  /-- All calls that were made before it are kept. -/
  keeps : r.calls <+: (c.execute forward params r).2.calls
  /-- No name was called twice, in it or before it. -/
  once : ((c.execute forward params r).2.calls.map (·.node)).Nodup
  /-- Results came in an order in which each is behind those of all that its forward waits for. -/
  settled : c.Settled (c.execute forward params r).2.finished
  /-- Each of its steps calls nothing, or a forward of which all that it waits for has a result. -/
  ready : ∀ d, c.Comes forward params (going [] c.nodes r) d →
    ((c.descend forward params d).run.calls = d.run.calls ∧
      (c.descend forward params d).run.world = d.run.world) ∨
    ∃ node fields,
      (c.descend forward params d).run.calls = d.run.calls ++ [⟨node.name, fields⟩] ∧
      (c.descend forward params d).run.world = (forward node fields d.run.world).2 ∧
      ∀ dep ∈ node.deps, (d.run.result? dep).isSome = true

theorem comes_execute (c : Chain) (forward : Forwarder ω) (params : Json) (r : Run ω) :
    c.Comes forward params (going [] c.nodes r)
      (ended (c.runNodes forward params c.nodes r).1 (c.execute forward params r).2) := by
  rw [execute_eq]
  exact comes_runNodes c.nodes r

theorem Orderly.start {r : Run ω} (orderly : c.Orderly r) : c.Sound (going [] c.nodes r) :=
  ⟨orderly, .nil c [] r⟩

theorem Orderly.execute {r : Run ω} (orderly : c.Orderly r) :
    c.Orderly (c.execute forward params r).2 :=
  orderly.start.comes (comes_execute c forward params r)

/-- The run after a number of executions. -/
def executions (c : Chain) (forward : Forwarder ω) (params : Json) (world : ω) : Nat → Run ω
  | 0 => { world := world }
  | n + 1 => (c.execute forward params (c.executions forward params world n)).2

theorem orderly_new (c : Chain) (world : ω) : c.Orderly ({ world := world } : Run ω) :=
  ⟨List.nodup_nil, .nil, fun _ h => absurd h List.not_mem_nil, .refl _⟩

theorem orderly_executions (world : ω) (n : Nat) :
    c.Orderly (c.executions forward params world n) := by
  induction n with
  | zero => exact orderly_new c world
  | succ n ih => exact ih.execute

/-- What the calls of declared forwards keep, any number of executions keeps. -/
theorem keeps_executions {P : Run ω → Prop}
    (progress : ∀ r p, P r → P { r with inProgress := p })
    (call : ∀ r, ∀ node ∈ c.nodes, P r → P (r.call forward params node).2) {world : ω}
    (start : P { world := world }) (n : Nat) : P (c.executions forward params world n) := by
  induction n with
  | zero => exact start
  | succ n ih =>
    have orderly : c.Orderly (c.executions forward params world n) := orderly_executions world n
    exact orderly.start.keeps (comes_execute c forward params _) progress call ih

/-- **Every execution ends, and a forward is called once at most and after what it waits for.** This
holds of any chain and of any number of executions of one engine, whatever became of those
before. -/
theorem runsOnce_executions (c : Chain) (forward : Forwarder ω) (params : Json) (world : ω)
    (n : Nat) : c.RunsOnce forward params (c.executions forward params world n) := by
  have orderly : c.Orderly (c.executions forward params world n) := orderly_executions world n
  generalize c.executions forward params world n = r at orderly
  have comes := comes_execute c forward params r
  have after : c.Orderly (c.execute forward params r).2 := orderly.execute
  refine ⟨⟨_, comes, ?_⟩, calls_comes comes, after.once.sublist after.called, after.settled,
    fun d hd => ?_⟩
  · rw [execute_eq]
  · obtain none | ⟨node, fields, turn, one, world⟩ := calls_descend c forward params d
    · exact .inl none
    · exact .inr ⟨node, fields, one, world, (orderly.start.comes hd).ready turn⟩

end Chain

end ApiGateway
