import ApiGateway.Forwarding.Chain
import ApiGateway.Proofs.Attempts
import ApiGateway.Proofs.Graph.Order
import Mathlib.Data.List.Nodup
import Mathlib.Data.List.Perm.Basic

/-
The depth-first order of a chain.

* `Chain.Ranked` - a rank under which every forward stands above all that it waits for. A chain that
  compiles has one (`Chain.exists_ranked_of_compile`).
* `Chain.Visits` - which forwards a depth-first walk visits, in the order in which it leaves them.
* `Chain.PostOrder` - the walk over all forwards in the order of declaration. A ranked chain of
  distinct names has exactly one (`Chain.exists_postOrder`, `Chain.PostOrder.unique`), and it visits
  each forward once (`Chain.PostOrder.perm`).
-/

namespace ApiGateway

namespace ForwardNode

/-- What compiling a forward reads, and what it keeps. -/
theorem exists_of_compile {f : Forward} {node : ForwardNode}
    (h : ForwardNode.compile f = .ok node) : ∃ target destination mapping condition,
      f.target? = some target ∧ destination? f.name target = .ok destination ∧
      readMapping f.name f.mapping = .ok mapping ∧
      f.test.mapM Condition.ofTest = .ok condition ∧
      node = { name := f.name, service := f.service, destination, deps := f.deps, mapping, condition
               onFail := f.onFail } := by
  unfold ForwardNode.compile at h
  dsimp only at h
  split at h
  next target named =>
    obtain ⟨destination, sent, h⟩ := bind_eq_ok_iff.mp h
    obtain ⟨mapping, read, h⟩ := bind_eq_ok_iff.mp h
    refine ⟨target, destination, mapping, ?_⟩
    split at h
    next untested =>
      obtain ⟨condition, none, h⟩ := bind_eq_ok_iff.mp h
      cases none
      cases h
      exact ⟨none, named, sent, read, by rw [untested]; rfl, rfl⟩
    next test written =>
      obtain ⟨condition, parsed, h⟩ := bind_eq_ok_iff.mp h
      cases h
      refine ⟨condition, named, sent, read, ?_, rfl⟩
      rw [written]
      exact mapError_eq_ok_iff.mp parsed
  next => cases h

/-- Compiling a forward keeps its name and what it waits for. -/
theorem compile_keeps {f : Forward} {node : ForwardNode} (h : ForwardNode.compile f = .ok node) :
    node.name = f.name ∧ node.deps = f.deps := by
  obtain ⟨_, _, _, _, -, -, -, -, rfl⟩ := exists_of_compile h
  exact ⟨rfl, rfl⟩

end ForwardNode

namespace Chain

/-- The declared names. -/
def names (c : Chain) : List String := c.nodes.map (·.name)

variable {c : Chain} {fs : List Forward} {rank : String → Nat}

/-! ### Chains that compile -/

/-- A chain that compiles has a graph, and one forward for each that was declared. -/
theorem compile_eq_ok_iff : Chain.compile fs = .ok c ↔
    (∃ g, ForwardGraph.build fs = .ok g) ∧
      List.Forall₂ (fun f node => ForwardNode.compile f = .ok node) fs c.nodes := by
  unfold Chain.compile
  constructor
  · intro h
    obtain ⟨g, built, h⟩ := bind_eq_ok_iff.mp h
    obtain ⟨nodes, compiled, h⟩ := bind_eq_ok_iff.mp h
    cases h
    exact ⟨⟨g, mapError_eq_ok_iff.mp built⟩, mapM_eq_ok_iff.mp compiled⟩
  · rintro ⟨⟨g, built⟩, compiled⟩
    refine bind_eq_ok_iff.mpr ⟨g, mapError_eq_ok_iff.mpr built, ?_⟩
    exact bind_eq_ok_iff.mpr ⟨c.nodes, mapM_eq_ok_iff.mpr compiled, rfl⟩

theorem names_of_compile (h : Chain.compile fs = .ok c) : c.names = fs.map (·.name) := by
  obtain ⟨-, compiled⟩ := compile_eq_ok_iff.mp h
  unfold names
  generalize c.nodes = nodes at compiled
  clear h
  induction compiled with
  | nil => rfl
  | cons hnode _ ih => rw [List.map_cons, List.map_cons, (ForwardNode.compile_keeps hnode).1, ih]

/-- Every forward of a compiled chain was declared with its name and dependencies. -/
theorem exists_forward_of_compile (h : Chain.compile fs = .ok c) {node : ForwardNode}
    (hnode : node ∈ c.nodes) : ∃ f ∈ fs, node.name = f.name ∧ node.deps = f.deps := by
  obtain ⟨-, compiled⟩ := compile_eq_ok_iff.mp h
  generalize c.nodes = nodes at compiled hnode
  clear h
  induction compiled with
  | nil => exact absurd hnode List.not_mem_nil
  | cons first _ ih =>
    rcases List.mem_cons.mp hnode with rfl | later
    · exact ⟨_, List.mem_cons_self, ForwardNode.compile_keeps first⟩
    · obtain ⟨f, hf, keeps⟩ := ih later
      exact ⟨f, List.mem_cons_of_mem _ hf, keeps⟩

/-- A rank under which every forward stands above all that it waits for. -/
structure Ranked (c : Chain) (rank : String → Nat) : Prop where
  known : ∀ node ∈ c.nodes, ∀ d ∈ node.deps, d ∈ c.names
  below : ∀ node ∈ c.nodes, ∀ d ∈ node.deps, rank d < rank node.name
  bounded : ∀ name ∈ c.names, rank name < c.nodes.length

theorem exists_ranked_of_compile (h : Chain.compile fs = .ok c) : ∃ rank, c.Ranked rank := by
  obtain ⟨⟨g, built⟩, compiled⟩ := compile_eq_ok_iff.mp h
  have names := names_of_compile h
  refine ⟨g.order.idxOf, ?_, ?_, ?_⟩
  · intro node hnode d hd
    obtain ⟨f, hf, -, deps⟩ := exists_forward_of_compile h hnode
    rw [names]
    exact ForwardGraph.mem_names_of_build built hf (deps ▸ hd)
  · intro node hnode d hd
    obtain ⟨f, hf, name, deps⟩ := exists_forward_of_compile h hnode
    rw [name]
    exact ForwardGraph.idxOf_lt_of_build built hf (deps ▸ hd)
  · intro name hname
    rw [← compiled.length_eq]
    refine Nat.lt_of_lt_of_le (List.idxOf_lt_length_of_mem ?_)
      (ForwardGraph.length_order_of_build built)
    exact ForwardGraph.mem_order_of_build built (names ▸ hname)

/-! ### Depth-first walks -/

/-- `Visits c seen names new`: a walk that has left the forwards `seen` and goes on to `names` one
after another leaves the forwards `new`, in this order. A forward is left after all that it waits
for; one that was left before is passed over. -/
inductive Visits (c : Chain) : List ForwardNode → List String → List ForwardNode → Prop where
  | nil {seen : List ForwardNode} : Visits c seen [] []
  | skip {seen new : List ForwardNode} {name : String} {names : List String} :
      name ∈ seen.map (·.name) → Visits c seen names new → Visits c seen (name :: names) new
  | visit {seen below new : List ForwardNode} {node : ForwardNode} {names : List String} :
      node ∈ c.nodes → node.name ∉ seen.map (·.name) → Visits c seen node.deps below →
      Visits c (seen ++ below ++ [node]) names new →
      Visits c seen (node.name :: names) (below ++ node :: new)

/-- The walk over all forwards in the order of declaration. -/
def PostOrder (c : Chain) (order : List ForwardNode) : Prop := c.Visits [] c.names order

theorem exists_visits (ranked : c.Ranked rank) (bound : Nat) (seen : List ForwardNode)
    (names : List String) (known : ∀ n ∈ names, n ∈ c.names) (below : ∀ n ∈ names, rank n < bound) :
    ∃ new, c.Visits seen names new := by
  -- On the bound, for what a forward waits for; inside, on the names.
  induction bound generalizing seen names with
  | zero =>
    cases names with
    | nil => exact ⟨[], .nil⟩
    | cons name names => exact absurd (below name List.mem_cons_self) (Nat.not_lt_zero _)
  | succ bound deeper =>
    induction names generalizing seen with
    | nil => exact ⟨[], .nil⟩
    | cons name names ih =>
      have ih := fun seen => ih seen (fun n hn => known n (List.mem_cons_of_mem _ hn))
        (fun n hn => below n (List.mem_cons_of_mem _ hn))
      by_cases old : name ∈ seen.map (·.name)
      · obtain ⟨new, rest⟩ := ih seen
        exact ⟨new, .skip old rest⟩
      · obtain ⟨node, hnode, rfl⟩ := List.mem_map.mp (known name List.mem_cons_self)
        have lower : ∀ d ∈ node.deps, rank d < bound := by
          intro d hd
          have down := ranked.below node hnode d hd
          have top := below node.name List.mem_cons_self
          omega
        obtain ⟨under, first⟩ := deeper seen node.deps (ranked.known node hnode) lower
        obtain ⟨new, rest⟩ := ih (seen ++ under ++ [node])
        exact ⟨under ++ node :: new, .visit hnode old first rest⟩

theorem exists_postOrder (ranked : c.Ranked rank) : ∃ order, c.PostOrder order :=
  exists_visits ranked c.nodes.length [] c.names (fun _ h => h) ranked.bounded

/-- Forwards of distinct names are told apart by their names. -/
theorem eq_of_name_eq (distinct : c.names.Nodup) {n m : ForwardNode} (hn : n ∈ c.nodes)
    (hm : m ∈ c.nodes) (same : n.name = m.name) : n = m :=
  List.inj_on_of_nodup_map distinct hn hm same

theorem Visits.unique (distinct : c.names.Nodup) {seen new other : List ForwardNode}
    {names : List String} (h : c.Visits seen names new) (h' : c.Visits seen names other) :
    new = other := by
  induction h generalizing other with
  | nil =>
    cases h'
    rfl
  | skip old _ ih =>
    cases h' with
    | skip _ rest => exact ih rest
    | visit _ fresh _ _ => exact absurd old fresh
  | visit hnode fresh _ _ first rest =>
    generalize hname : ForwardNode.name _ = name at h'
    cases h' with
    | skip old _ => exact absurd (hname ▸ old) fresh
    | visit hother _ below' rest' =>
      obtain rfl := eq_of_name_eq distinct hnode hother hname
      obtain rfl := first below'
      rw [rest rest']

theorem PostOrder.unique (distinct : c.names.Nodup) {order other : List ForwardNode}
    (h : c.PostOrder order) (h' : c.PostOrder other) : order = other :=
  Visits.unique distinct h h'

/-! ### A walk visits each forward once -/

theorem Visits.mem {seen new : List ForwardNode} {names : List String} (h : c.Visits seen names new) :
    ∀ m ∈ new, m ∈ c.nodes := by
  induction h with
  | nil => simp
  | skip _ _ ih => exact ih
  | visit hnode _ _ _ first rest =>
    intro m hm
    rcases List.mem_append.mp hm with hm | hm
    · exact first m hm
    · rcases List.mem_cons.mp hm with rfl | hm
      · exact hnode
      · exact rest m hm

theorem Visits.covers {seen new : List ForwardNode} {names : List String}
    (h : c.Visits seen names new) : ∀ n ∈ names, n ∈ (seen ++ new).map (·.name) := by
  induction h with
  | nil => simp
  | skip old _ ih =>
    intro n hn
    rcases List.mem_cons.mp hn with rfl | hn
    · rw [List.map_append]
      exact List.mem_append_left _ old
    · exact ih n hn
  | visit hnode _ _ _ _ rest =>
    intro n hn
    rcases List.mem_cons.mp hn with rfl | hn
    · simp
    · simpa using rest n hn

/-- What a walk visits stands no higher than what it goes to. -/
theorem Visits.rank_le (ranked : c.Ranked rank) {seen new : List ForwardNode} {names : List String}
    (h : c.Visits seen names new) : ∀ m ∈ new, ∃ n ∈ names, rank m.name ≤ rank n := by
  induction h with
  | nil => simp
  | skip _ _ ih =>
    intro m hm
    obtain ⟨n, hn, le⟩ := ih m hm
    exact ⟨n, List.mem_cons_of_mem _ hn, le⟩
  | visit hnode _ _ _ first rest =>
    intro m hm
    rcases List.mem_append.mp hm with hm | hm
    · obtain ⟨d, hd, le⟩ := first m hm
      exact ⟨_, List.mem_cons_self, Nat.le_trans le (Nat.le_of_lt (ranked.below _ hnode d hd))⟩
    · rcases List.mem_cons.mp hm with rfl | hm
      · exact ⟨_, List.mem_cons_self, Nat.le_refl _⟩
      · obtain ⟨n, hn, le⟩ := rest m hm
        exact ⟨n, List.mem_cons_of_mem _ hn, le⟩

/-- What a forward waits for is visited without the forward itself. -/
theorem Visits.unseen (ranked : c.Ranked rank) {seen below : List ForwardNode} {node : ForwardNode}
    (walk : c.Visits seen node.deps below) (hnode : node ∈ c.nodes)
    (fresh : node.name ∉ seen.map (·.name)) : node.name ∉ (seen ++ below).map (·.name) := by
  rw [List.map_append, List.mem_append]
  rintro (old | lower)
  · exact fresh old
  · obtain ⟨m, hm, same⟩ := List.mem_map.mp lower
    obtain ⟨d, hd, le⟩ := walk.rank_le ranked m hm
    have down := ranked.below node hnode d hd
    rw [same] at le
    omega

theorem Visits.nodup (ranked : c.Ranked rank) {seen new : List ForwardNode} {names : List String}
    (h : c.Visits seen names new) (before : (seen.map (·.name)).Nodup) :
    ((seen ++ new).map (·.name)).Nodup := by
  induction h with
  | nil => simpa using before
  | skip _ _ ih => exact ih before
  | @visit seen below new node names hnode fresh walk _ first rest =>
    have unseen := walk.unseen ranked hnode fresh
    have grown : ((seen ++ below ++ [node]).map (·.name)).Nodup := by
      rw [List.map_append, List.nodup_append]
      refine ⟨first before, List.nodup_singleton _, ?_⟩
      rintro x hx y hy rfl
      obtain rfl : x = node.name := by simpa using hy
      exact unseen hx
    simpa using rest grown

theorem PostOrder.perm (ranked : c.Ranked rank) (distinct : c.names.Nodup)
    {order : List ForwardNode} (h : c.PostOrder order) : order.Perm c.nodes := by
  have once : order.Nodup := List.Nodup.of_map _ (by simpa using Visits.nodup ranked h List.nodup_nil)
  refine (List.perm_ext_iff_of_nodup once (List.Nodup.of_map _ distinct)).mpr fun node => ?_
  constructor
  · exact Visits.mem h node
  · intro hnode
    have covered := Visits.covers h node.name (List.mem_map_of_mem hnode)
    obtain ⟨m, hm, same⟩ := List.mem_map.mp covered
    rw [List.nil_append] at hm
    rwa [← eq_of_name_eq distinct (Visits.mem h m hm) hnode same]

end Chain

end ApiGateway
