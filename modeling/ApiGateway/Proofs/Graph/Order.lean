import ApiGateway.Proofs.Graph.Counting
import Mathlib.Data.String.Basic

/-
The order of a graph.

A forward is taken only once all that it waits for is finished, so an order never puts a forward
before one of its dependencies (`Dependencies.order_respected`). A graph that is built therefore
ranks its forwards: each stands in the order, behind all that it waits for
(`ForwardGraph.mem_order_of_build`, `ForwardGraph.idxOf_lt_of_build`).
-/

namespace ApiGateway

/-! ### Names -/

namespace Text

theorem mem_insertName {x name : String} {names : List String} :
    x ∈ insertName name names ↔ x = name ∨ x ∈ names := by
  induction names with
  | nil => simp [insertName]
  | cons n ns ih =>
    unfold insertName
    split
    · simp
    · split
      · rename_i same
        subst same
        simp
      · rw [List.mem_cons, ih, List.mem_cons]
        tauto

theorem mem_sortNames {x : String} {names : List String} : x ∈ sortNames names ↔ x ∈ names := by
  induction names with
  | nil => simp [sortNames]
  | cons n ns ih =>
    rw [sortNames, List.foldr_cons, mem_insertName, List.mem_cons]
    exact or_congr_right ih

theorem length_insertName_le (name : String) (names : List String) :
    (insertName name names).length ≤ names.length + 1 := by
  induction names with
  | nil => simp [insertName]
  | cons n ns ih =>
    unfold insertName
    split
    · simp
    · split
      · simp
      · simpa using ih

theorem length_sortNames_le (names : List String) : (sortNames names).length ≤ names.length := by
  induction names with
  | nil => simp [sortNames]
  | cons n ns ih =>
    have step := length_insertName_le n (sortNames ns)
    rw [sortNames, List.foldr_cons, List.length_cons]
    exact Nat.le_trans step (Nat.succ_le_succ ih)

theorem sorted_insertName (name : String) {names : List String}
    (sorted : names.Pairwise (· < ·)) : (insertName name names).Pairwise (· < ·) := by
  induction names with
  | nil => simp [insertName]
  | cons n ns ih =>
    rw [List.pairwise_cons] at sorted
    obtain ⟨least, rest⟩ := sorted
    unfold insertName
    split
    next before =>
      rw [List.pairwise_cons]
      constructor
      · intro m hm
        rcases List.mem_cons.mp hm with rfl | hm
        · exact before
        · exact String.lt_trans before (least m hm)
      · exact List.pairwise_cons.mpr ⟨least, rest⟩
    next notBefore =>
      split
      next => exact List.pairwise_cons.mpr ⟨least, rest⟩
      next other =>
        have behind : n < name := lt_of_le_of_ne (not_lt.mp notBefore) (Ne.symm other)
        rw [List.pairwise_cons]
        refine ⟨fun m hm => ?_, ih rest⟩
        rcases mem_insertName.mp hm with rfl | hm
        · exact behind
        · exact least m hm

/-- Sorted names ascend, so that none stands twice. -/
theorem sorted_sortNames (names : List String) : (sortNames names).Pairwise (· < ·) := by
  induction names with
  | nil => simp [sortNames]
  | cons n ns ih => exact sorted_insertName n ih

theorem nodup_sortNames (names : List String) : (sortNames names).Nodup :=
  (sorted_sortNames names).imp ne_of_lt

end Text

/-! ### Orders that respect dependencies -/

namespace Dependencies

/-- Each forward of the list comes after all that it waits for. -/
def Respected (ds : Dependencies) (order : List String) : Prop :=
  ∀ before name after, order = before ++ name :: after → ∀ d ∈ ds.of name, d ∈ before

variable {ds : Dependencies}

theorem Respected.nil : ds.Respected [] := by
  intro before name after split
  simp at split

/-- A forward may be added once all that it waits for is there. -/
theorem Respected.snoc {order : List String} {name : String} (h : ds.Respected order)
    (ready : ∀ d ∈ ds.of name, d ∈ order) : ds.Respected (order ++ [name]) := by
  intro before n after split d hd
  rcases List.eq_nil_or_concat after with rfl | ⟨after, last, rfl⟩
  · obtain ⟨rfl, same⟩ := List.append_inj' split rfl
    obtain rfl : name = n := by simpa using same
    exact ready d hd
  · have regroup : order ++ [name] = (before ++ n :: after) ++ [last] := by simpa using split
    obtain ⟨rfl, -⟩ := List.append_inj' regroup rfl
    exact h before n after rfl d hd

theorem Respected.of_snoc {order : List String} {name : String}
    (h : ds.Respected (order ++ [name])) :
    ds.Respected order ∧ ∀ d ∈ ds.of name, d ∈ order := by
  constructor
  · rintro before n after rfl
    exact h before n (after ++ [name]) (by simp)
  · exact h order name [] rfl

theorem Respected.mem {order : List String} (h : ds.Respected order) {name d : String}
    (hname : name ∈ order) (hd : d ∈ ds.of name) : d ∈ order := by
  obtain ⟨before, after, rfl⟩ := List.append_of_mem hname
  exact List.mem_append_left _ (h before name after rfl d hd)

/-- In such an order a dependency has the smaller position. -/
theorem Respected.idxOf_lt {order : List String} (h : ds.Respected order) {name d : String}
    (hname : name ∈ order) (hd : d ∈ ds.of name) : order.idxOf d < order.idxOf name := by
  obtain ⟨before, after, rfl, fresh⟩ := List.eq_append_cons_of_mem hname
  have hbefore : d ∈ before := h before name after rfl d hd
  rw [List.idxOf_append_of_mem hbefore, List.idxOf_append_of_notMem fresh, List.idxOf_cons_self]
  exact Nat.lt_of_lt_of_le (List.idxOf_lt_length_of_mem hbefore) (Nat.le_add_right _ _)

/-- A forward is taken only once all that it waits for is, so the order is respected. -/
theorem order_respected (once : ds.names.Nodup) : ds.Respected ds.order := by
  refine order_keeps (P := fun _ finished => ds.Respected finished) ?_ once .nil
  intro name queue finished h respected
  exact respected.snoc (h.waited name (by simp))

end Dependencies

/-! ### Graphs that are built -/

namespace ForwardGraph

variable {fs : List Forward} {g : ForwardGraph}

theorem names_dependencies (fs : List Forward) :
    (dependencies fs).names = Text.sortNames (fs.map (·.name)) := by
  simp [dependencies, Dependencies.names, Function.comp_def]

theorem nodup_names_dependencies (fs : List Forward) : (dependencies fs).names.Nodup := by
  rw [names_dependencies]
  exact Text.nodup_sortNames _

theorem lookup_of_names {α : Type} {names : List String} {name : String} (h : name ∈ names)
    (value : String → α) : (names.map fun n => (n, value n)).lookup name = some (value name) := by
  induction names with
  | nil => exact absurd h List.not_mem_nil
  | cons n ns ih =>
    by_cases same : name = n
    · subst same
      simp
    · have hns : name ∈ ns := (List.mem_cons.mp h).resolve_left same
      have differ : (name == n) = false := by simpa using same
      rw [List.map_cons, List.lookup_cons, differ]
      exact ih hns

/-- A forward waits for what the forwards of its name declare. -/
theorem mem_of_dependencies {f : Forward} {d : String} (hf : f ∈ fs) (hd : d ∈ f.deps) :
    d ∈ (dependencies fs).of f.name := by
  have known : f.name ∈ Text.sortNames (fs.map (·.name)) :=
    Text.mem_sortNames.mpr (List.mem_map_of_mem hf)
  rw [Dependencies.of, dependencies, lookup_of_names known, Option.getD_some]
  refine List.mem_flatMap.mpr ⟨f, List.mem_filter.mpr ⟨hf, by simp⟩, ?_⟩
  exact Text.mem_sortNames.mpr hd

/-- What is looked at before a graph is built, and what it is then made of. -/
theorem build_eq_ok_iff : build fs = .ok g ↔ unknown? fs = none ∧
    (∀ name ∈ (dependencies fs).names, name ∈ (dependencies fs).order) ∧
    g = ⟨dependencies fs, (dependencies fs).levels (dependencies fs).order,
      (dependencies fs).order⟩ := by
  rw [← Dependencies.length_order_eq_iff (nodup_names_dependencies fs)]
  unfold build
  cases unknown? fs with
  | some entry => simp
  | none =>
    dsimp only
    split
    next complete => simp [complete, eq_comm]
    next incomplete => simp [incomplete]

/-- A graph that was built has its forwards in the order of their dependencies. -/
theorem order_of_build (h : build fs = .ok g) : g.order = (dependencies fs).order := by
  obtain ⟨-, -, rfl⟩ := build_eq_ok_iff.mp h
  rfl

theorem dependsOn_of_build (h : build fs = .ok g) : g.dependsOn = dependencies fs := by
  obtain ⟨-, -, rfl⟩ := build_eq_ok_iff.mp h
  rfl

theorem unknown?_eq_none_iff :
    unknown? fs = none ↔ ∀ f ∈ fs, ∀ d ∈ f.deps, d ∈ fs.map (·.name) := by
  unfold unknown?
  rw [List.findSome?_eq_none_iff]
  refine forall₂_congr fun f _ => ?_
  rw [Option.map_eq_none_iff, List.find?_eq_none]
  refine forall₂_congr fun d _ => ?_
  simp

/-- Every dependency is a forward. -/
theorem mem_names_of_build (h : build fs = .ok g) {f : Forward} {d : String} (hf : f ∈ fs)
    (hd : d ∈ f.deps) : d ∈ fs.map (·.name) := by
  obtain ⟨known, -, -⟩ := build_eq_ok_iff.mp h
  exact unknown?_eq_none_iff.mp known f hf d hd

theorem mem_order_of_build (h : build fs = .ok g) {name : String}
    (hname : name ∈ fs.map (·.name)) : name ∈ g.order := by
  obtain ⟨-, complete, rfl⟩ := build_eq_ok_iff.mp h
  refine complete name ?_
  rw [names_dependencies]
  exact Text.mem_sortNames.mpr hname

/-- A forward stands behind all that it waits for. -/
theorem idxOf_lt_of_build (h : build fs = .ok g) {f : Forward} {d : String} (hf : f ∈ fs)
    (hd : d ∈ f.deps) : g.order.idxOf d < g.order.idxOf f.name := by
  have listed : f.name ∈ g.order := mem_order_of_build h (List.mem_map_of_mem hf)
  rw [order_of_build h] at listed ⊢
  have respected := Dependencies.order_respected (nodup_names_dependencies fs)
  exact respected.idxOf_lt listed (mem_of_dependencies hf hd)

theorem length_order_of_build (h : build fs = .ok g) : g.order.length ≤ fs.length := by
  have taken := Dependencies.draining_order (nodup_names_dependencies fs)
  have bound := taken.length_le
  rw [List.append_nil] at bound
  rw [order_of_build h]
  refine Nat.le_trans bound ?_
  have names := Text.length_sortNames_le (fs.map (·.name))
  simpa [dependencies] using names

end ForwardGraph

end ApiGateway
