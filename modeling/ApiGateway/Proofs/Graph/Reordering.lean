import ApiGateway.Proofs.Graph.Circles
import Mathlib.Data.List.Perm.Basic
import Mathlib.Data.List.Sort

/-
Graphs do not depend on the order of declaration.

Names are sorted before anything is drawn, so forwards of distinct names have the same dependencies
in whatever order they are declared (`ForwardGraph.dependencies_perm`), and in whatever order each
of them lists what it waits for, once or more often (`ForwardGraph.dependencies_congr`). What comes
of drawing them is the same (`ForwardGraph.alike_rearranged`); only which missing name is reported
first hangs on the order.
-/

namespace ApiGateway

namespace Text

/-- Sorted names are those that there are. -/
theorem sortNames_congr {names names' : List String} (same : ∀ n, n ∈ names ↔ n ∈ names') :
    sortNames names = sortNames names' := by
  apply (sorted_sortNames names).eq_of_mem_iff (sorted_sortNames names')
  intro n
  rw [mem_sortNames, mem_sortNames, same]

end Text

namespace ForwardGraph

variable {fs gs : List Forward}

/-! ### The same dependencies -/

/-- Of forwards of distinct names, at most one has a given name. -/
theorem filter_name_perm (distinct : (fs.map (·.name)).Nodup) (perm : fs.Perm gs) (name : String) :
    fs.filter (·.name == name) = gs.filter (·.name == name) := by
  have same := perm.filter (·.name == name)
  have once : ((fs.filter (·.name == name)).map (·.name)).Nodup :=
    distinct.sublist (List.filter_sublist.map _)
  have named : ∀ f ∈ fs.filter (·.name == name), f.name = name := fun f hf => by
    simpa using (List.mem_filter.mp hf).2
  generalize fs.filter (·.name == name) = these at same once named
  match these with
  | [] => exact (List.nil_perm.mp same).symm
  | [f] => exact List.singleton_perm.mp same
  | f :: f' :: rest =>
    have clash : f.name = f'.name :=
      (named f List.mem_cons_self).trans
        (named f' (List.mem_cons_of_mem _ List.mem_cons_self)).symm
    simp [clash] at once

theorem dependencies_perm (distinct : (fs.map (·.name)).Nodup) (perm : fs.Perm gs) :
    dependencies fs = dependencies gs := by
  unfold dependencies
  rw [Text.sortNames_congr fun n => (perm.map _).mem_iff]
  refine List.map_congr_left fun name _ => ?_
  rw [filter_name_perm distinct perm name]

/-- Two forwards of one name wait for the same. -/
structure SameNeeds (f g : Forward) : Prop where
  name : f.name = g.name
  deps : ∀ d, d ∈ f.deps ↔ d ∈ g.deps

theorem map_name_congr (same : List.Forall₂ SameNeeds fs gs) :
    fs.map (·.name) = gs.map (·.name) := by
  induction same with
  | nil => rfl
  | cons here _ ih => rw [List.map_cons, List.map_cons, here.name, ih]

/-- How a forward lists what it waits for, in which order and how often, makes no difference. -/
theorem dependencies_congr (same : List.Forall₂ SameNeeds fs gs) :
    dependencies fs = dependencies gs := by
  have deps : ∀ name, ((fs.filter (·.name == name)).flatMap fun f => Text.sortNames f.deps) =
      (gs.filter (·.name == name)).flatMap fun f => Text.sortNames f.deps := by
    intro name
    induction same with
    | nil => rfl
    | @cons f g fs gs here _ ih =>
      by_cases named : g.name = name
      · simp [here.name, named, ih, Text.sortNames_congr here.deps]
      · simp [here.name, named, ih]
  unfold dependencies
  rw [map_name_congr same]
  apply List.map_congr_left
  intro name _
  rw [deps name]

/-! ### The same outcome -/

/-- The same graph, the same names held up by circles, or a missing name in both. -/
inductive Alike : Except GraphError ForwardGraph → Except GraphError ForwardGraph → Prop where
  | drawn (g : ForwardGraph) : Alike (.ok g) (.ok g)
  | circular (stuck : List String) :
      Alike (.error (.cyclicDependency stuck)) (.error (.cyclicDependency stuck))
  | missing (name dep name' dep' : String) :
      Alike (.error (.unknownDependency name dep)) (.error (.unknownDependency name' dep'))

theorem build_alike (same : dependencies fs = dependencies gs) : Alike (build fs) (build gs) := by
  have present : unknown? fs = none ↔ unknown? gs = none := by
    rw [unknown?_eq_none_iff_closed, unknown?_eq_none_iff_closed, same]
  unfold build
  cases found : unknown? fs with
  | some entry =>
    cases there : unknown? gs with
    | some entry' => exact .missing _ _ _ _
    | none =>
      rw [present.mpr there] at found
      cases found
  | none =>
    rw [present.mp found, same]
    dsimp only
    split
    · exact .drawn _
    · exact .circular _

/-- A graph that can be built is the same in any order of declaration. -/
theorem build_perm (distinct : (fs.map (·.name)).Nodup) (perm : fs.Perm gs) {g : ForwardGraph}
    (built : build fs = .ok g) : build gs = .ok g := by
  have alike := build_alike (dependencies_perm distinct perm)
  rw [built] at alike
  generalize build gs = outcome at alike ⊢
  cases alike
  rfl

/-- The same forwards, up to the order in which they are declared and the order in which each lists
what it waits for, once or more often. -/
def Rearranged (fs gs : List Forward) : Prop := ∃ hs, fs.Perm hs ∧ List.Forall₂ SameNeeds hs gs

/-- **Graphs do not depend on the order of declaration.** Forwards of distinct names that are
rearranged have the same graph, or the same names are held up by circles, or a name is missing in
either arrangement. -/
theorem alike_rearranged (distinct : (fs.map (·.name)).Nodup) (same : Rearranged fs gs) :
    Alike (build fs) (build gs) := by
  obtain ⟨hs, perm, needs⟩ := same
  apply build_alike
  rw [dependencies_perm distinct perm, dependencies_congr needs]

/-- The page is declared last and waits for a user and the stock. -/
def kitchenForwards : List Forward :=
  [{ name := "stock" },
   { name := "user", deps := ["stock", "stock"] },
   { name := "page", deps := ["user", "stock"] }]

/-- The page is declared first and waits for the stock, the user and the stock. -/
def rearrangedKitchen : List Forward :=
  [{ name := "page", deps := ["stock", "user", "stock"] },
   { name := "user", deps := ["stock"] },
   { name := "stock" }]

theorem alike_rearranged_kitchen :
    (kitchenForwards.map (·.name)).Nodup ∧ Rearranged kitchenForwards rearrangedKitchen ∧
      Alike (build kitchenForwards) (build rearrangedKitchen) := by
  have distinct : (kitchenForwards.map (·.name)).Nodup := by decide
  have same : Rearranged kitchenForwards rearrangedKitchen := by
    refine ⟨kitchenForwards.reverse, (List.reverse_perm _).symm, ?_⟩
    refine .cons ⟨rfl, ?_⟩ (.cons ⟨rfl, ?_⟩ (.cons ⟨rfl, ?_⟩ .nil))
    · intro d
      simp [or_comm]
    · intro d
      simp
    · intro d
      rfl
  exact ⟨distinct, same, alike_rearranged distinct same⟩

end ForwardGraph

end ApiGateway
