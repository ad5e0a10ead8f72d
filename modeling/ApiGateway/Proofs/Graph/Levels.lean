import ApiGateway.Proofs.Graph.Drawing
import Mathlib.Order.Bounds.Basic

/-
The levels of a graph.

Forwards are taken from a queue, so those that wait for little are taken before those that wait
for much. The levels only cut the order into pieces for this reason.

* `Dependencies.Chained` - a chain of so many dependencies begins at a name.
* `Dependencies.Ranked` - numbers that put each forward above what it waits for, but not higher than
  needed; `ForwardGraph.isGreatest_of_ranked` - they are the lengths of the longest chains.
* `Dependencies.ranked_depth` - the depths of a complete order are such numbers, and
  `Dependencies.ascending_order` - the order ascends by them.
* `ForwardGraph.layered_build` - what the levels of a graph hold, and that they make up its order.
-/

namespace ApiGateway

namespace Dependencies

variable {ds : Dependencies}

/-! ### The least number above some others -/

theorem foldl_above_le_iff {ns : List Nat} {start bound : Nat} :
    ns.foldl (fun m n => max m (n + 1)) start ≤ bound ↔ start ≤ bound ∧ ∀ n ∈ ns, n < bound := by
  induction ns generalizing start with
  | nil => simp
  | cons n ns ih =>
    rw [List.foldl_cons, ih, Nat.max_le, List.forall_mem_cons, and_assoc]
    exact Iff.rfl

theorem above_le_iff {ns : List Nat} {bound : Nat} : above ns ≤ bound ↔ ∀ n ∈ ns, n < bound := by
  unfold above
  rw [foldl_above_le_iff]
  simp

theorem lt_above {ns : List Nat} {n : Nat} (h : n ∈ ns) : n < above ns :=
  above_le_iff.mp (Nat.le_refl _) n h

/-- It is one more than one of them, unless it is zero. -/
theorem mem_of_above_eq_succ {ns : List Nat} {n : Nat} (h : above ns = n + 1) : n ∈ ns := by
  by_contra other
  have lower : above ns ≤ n := by
    rw [above_le_iff]
    intro m hm
    have below : m < n + 1 := h ▸ lt_above hm
    have apart : m ≠ n := by
      rintro rfl
      exact other hm
    omega
  omega

/-! ### Chains of dependencies -/

/-- A chain of so many dependencies begins at a name. -/
inductive Chained (ds : Dependencies) : String → Nat → Prop where
  | here (name : String) : Chained ds name 0
  | next {name dep : String} {n : Nat} (waits : ds.Waits name dep) (rest : Chained ds dep n) :
      Chained ds name (n + 1)

/-- Each forward has a number above those it waits for, and no higher than needed. -/
structure Ranked (ds : Dependencies) (rank : String → Nat) : Prop where
  above : ∀ name, ∀ dep ∈ ds.of name, rank dep < rank name
  just : ∀ name n, rank name = n + 1 → ∃ dep ∈ ds.of name, rank dep = n

section Ranks

variable {rank : String → Nat} (ranked : ds.Ranked rank)

include ranked

/-- Below a number there is no gap. -/
theorem Ranked.exists_of_le (closed : ∀ name, ∀ dep ∈ ds.of name, dep ∈ ds.names) {name : String}
    (known : name ∈ ds.names) {n : Nat} (h : n ≤ rank name) :
    ∃ other ∈ ds.names, rank other = n := by
  generalize top : rank name = m at h
  induction m generalizing name with
  | zero => exact ⟨name, known, by omega⟩
  | succ m ih =>
    by_cases same : n = m + 1
    · exact ⟨name, known, by omega⟩
    · obtain ⟨dep, hd, rfl⟩ := ranked.just name m top
      exact ih (closed name dep hd) rfl (by omega)

/-- What is ready once a forward is done has at most one more than its number, if the forward has
the greatest of all that are done. -/
theorem Ranked.le_succ {finished : List String} {last name : String}
    (greatest : ∀ m ∈ finished, rank m ≤ rank last)
    (ready : ∀ d ∈ ds.of name, d ∈ finished ++ [last]) : rank name ≤ rank last + 1 := by
  cases top : rank name with
  | zero => omega
  | succ m =>
    obtain ⟨dep, hd, rfl⟩ := ranked.just name m top
    rcases List.mem_append.mp (ready dep hd) with before | now
    · have := greatest dep before
      omega
    · obtain rfl : dep = last := by simpa using now
      omega

/-- Names come to the end of the queue in the order of their numbers: what is released by a forward
has one more than its number, and no name in the queue has a greater one. -/
theorem Draining.ascending {name : String} {queue finished : List String}
    (h : ds.Draining (name :: queue) finished) (once : ds.names.Nodup)
    (ascending : (finished ++ name :: queue).Pairwise fun a b => rank a ≤ rank b) :
    (finished ++ [name] ++ (queue ++ ds.released (finished ++ [name]) name)).Pairwise
      fun a b => rank a ≤ rank b := by
  have greatest : ∀ m ∈ finished, rank m ≤ rank name := by
    intro m hm
    exact (List.pairwise_append.mp ascending).2.2 m hm name List.mem_cons_self
  have released : ∀ n ∈ ds.released (finished ++ [name]) name, rank n = rank name + 1 := by
    intro n hn
    obtain ⟨-, last, ready⟩ := (mem_released once).mp hn
    have upper := ranked.le_succ greatest ready
    have lower := ranked.above n name last
    omega
  rw [regroup, List.pairwise_append]
  refine ⟨ascending, ?_, ?_⟩
  · apply List.pairwise_of_forall_mem_list
    intro a ha b hb
    rw [released a ha, released b hb]
  · intro a ha b hb
    rw [released b hb]
    apply ranked.le_succ greatest
    intro d hd
    exact List.mem_append_left _ (h.waited a ha d hd)

/-- The order ascends by the numbers. -/
theorem ascending_order (once : ds.names.Nodup) :
    ds.order.Pairwise fun a b => rank a ≤ rank b := by
  have start : ds.initial.Pairwise fun a b => rank a ≤ rank b := by
    apply List.pairwise_of_forall_mem_list
    intro a ha b _
    cases top : rank a with
    | zero => exact Nat.zero_le _
    | succ n =>
      obtain ⟨dep, hd, -⟩ := ranked.just a n top
      rw [((mem_initial once).mp ha).2] at hd
      exact absurd hd List.not_mem_nil
  have kept := order_keeps (P := fun queue finished =>
    (finished ++ queue).Pairwise fun a b => rank a ≤ rank b)
    (fun _ _ _ h ascending => h.ascending ranked once ascending) once start
  rwa [List.append_nil] at kept

end Ranks

/-! ### Depths -/

/-- The depth of a forward in an order. -/
def depth (ds : Dependencies) (order : List String) (name : String) : Nat :=
  ((ds.depths order).lookup name).getD 0

theorem depths_snoc (order : List String) (name : String) :
    ds.depths (order ++ [name]) =
      (name, above ((ds.of name).filterMap fun d => (ds.depths order).lookup d)) ::
        ds.depths order := by
  simp [depths, List.foldl_append]

theorem depth_snoc_of_ne {order : List String} {name last : String} (apart : name ≠ last) :
    ds.depth (order ++ [last]) name = ds.depth order name := by
  have differ : (name == last) = false := by simpa using apart
  rw [depth, depths_snoc, List.lookup_cons, differ]
  rfl

/-- Each forward of an order has its depth, the last of them first. -/
theorem depths_eq {order : List String} (once : order.Nodup) :
    ds.depths order = order.reverse.map fun name => (name, ds.depth order name) := by
  induction order using List.reverseRecOn with
  | nil => rfl
  | append_singleton order last ih =>
    obtain ⟨once, -, apart⟩ := List.nodup_append.mp once
    have own : (last, ds.depth (order ++ [last]) last) =
        (last, above ((ds.of last).filterMap fun d => (ds.depths order).lookup d)) := by
      simp [depth, depths_snoc]
    have others : order.reverse.map (fun name => (name, ds.depth (order ++ [last]) name)) =
        order.reverse.map fun name => (name, ds.depth order name) := by
      apply List.map_congr_left
      intro name hname
      rw [depth_snoc_of_ne (apart name (List.mem_reverse.mp hname) last (by simp))]
    rw [List.reverse_append, List.reverse_singleton, List.singleton_append, List.map_cons, own,
      others, ← ih once, depths_snoc]

theorem lookup_depths {order : List String} (once : order.Nodup) {name : String}
    (h : name ∈ order) : (ds.depths order).lookup name = some (ds.depth order name) := by
  rw [depths_eq once]
  exact ForwardGraph.lookup_of_names (List.mem_reverse.mpr h) _

/-- Where dependencies come first, the depth of a forward is the least above theirs. -/
theorem depth_eq {order : List String} (once : order.Nodup) (respected : ds.Respected order) :
    ∀ name ∈ order, ds.depth order name = above ((ds.of name).map (ds.depth order)) := by
  induction order using List.reverseRecOn with
  | nil => simp
  | append_singleton order last ih =>
    obtain ⟨distinct, -, apart⟩ := List.nodup_append.mp once
    obtain ⟨kept, ready⟩ := respected.of_snoc
    have before : ∀ d ∈ order, ds.depth (order ++ [last]) d = ds.depth order d := by
      intro d hd
      exact depth_snoc_of_ne (apart d hd last (by simp))
    intro name hname
    rcases List.mem_append.mp hname with old | new
    · rw [before name old, ih distinct kept name old]
      congr 1
      apply List.map_congr_left
      intro d hd
      rw [before d (kept.mem old hd)]
    · obtain rfl : name = last := by simpa using new
      have own : ds.depth (order ++ [name]) name =
          above ((ds.of name).filterMap fun d => (ds.depths order).lookup d) := by
        simp [depth, depths_snoc]
      rw [own, ← List.filterMap_eq_map]
      congr 1
      apply List.filterMap_congr
      intro d hd
      rw [lookup_depths distinct (ready d hd), Function.comp_apply, before d (ready d hd)]

/-- In an order that has all that is declared, depths put each forward above what it waits for, and
no higher than needed. -/
theorem ranked_depth (once : ds.names.Nodup) (complete : ∀ name ∈ ds.names, name ∈ ds.order) :
    ds.Ranked (ds.depth ds.order) := by
  have distinct : ds.order.Nodup := by simpa using (draining_order once).distinct
  have eq := depth_eq distinct (order_respected once)
  constructor
  case above =>
    intro name dep hd
    have known : name ∈ ds.names := ((mem_of_iff once).mp hd).declared
    rw [eq name (complete name known)]
    exact lt_above (List.mem_map_of_mem hd)
  case just =>
    intro name n top
    by_cases taken : name ∈ ds.order
    · rw [eq name taken] at top
      exact List.mem_map.mp (mem_of_above_eq_succ top)
    · have unlisted : (ds.depths ds.order).lookup name = none := by
        rw [depths_eq distinct, List.lookup_eq_none_iff]
        simpa using fun n hn => (ne_of_mem_of_not_mem hn taken).symm
      simp [depth, unlisted] at top

/-! ### Levels -/

section Pieces

variable {α : Type} {rank : α → Nat} {xs : List α}

/-- In an ascending list those of one number stand behind all of smaller numbers. -/
theorem filter_lt_succ (ascending : xs.Pairwise fun a b => rank a ≤ rank b) (n : Nat) :
    xs.filter (fun x => rank x < n + 1) =
      xs.filter (fun x => rank x < n) ++ xs.filter fun x => rank x == n := by
  induction xs with
  | nil => rfl
  | cons x xs ih =>
    obtain ⟨least, ascending⟩ := List.pairwise_cons.mp ascending
    simp only [List.filter_cons, decide_eq_true_eq, beq_iff_eq, ih ascending]
    by_cases lower : rank x < n
    · have differ : rank x ≠ n := by omega
      have within : rank x < n + 1 := by omega
      rw [if_pos lower, if_neg differ, if_pos within, List.cons_append]
    · have none : xs.filter (fun x => rank x < n) = [] := by
        rw [List.filter_eq_nil_iff]
        intro y hy
        have := least y hy
        simp only [decide_eq_true_eq]
        omega
      rw [if_neg lower, none, List.nil_append, List.nil_append]
      by_cases same : rank x = n
      · have within : rank x < n + 1 := by omega
        rw [if_pos same, if_pos within]
      · have beyond : ¬ rank x < n + 1 := by omega
        rw [if_neg same, if_neg beyond]

/-- An ascending list is made up of those of each number, one after the other. -/
theorem flatMap_filter (ascending : xs.Pairwise fun a b => rank a ≤ rank b) (n : Nat) :
    ((List.range n).flatMap fun l => xs.filter fun x => rank x == l) =
      xs.filter fun x => rank x < n := by
  induction n with
  | zero => simp
  | succ n ih =>
    rw [List.range_succ, List.flatMap_append, ih, filter_lt_succ ascending]
    simp

end Pieces

/-- One more than the greatest depth. -/
def height (ds : Dependencies) (order : List String) : Nat := above ((ds.depths order).map (·.2))

section Height

variable {order : List String}

theorem snd_depths (once : order.Nodup) :
    (ds.depths order).map (·.2) = order.reverse.map (ds.depth order) := by
  rw [depths_eq once, List.map_map]
  rfl

theorem depth_lt_height (once : order.Nodup) {name : String} (h : name ∈ order) :
    ds.depth order name < ds.height order := by
  apply lt_above
  rw [snd_depths once]
  exact List.mem_map_of_mem (List.mem_reverse.mpr h)

/-- Some forward is as deep as any may be. -/
theorem exists_deepest (once : order.Nodup) {n : Nat} (h : n < ds.height order) :
    ∃ name ∈ order, n ≤ ds.depth order name := by
  obtain ⟨m, top⟩ : ∃ m, ds.height order = m + 1 := ⟨ds.height order - 1, by omega⟩
  have deepest := mem_of_above_eq_succ top
  rw [snd_depths once] at deepest
  obtain ⟨name, hname, rfl⟩ := List.mem_map.mp deepest
  exact ⟨name, List.mem_reverse.mp hname, by omega⟩

/-- A level has the forwards of one depth, as they stand in the order. -/
theorem levels_eq (once : order.Nodup) :
    ds.levels order = (List.range (ds.height order)).map fun l =>
      order.filter fun name => ds.depth order name == l := by
  unfold levels
  apply List.map_congr_left
  intro l _
  apply List.filter_congr
  intro name hname
  rw [lookup_depths once hname]
  rfl

theorem mem_level_iff (once : order.Nodup) {name : String} {k : Nat} :
    (∃ level, (ds.levels order)[k]? = some level ∧ name ∈ level) ↔
      name ∈ order ∧ ds.depth order name = k := by
  have level : ∀ level, (ds.levels order)[k]? = some level ↔ k < ds.height order ∧
      (order.filter fun name => ds.depth order name == k) = level := by
    intro level
    rw [levels_eq once, List.getElem?_map, Option.map_eq_some_iff]
    constructor
    · rintro ⟨l, there, rfl⟩
      obtain ⟨within, rfl⟩ : k < ds.height order ∧ k = l := by
        simpa [List.getElem?_eq_some_iff] using there
      exact ⟨within, rfl⟩
    · rintro ⟨within, rfl⟩
      exact ⟨k, List.getElem?_range within, rfl⟩
  constructor
  · rintro ⟨these, there, hname⟩
    obtain ⟨-, rfl⟩ := (level these).mp there
    simpa using hname
  · rintro ⟨hname, rfl⟩
    exact ⟨_, (level _).mpr ⟨depth_lt_height once hname, rfl⟩, by simpa using hname⟩

theorem flatten_levels (once : order.Nodup)
    (ascending : order.Pairwise fun a b => ds.depth order a ≤ ds.depth order b) :
    (ds.levels order).flatten = order := by
  rw [levels_eq once, ← List.flatMap_def, flatMap_filter ascending, List.filter_eq_self]
  intro name hname
  simpa using depth_lt_height once hname

/-- No level is empty, since depths have no gaps. -/
theorem ne_nil_of_mem_levels (once : order.Nodup) (ranked : ds.Ranked (ds.depth order))
    (declared : ∀ name, name ∈ order ↔ name ∈ ds.names)
    (closed : ∀ name, ∀ dep ∈ ds.of name, dep ∈ ds.names) :
    ∀ level ∈ ds.levels order, level ≠ [] := by
  intro level hlevel
  rw [levels_eq once] at hlevel
  obtain ⟨l, hl, rfl⟩ := List.mem_map.mp hlevel
  obtain ⟨name, hname, deeper⟩ := exists_deepest once (List.mem_range.mp hl)
  obtain ⟨other, known, rfl⟩ := ranked.exists_of_le closed ((declared name).mp hname) deeper
  apply List.ne_nil_of_mem (a := other)
  simpa using (declared other).mpr known

end Height

end Dependencies

/-! ### The levels of a graph -/

namespace ForwardGraph

variable {fs : List Forward} {g : ForwardGraph}

/-- The lengths of the longest chains are the only numbers that put each forward above what it waits
for, and no higher than needed. -/
theorem isGreatest_of_ranked {rank : String → Nat} (ranked : (dependencies fs).Ranked rank)
    (name : String) : IsGreatest {n | (declared fs).Chained name n} (rank name) := by
  constructor
  · generalize top : rank name = n
    induction n generalizing name with
    | zero => exact .here name
    | succ n ih =>
      obtain ⟨dep, hd, lower⟩ := ranked.just name n top
      exact .next (mem_of_dependencies_iff.mp hd) (ih dep lower)
  · intro n chain
    induction chain with
    | here name => exact Nat.zero_le _
    | next waits _ ih =>
      exact Nat.lt_of_le_of_lt ih (ranked.above _ _ (mem_of_dependencies_iff.mpr waits))

/-- The levels of a graph sort its order by the chains that begin at each name. -/
structure Layered (g : ForwardGraph) (fs : List Forward) : Prop where
  /-- A declared name is in one level, the number of which is the length of the longest chain of
  dependencies that begins at it. -/
  level : ∀ name k, (∃ level, g.levels[k]? = some level ∧ name ∈ level) ↔
    name ∈ fs.map (·.name) ∧ IsGreatest {n | (declared fs).Chained name n} k
  /-- Each level has names in it. -/
  inhabited : ∀ level ∈ g.levels, level ≠ []
  /-- One level after the other makes up the order. -/
  flatten : g.levels.flatten = g.order

/-- **The levels of a graph.** In every graph that is drawn a name is in the level that has as many
levels below it as the longest chain of dependencies has steps, none of them empty, and the order is
the levels one after the other. -/
theorem layered_build (built : build fs = .ok g) : g.Layered fs := by
  have shows := shows_of_build built
  obtain ⟨known, complete, rfl⟩ := build_eq_ok_iff.mp built
  have once := nodup_names_dependencies fs
  have ranked := Dependencies.ranked_depth once complete
  have distinct : (dependencies fs).order.Nodup := shows.nodup_order
  constructor
  case level =>
    intro name k
    have longest := isGreatest_of_ranked ranked name
    rw [Dependencies.mem_level_iff distinct, shows.mem_order name]
    apply and_congr_right
    intro _
    constructor
    · rintro rfl
      exact longest
    · intro greatest
      exact longest.unique greatest
  case inhabited =>
    apply Dependencies.ne_nil_of_mem_levels distinct ranked
    · intro name
      rw [mem_names_dependencies]
      exact shows.mem_order name
    · exact unknown?_eq_none_iff_closed.mp known
  case flatten =>
    exact Dependencies.flatten_levels distinct (Dependencies.ascending_order ranked once)

/-- A shop: the page waits for a user, who waits for a quota, and the mail and the page for the
stock. -/
def shopForwards : List Forward :=
  [{ name := "page", deps := ["user", "stock", "user"] },
   { name := "user", deps := ["quota"] },
   { name := "mail", deps := ["stock"] },
   { name := "stock" },
   { name := "quota" }]

def shopGraph : ForwardGraph where
  dependsOn := [("mail", ["stock"]), ("page", ["stock", "user"]), ("quota", []), ("stock", []),
    ("user", ["quota"])]
  levels := [["quota", "stock"], ["user", "mail"], ["page"]]
  order := ["quota", "stock", "user", "mail", "page"]

/-- The user is ready before the mail, since the quota is taken before the stock. -/
theorem layered_build_shop :
    build shopForwards = .ok shopGraph ∧ shopGraph.Layered shopForwards := by
  have built : build shopForwards = .ok shopGraph := rfl
  exact ⟨built, layered_build built⟩

end ForwardGraph

end ApiGateway
