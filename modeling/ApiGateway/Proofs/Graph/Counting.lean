import ApiGateway.Graph.Basic
import ApiGateway.Proofs.Json.Entries
import Mathlib.Data.List.Perm.Subperm
import Mathlib.Tactic.Common

/-
Counting down dependencies.

Each forward has a counter of the dependencies that are not finished, and comes to the end of the
queue when its counter reaches zero. What is in the queue can be told from what is finished.

* `Dependencies.remaining` - what the counters stand at when given forwards are finished, and
  `Dependencies.released` - which forwards the last of these releases.
* `Dependencies.foldl_lower_dependents` - to lower the counters of all that wait for a forward, each
  as often as it lists the forward, takes them from the one to the other.
* `Dependencies.Draining` - what holds while forwards are taken from the queue;
  `Dependencies.order_keeps` - what each step keeps holds in the end, and
  `Dependencies.draining_order` - all are taken then whose dependencies are.
* `Dependencies.stuck_countdown` - the counters that are not zero then are of the forwards never
  taken.
-/

namespace ApiGateway

namespace Dependencies

variable {ds : Dependencies}

/-- Where no name is declared twice, what is looked up is what was declared. -/
theorem of_eq (once : ds.names.Nodup) {name : String} {deps : List String}
    (listed : (name, deps) ∈ ds) : ds.of name = deps := by
  rw [of, (Json.lookup_eq_some_iff once).mpr listed, Option.getD_some]

/-- The names of forwards are chosen by what these wait for. -/
theorem mem_map_fst_filter (once : ds.names.Nodup) (p : List String → Bool) {name : String} :
    name ∈ (ds.filter fun entry => p entry.2).map (·.1) ↔
      name ∈ ds.names ∧ p (ds.of name) = true := by
  unfold names
  simp only [List.mem_map, List.mem_filter]
  constructor
  · rintro ⟨⟨name, deps⟩, ⟨listed, chosen⟩, rfl⟩
    rw [of_eq once listed]
    exact ⟨⟨_, listed, rfl⟩, chosen⟩
  · rintro ⟨⟨⟨name, deps⟩, listed, rfl⟩, chosen⟩
    rw [of_eq once listed] at chosen
    exact ⟨_, ⟨listed, chosen⟩, rfl⟩

theorem nodup_map_fst_filter (once : ds.names.Nodup) (p : String × List String → Bool) :
    ((ds.filter p).map (·.1)).Nodup :=
  once.sublist (List.filter_sublist.map _)

/-! ### Counters -/

/-- For each forward, how many of its dependencies are not among the finished ones. -/
def remaining (ds : Dependencies) (finished : List String) : List (String × Nat) :=
  ds.map fun (n, deps) => (n, deps.countP fun d => !finished.contains d)

theorem map_fst_remaining (ds : Dependencies) (finished : List String) :
    (ds.remaining finished).map (·.1) = ds.names := by
  simp [remaining, names, Function.comp_def]

/-- One more that is finished is counted off as often as it is listed. -/
theorem countP_snoc {finished : List String} {name : String} (fresh : name ∉ finished)
    (deps : List String) :
    (deps.countP fun d => !finished.contains d) =
      (deps.countP fun d => !(finished ++ [name]).contains d) + deps.count name := by
  induction deps with
  | nil => rfl
  | cons d deps ih =>
    rw [List.countP_cons, List.countP_cons, List.count_cons, ih]
    by_cases same : d = name
    · obtain rfl := same
      have before : (!finished.contains d) = true := by simpa using fresh
      have now : ¬ (!(finished ++ [d]).contains d) = true := by simp
      rw [if_pos before, if_neg now, if_pos (BEq.refl d)]
      omega
    · have other : (finished ++ [name]).contains d = finished.contains d := by simp [same]
      have differ : ¬ (d == name) = true := by simpa using same
      rw [other, if_neg differ]
      omega

namespace Countdown

variable {s : Countdown} {before after : List (String × Nat)} {name : String}

/-- Where no name has two counters, one counter is lowered, and its forward comes into the queue at
zero. -/
theorem lower_eq {n : Nat} (once : (s.left.map (·.1)).Nodup)
    (split : s.left = before ++ (name, n + 1) :: after) :
    s.lower name = { s with
      left := before ++ (name, n) :: after
      queue := if n = 0 then s.queue ++ [name] else s.queue } := by
  have found : s.left.lookup name = some (n + 1) :=
    (Json.lookup_eq_some_iff once).mpr (by simp [split])
  have others : ∀ entry ∈ before ++ after, entry.1 ≠ name := by
    rw [split, List.map_append, List.map_cons, List.nodup_middle, List.nodup_cons,
      ← List.map_append] at once
    intro entry hentry same
    exact once.1 (List.mem_map.mpr ⟨entry, hentry, same⟩)
  have unchanged : ∀ entries : List (String × Nat), (∀ entry ∈ entries, entry.1 ≠ name) →
      (entries.map fun entry => if entry.1 == name then (name, n) else entry) = entries := by
    intro entries other
    rw [List.map_congr_left (g := id), List.map_id]
    intro entry hentry
    simp [other entry hentry]
  rw [List.forall_mem_append] at others
  unfold lower
  rw [found]
  dsimp only
  rw [split, List.map_append, List.map_cons, unchanged _ others.1, unchanged _ others.2]
  simp

/-- A counter that is lowered several times releases its forward once, if it reaches zero. -/
theorem foldl_lower_replicate (times n : Nat) (once : (s.left.map (·.1)).Nodup)
    (split : s.left = before ++ (name, n + times) :: after) :
    (List.replicate times name).foldl lower s = { s with
      left := before ++ (name, n) :: after
      queue := s.queue ++ if 0 < times ∧ n = 0 then [name] else [] } := by
  induction times generalizing s with
  | zero =>
    rw [Nat.add_zero] at split
    simp [← split]
  | succ times ih =>
    rw [List.replicate_succ, List.foldl_cons, lower_eq once split, ih]
    · by_cases zero : n = 0
      · by_cases last : times = 0
        · simp [zero, last]
        · simp [zero, last, Nat.pos_of_ne_zero last]
      · simp [zero]
    · simpa [split] using once
    · rfl

end Countdown

/-! ### Forwards that are released -/

/-- The forwards that wait for the last of the finished ones and for finished ones only. -/
def released (ds : Dependencies) (finished : List String) (last : String) : List String :=
  (ds.filter fun entry => entry.2.contains last && entry.2.all finished.contains).map (·.1)

theorem mem_released (once : ds.names.Nodup) {finished : List String} {last name : String} :
    name ∈ ds.released finished last ↔
      name ∈ ds.names ∧ last ∈ ds.of name ∧ ∀ d ∈ ds.of name, d ∈ finished := by
  rw [released,
    mem_map_fst_filter once fun deps => deps.contains last && deps.all finished.contains]
  simp

theorem released_cons (n : String) (deps : List String) (rest : Dependencies)
    (finished : List String) (last : String) :
    released ((n, deps) :: rest) finished last =
      (if 0 < deps.count last ∧ (deps.countP fun d => !finished.contains d) = 0 then [n] else []) ++
        rest.released finished last := by
  have released_iff : (deps.contains last && deps.all finished.contains) = true ↔
      0 < deps.count last ∧ (deps.countP fun d => !finished.contains d) = 0 := by
    simp [List.count_pos_iff, List.countP_eq_zero]
  unfold released
  simp only [List.filter_cons, released_iff]
  split <;> rfl

/-- To lower the counters of all that wait for a forward makes it a finished one, and releases what
waited for it last. -/
theorem foldl_lower_dependents {finished : List String} {name : String} (fresh : name ∉ finished)
    (done rest : Dependencies) (once : (done ++ rest).names.Nodup) {s : Countdown}
    (left : s.left = done.remaining (finished ++ [name]) ++ rest.remaining finished) :
    (rest.dependents name).foldl Countdown.lower s = { s with
      left := (done ++ rest).remaining (finished ++ [name])
      queue := s.queue ++ rest.released (finished ++ [name]) name } := by
  induction rest generalizing done s with
  | nil =>
    have done : s.left = done.remaining (finished ++ [name]) := by simpa [remaining] using left
    simp [dependents, released, ← done]
  | cons entry rest ih =>
    obtain ⟨n, deps⟩ := entry
    have split : s.left = done.remaining (finished ++ [name]) ++
        (n, (deps.countP fun d => !(finished ++ [name]).contains d) + deps.count name) ::
          remaining rest finished := by
      rw [left, ← countP_snoc fresh]
      rfl
    have distinct : (s.left.map (·.1)).Nodup := by
      rw [left, List.map_append, map_fst_remaining, map_fst_remaining]
      simpa [names] using once
    have first : dependents ((n, deps) :: rest) name =
        List.replicate (deps.count name) n ++ dependents rest name := rfl
    rw [first, List.foldl_append, Countdown.foldl_lower_replicate _ _ distinct split,
      ih (done ++ [(n, deps)])]
    · simp [released_cons]
    · simpa [names] using once
    · simp [remaining]

/-! ### Taking forwards from the queue -/

/-- The forwards that wait for nothing. -/
def initial (ds : Dependencies) : List String := (ds.filter (·.2.isEmpty)).map (·.1)

theorem mem_initial (once : ds.names.Nodup) {name : String} :
    name ∈ ds.initial ↔ name ∈ ds.names ∧ ds.of name = [] := by
  rw [initial, mem_map_fst_filter once List.isEmpty, List.isEmpty_iff]

theorem start_eq (ds : Dependencies) :
    Countdown.start ds = ⟨ds.remaining [], ds.initial, []⟩ := by
  have left : (ds.map fun (n, deps) => (n, deps.length)) = ds.remaining [] := by
    simp [remaining]
  have queue : ((ds.remaining []).filter (·.2 == 0)).map (·.1) = ds.initial := by
    have zero : ∀ deps : List String, (deps.length == 0) = deps.isEmpty := by
      intro deps
      cases deps <;> rfl
    simp [← left, initial, List.filter_map, Function.comp_def, zero]
  simp only [Countdown.start, left, queue]

/-- What holds while forwards are taken: no name is finished or in the queue twice, those that are
wait for finished ones only, and all that wait for finished ones only are. -/
structure Draining (ds : Dependencies) (queue finished : List String) : Prop where
  distinct : (finished ++ queue).Nodup
  known : ∀ n ∈ finished ++ queue, n ∈ ds.names
  waited : ∀ n ∈ finished ++ queue, ∀ d ∈ ds.of n, d ∈ finished
  complete : ∀ n ∈ ds.names, (∀ d ∈ ds.of n, d ∈ finished) → n ∈ finished ++ queue

/-- At first the names that wait for nothing are in the queue. -/
theorem draining_start (once : ds.names.Nodup) : ds.Draining ds.initial [] := by
  constructor
  · exact nodup_map_fst_filter once _
  · intro n hn
    exact ((mem_initial once).mp hn).1
  · intro n hn d hd
    rw [((mem_initial once).mp hn).2] at hd
    exact hd
  · intro n known free
    refine (mem_initial once).mpr ⟨known, ?_⟩
    rw [List.eq_nil_iff_forall_not_mem]
    exact fun d hd => List.not_mem_nil (free d hd)

/-- To take the first of the queue adds to what was there only what is put at the end. -/
theorem regroup (name : String) (finished queue more : List String) :
    finished ++ [name] ++ (queue ++ more) = (finished ++ name :: queue) ++ more := by
  simp

section Taking

variable {name : String} {queue finished : List String}

theorem Draining.fresh (h : ds.Draining (name :: queue) finished) : name ∉ finished := by
  have apart := List.nodup_append.mp h.distinct
  exact fun old => apart.2.2 name old name List.mem_cons_self rfl

/-- The first of the queue may be taken, and releases those that waited for it last. -/
theorem Draining.take (h : ds.Draining (name :: queue) finished) (once : ds.names.Nodup) :
    ds.Draining (queue ++ ds.released (finished ++ [name]) name) (finished ++ [name]) := by
  constructor
  · rw [regroup, List.nodup_append]
    refine ⟨h.distinct, nodup_map_fst_filter once _, ?_⟩
    rintro n old m new rfl
    -- What was there before waits for finished ones only, so not for the name that is taken now.
    exact h.fresh (h.waited n old name ((mem_released once).mp new).2.1)
  · intro n hn
    rw [regroup, List.mem_append] at hn
    rcases hn with old | new
    · exact h.known n old
    · exact ((mem_released once).mp new).1
  · intro n hn d hd
    rw [regroup, List.mem_append] at hn
    rcases hn with old | new
    · exact List.mem_append_left _ (h.waited n old d hd)
    · exact ((mem_released once).mp new).2.2 d hd
  · intro n known waited
    rw [regroup, List.mem_append]
    by_cases last : name ∈ ds.of n
    · exact .inr ((mem_released once).mpr ⟨known, last, waited⟩)
    · refine .inl (h.complete n known fun d hd => ?_)
      rcases List.mem_append.mp (waited d hd) with before | now
      · exact before
      · obtain rfl : d = name := by simpa using now
        exact absurd hd last

/-- No name is taken that was not declared, so not more are taken than are declared. -/
theorem Draining.length_le (h : ds.Draining queue finished) :
    (finished ++ queue).length ≤ ds.length := by
  have room : (finished ++ queue).length ≤ ds.names.length :=
    (h.distinct.subperm h.known).length_le
  rwa [names, List.length_map] at room

/-- While the counters stand at what is not finished, they do so after the next forward. -/
theorem Draining.run_succ (h : ds.Draining (name :: queue) finished) (once : ds.names.Nodup)
    (fuel : Nat) :
    Countdown.run ds (fuel + 1) ⟨ds.remaining finished, name :: queue, finished⟩ =
      Countdown.run ds fuel ⟨ds.remaining (finished ++ [name]),
        queue ++ ds.released (finished ++ [name]) name, finished ++ [name]⟩ := by
  rw [Countdown.run]
  dsimp only
  rw [foldl_lower_dependents h.fresh [] ds once rfl]
  rfl

end Taking

section Keeping

variable {P : List String → List String → Prop}
  (step : ∀ name queue finished, ds.Draining (name :: queue) finished →
    P (name :: queue) finished →
    P (queue ++ ds.released (finished ++ [name]) name) (finished ++ [name]))

include step

/-- The fuel lasts until the queue is empty, and what each step keeps holds then. -/
theorem Draining.keeps (once : ds.names.Nodup) (fuel : Nat) {queue finished : List String}
    (h : ds.Draining queue finished) (held : P queue finished)
    (fueled : ds.length ≤ finished.length + fuel) :
    ∃ order, Countdown.run ds fuel ⟨ds.remaining finished, queue, finished⟩ =
      ⟨ds.remaining order, [], order⟩ ∧ P [] order := by
  induction fuel generalizing queue finished with
  | zero =>
    have room := h.length_le
    rw [List.length_append] at room
    obtain rfl : queue = [] := List.length_eq_zero_iff.mp (by omega)
    exact ⟨finished, rfl, held⟩
  | succ fuel ih =>
    cases queue with
    | nil => exact ⟨finished, rfl, held⟩
    | cons name queue =>
      rw [h.run_succ once]
      refine ih (h.take once) (step name queue finished h held) ?_
      rw [List.length_append, List.length_singleton]
      omega

theorem countdown_keeps (once : ds.names.Nodup) (start : P ds.initial []) :
    ds.countdown = ⟨ds.remaining ds.order, [], ds.order⟩ ∧ P [] ds.order := by
  have fueled : ds.length ≤ ([] : List String).length + ds.length := by simp
  obtain ⟨order, done, held⟩ := (draining_start once).keeps step once ds.length start fueled
  have countdown_eq : ds.countdown = ⟨ds.remaining order, [], order⟩ := by
    rw [countdown, start_eq, done]
  have order_eq : ds.order = order := by rw [Dependencies.order, countdown_eq]
  rw [order_eq]
  exact ⟨countdown_eq, held⟩

/-- What holds of the names that wait for nothing and is kept by each step holds of the order. -/
theorem order_keeps (once : ds.names.Nodup) (start : P ds.initial []) : P [] ds.order :=
  (countdown_keeps step once start).2

end Keeping

/-- The order takes no name twice, and every name whose dependencies it takes. -/
theorem draining_order (once : ds.names.Nodup) : ds.Draining [] ds.order :=
  order_keeps (fun _ _ _ h _ => h.take once) once (draining_start once)

/-- The counters stand at what is not finished in the end. -/
theorem countdown_eq (once : ds.names.Nodup) :
    ds.countdown = ⟨ds.remaining ds.order, [], ds.order⟩ :=
  (countdown_keeps (fun _ _ _ h _ => h.take once) once (draining_start once)).1

/-! ### What is left in the end -/

theorem mem_order_iff_waited (once : ds.names.Nodup) {name : String} (known : name ∈ ds.names) :
    name ∈ ds.order ↔ ∀ d ∈ ds.of name, d ∈ ds.order := by
  have taken := draining_order once
  rw [← List.append_nil ds.order]
  constructor
  · intro hname d hd
    exact List.mem_append_left _ (taken.waited name hname d hd)
  · intro waited
    exact taken.complete name known fun d hd => by simpa using waited d hd

/-- All names are taken if as many are taken as there are. -/
theorem length_order_eq_iff (once : ds.names.Nodup) :
    ds.order.length = ds.length ↔ ∀ name ∈ ds.names, name ∈ ds.order := by
  have taken := draining_order once
  have distinct : ds.order.Nodup := by simpa using taken.distinct
  have known : ∀ n ∈ ds.order, n ∈ ds.names := by simpa using taken.known
  have length_names : ds.names.length = ds.length := List.length_map _
  rw [← length_names]
  constructor
  · intro same name hname
    have perm := (distinct.subperm known).perm_of_length_le (Nat.le_of_eq same.symm)
    exact perm.mem_iff.mpr hname
  · intro complete
    exact Nat.le_antisymm (distinct.subperm known).length_le (once.subperm complete).length_le

/-- Counters that are not zero in the end are those of the names never taken. -/
theorem stuck_countdown (once : ds.names.Nodup) :
    ds.countdown.stuck = ds.names.filter fun name => !ds.order.contains name := by
  have never : ∀ entry ∈ ds,
      decide (0 < entry.2.countP fun d => !ds.order.contains d) = !ds.order.contains entry.1 := by
    rintro ⟨name, deps⟩ listed
    have taken := mem_order_iff_waited once (List.mem_map_of_mem listed)
    rw [of_eq once listed] at taken
    rw [Bool.eq_iff_iff]
    simp [List.countP_pos_iff, taken]
  rw [countdown_eq once]
  simp only [Countdown.stuck, remaining, names, List.filter_map, List.map_map]
  congr 1
  exact List.filter_congr never

end Dependencies

end ApiGateway
