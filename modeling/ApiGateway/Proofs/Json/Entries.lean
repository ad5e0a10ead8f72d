import ApiGateway.Json.Basic
import Mathlib.Data.List.Nodup
import Mathlib.Data.String.Basic

/-
Entries in ascending order of their keys.

An entry that is put into such entries takes its place among them and replaces the one with its key
(`Json.lookup_insertEntry`, `Json.sorted_insertEntry`). Entries that are sorted have each key once
(`Json.sorted_sortEntries`); where the keys differ, sorting loses nothing
(`Json.lookup_sortEntries`) and forgets the order (`Json.sortEntries_perm`), and sorted entries stay
as they are (`Json.sortEntries_of_sorted`).
-/

namespace ApiGateway

theorem mem_of_lookup {α : Type} {entries : List (String × α)} {key : String} {value : α}
    (found : entries.lookup key = some value) : (key, value) ∈ entries := by
  obtain ⟨before, after, rfl, -⟩ := List.lookup_eq_some_iff.mp found
  exact List.mem_append_right _ List.mem_cons_self

namespace Json

/-- The keys ascend. -/
def Ascending {α : Type} (entries : List (String × α)) : Prop :=
  (entries.map (·.1)).Pairwise (· < ·)

variable {α : Type} {entries : List (String × α)} {key : String} {value : α}

theorem ascending_nil : Ascending ([] : List (String × α)) := List.Pairwise.nil

theorem Ascending.nodup (sorted : Ascending entries) : (entries.map (·.1)).Nodup :=
  sorted.imp ne_of_lt

theorem ascending_cons {e : String × α} :
    Ascending (e :: entries) ↔ (∀ k ∈ entries.map (·.1), e.1 < k) ∧ Ascending entries :=
  List.pairwise_cons

theorem lookup_cons {κ : Type} [DecidableEq κ] (k : κ) (v : α) (rest : List (κ × α)) (other : κ) :
    ((k, v) :: rest).lookup other = if other = k then some v else rest.lookup other := by
  by_cases same : other = k
  · rw [same, List.lookup_cons_self, if_pos rfl]
  · rw [List.lookup_cons, beq_eq_false_iff_ne.mpr same, if_neg same]

/-- Where the keys differ, what is there is found. -/
theorem lookup_eq_some_iff (distinct : (entries.map (·.1)).Nodup) :
    entries.lookup key = some value ↔ (key, value) ∈ entries := by
  refine ⟨mem_of_lookup, fun there => ?_⟩
  induction entries with
  | nil => cases there
  | cons e rest ih =>
    obtain ⟨k, v⟩ := e
    rw [List.map_cons, List.nodup_cons] at distinct
    rw [lookup_cons]
    rcases List.mem_cons.mp there with same | later
    · cases same
      rw [if_pos rfl]
    · have other : key ≠ k := by
        rintro rfl
        exact distinct.1 (List.mem_map.mpr ⟨_, later, rfl⟩)
      rw [if_neg other]
      exact ih distinct.2 later

/-! ### One entry -/

theorem map_fst_insertEntry (k : String) :
    k ∈ (insertEntry key value entries).map (·.1) ↔ k = key ∨ k ∈ entries.map (·.1) := by
  induction entries with
  | nil => simp [insertEntry]
  | cons e rest ih =>
    obtain ⟨k', v'⟩ := e
    unfold insertEntry
    split_ifs with before same
    · simp
    · simp [same]
    · rw [List.map_cons, List.mem_cons, ih, List.map_cons, List.mem_cons]
      exact or_left_comm

/-- An entry that is put in is found under its key, and nothing else changes. -/
theorem lookup_insertEntry (k : String) :
    (insertEntry key value entries).lookup k =
      if k = key then some value else entries.lookup k := by
  induction entries with
  | nil => rw [insertEntry, lookup_cons]
  | cons e rest ih =>
    obtain ⟨k', v'⟩ := e
    unfold insertEntry
    split
    next before => rw [lookup_cons]
    next notBefore =>
      split
      next same =>
        subst same
        rw [lookup_cons, lookup_cons]
        by_cases found : k = key <;> simp [found]
      next other =>
        rw [lookup_cons, ih, lookup_cons]
        by_cases found : k = key
        · rw [if_neg (found ▸ other), if_pos found, if_pos found]
        · rw [if_neg found, if_neg found]

theorem sorted_insertEntry (sorted : Ascending entries) :
    Ascending (insertEntry key value entries) := by
  induction entries with
  | nil => exact List.pairwise_singleton _ _
  | cons e rest ih =>
    obtain ⟨k, v⟩ := e
    obtain ⟨least, ascending⟩ := ascending_cons.mp sorted
    unfold insertEntry
    split_ifs with before same
    · refine ascending_cons.mpr ⟨fun k' later => ?_, sorted⟩
      rcases List.mem_cons.mp later with rfl | later
      · exact before
      · exact lt_trans before (least k' later)
    · subst same
      exact sorted
    · refine ascending_cons.mpr ⟨fun k' later => ?_, ih ascending⟩
      rcases (map_fst_insertEntry k').mp later with rfl | later
      · exact lt_of_le_of_ne (not_lt.mp before) (Ne.symm same)
      · exact least k' later

/-- An entry behind all others goes to the end. -/
theorem insertEntry_of_last (last : ∀ k ∈ entries.map (·.1), k < key) :
    insertEntry key value entries = entries ++ [(key, value)] := by
  induction entries with
  | nil => rfl
  | cons e rest ih =>
    obtain ⟨k, v⟩ := e
    rw [List.map_cons, List.forall_mem_cons] at last
    rw [insertEntry, if_neg (lt_asymm last.1), if_neg (ne_of_gt last.1), ih last.2, List.cons_append]

/-! ### All entries -/

/-- Entries put one after another into those that are there. -/
theorem sorted_foldl_insertEntry (sorted : Ascending entries) (more : List (String × α)) :
    Ascending (more.foldl (fun acc (k, v) => insertEntry k v acc) entries) := by
  induction more generalizing entries with
  | nil => exact sorted
  | cons e more ih => exact ih (sorted_insertEntry sorted)

theorem sorted_sortEntries (more : List (String × α)) : Ascending (sortEntries more) :=
  sorted_foldl_insertEntry ascending_nil more

/-- What is put in are the entry itself and what was there. -/
theorem mem_of_mem_insertEntry {e : String × α} (there : e ∈ insertEntry key value entries) :
    e = (key, value) ∨ e ∈ entries := by
  induction entries with
  | nil => exact .inl (List.mem_singleton.mp there)
  | cons e' rest ih =>
    obtain ⟨k, v⟩ := e'
    unfold insertEntry at there
    split_ifs at there with before same
    · exact List.mem_cons.mp there
    · rcases List.mem_cons.mp there with rfl | later
      · exact .inl rfl
      · exact .inr (List.mem_cons_of_mem _ later)
    · rcases List.mem_cons.mp there with rfl | later
      · exact .inr List.mem_cons_self
      · exact (ih later).imp_right (List.mem_cons_of_mem _)

theorem mem_of_mem_sortEntries {more : List (String × α)} {e : String × α}
    (there : e ∈ sortEntries more) : e ∈ more := by
  have each : ∀ (more before : List (String × α)),
      e ∈ more.foldl (fun acc (k, v) => insertEntry k v acc) before → e ∈ before ∨ e ∈ more := by
    intro more
    induction more with
    | nil => exact fun before there => .inl there
    | cons e' more ih =>
      intro before there
      rcases ih _ there with early | later
      · rcases mem_of_mem_insertEntry early with rfl | early
        · exact .inr List.mem_cons_self
        · exact .inl early
      · exact .inr (List.mem_cons_of_mem _ later)
  exact (each more [] there).resolve_left List.not_mem_nil

theorem lookup_foldl_insertEntry {more : List (String × α)} (distinct : (more.map (·.1)).Nodup)
    (k : String) :
    (more.foldl (fun acc (k, v) => insertEntry k v acc) entries).lookup k =
      (more.lookup k).or (entries.lookup k) := by
  induction more generalizing entries with
  | nil => rfl
  | cons e more ih =>
    obtain ⟨k', v'⟩ := e
    rw [List.map_cons, List.nodup_cons] at distinct
    rw [List.foldl_cons, ih distinct.2, lookup_insertEntry, lookup_cons]
    by_cases same : k = k'
    · subst same
      have gone : more.lookup k = none := by
        refine Option.eq_none_iff_forall_ne_some.mpr fun v found => distinct.1 ?_
        exact List.mem_map.mpr ⟨_, mem_of_lookup found, rfl⟩
      simp [gone]
    · simp [same]

/-- Where the keys differ, sorting loses no entry. -/
theorem lookup_sortEntries {more : List (String × α)} (distinct : (more.map (·.1)).Nodup)
    (k : String) : (sortEntries more).lookup k = more.lookup k := by
  rw [sortEntries, lookup_foldl_insertEntry distinct, List.lookup_nil, Option.or_none]

/-- Entries whose keys differ are sorted alike in whatever order they come. -/
theorem sortEntries_perm {es es' : List (String × α)} (distinct : (es.map (·.1)).Nodup)
    (perm : es.Perm es') : sortEntries es = sortEntries es' := by
  have distinct' : (es'.map (·.1)).Nodup := (perm.map _).nodup_iff.mp distinct
  have sorted := sorted_sortEntries es
  have sorted' := sorted_sortEntries es'
  have same : ∀ e, e ∈ sortEntries es ↔ e ∈ sortEntries es' := fun (k, v) => by
    rw [← lookup_eq_some_iff sorted.nodup, ← lookup_eq_some_iff sorted'.nodup,
      lookup_sortEntries distinct, lookup_sortEntries distinct', lookup_eq_some_iff distinct,
      lookup_eq_some_iff distinct', perm.mem_iff]
  have shuffled := (List.perm_ext_iff_of_nodup (List.Nodup.of_map _ sorted.nodup)
    (List.Nodup.of_map _ sorted'.nodup)).mpr same
  exact shuffled.eq_of_pairwise (fun a b _ _ before after => absurd before (lt_asymm after))
    (List.pairwise_map.mp sorted) (List.pairwise_map.mp sorted')

theorem foldl_insertEntry_of_sorted {more : List (String × α)} (sorted : Ascending (entries ++ more)) :
    more.foldl (fun acc (k, v) => insertEntry k v acc) entries = entries ++ more := by
  induction more generalizing entries with
  | nil => rw [List.foldl_nil, List.append_nil]
  | cons e more ih =>
    obtain ⟨k, v⟩ := e
    have last : ∀ k' ∈ entries.map (·.1), k' < k := by
      intro k' there
      unfold Ascending at sorted
      rw [List.map_append, List.pairwise_append] at sorted
      exact sorted.2.2 k' there k List.mem_cons_self
    have joined : entries ++ (k, v) :: more = entries ++ [(k, v)] ++ more := by simp
    rw [joined, List.foldl_cons]
    dsimp only
    rw [insertEntry_of_last last]
    exact ih (joined ▸ sorted)

/-- Sorted entries stay as they are. -/
theorem sortEntries_of_sorted (sorted : Ascending entries) : sortEntries entries = entries := by
  have whole : Ascending ([] ++ entries) := sorted
  exact foldl_insertEntry_of_sorted whole

end Json

end ApiGateway
