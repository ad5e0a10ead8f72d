import ApiGateway.Reading.Basic
import ApiGateway.Proofs.Json.Entries
import Mathlib.Data.List.Nodup

/-
Entries under keys, in the order in which the keys came.

An entry that is put in goes to the end or takes the place of the one with its key
(`Reading.mem_putEntry`, `Reading.map_fst_putEntry`), so that no key ever comes twice
(`Reading.nodup_foldl_putEntry`) and the new entry is found (`Reading.lookup_putEntry`). Entries
whose keys differ stay as they are (`Reading.foldl_putEntry_of_nodup`).
-/

namespace ApiGateway.Reading

variable {α β : Type} [DecidableEq α] {entries : List (α × β)} {key : α} {value : β}

/-- What is put in is there, with the entries of other keys. -/
theorem mem_putEntry {e : α × β} :
    e ∈ putEntry entries key value ↔ e = (key, value) ∨ e ∈ entries ∧ e.1 ≠ key := by
  unfold putEntry
  split
  · rename_i present
    obtain ⟨old, old_mem, old_key⟩ := List.any_eq_true.mp present
    constructor
    · intro he
      obtain ⟨e', he', rfl⟩ := List.mem_map.mp he
      by_cases same : e'.1 = key
      · exact .inl (if_pos same)
      · rw [if_neg same]
        exact .inr ⟨he', same⟩
    · rintro (rfl | ⟨he, other⟩)
      · exact List.mem_map.mpr ⟨old, old_mem, if_pos (of_decide_eq_true old_key)⟩
      · exact List.mem_map.mpr ⟨e, he, if_neg other⟩
  · rename_i missing
    have others : ∀ e ∈ entries, e.1 ≠ key := fun e he same =>
      missing (List.any_eq_true.mpr ⟨e, he, decide_eq_true same⟩)
    rw [List.mem_append, List.mem_singleton, or_comm]
    exact or_congr_right ⟨fun he => ⟨he, others e he⟩, And.left⟩

theorem map_fst_putEntry :
    (putEntry entries key value).map Prod.fst =
      if key ∈ entries.map Prod.fst then entries.map Prod.fst
      else entries.map Prod.fst ++ [key] := by
  have present : (entries.any (·.1 = key) = true) ↔ key ∈ entries.map Prod.fst := by
    simp [List.mem_map]
  unfold putEntry
  by_cases there : key ∈ entries.map Prod.fst
  · rw [if_pos (present.mpr there), if_pos there, List.map_map]
    refine List.map_congr_left fun e _ => ?_
    by_cases same : e.1 = key
    · rw [Function.comp_apply, if_pos same, same]
    · rw [Function.comp_apply, if_neg same]
  · rw [if_neg (mt present.mp there), if_neg there, List.map_append]
    rfl

/-- Keys that differ still do when an entry is put in. -/
theorem nodup_putEntry (differ : (entries.map Prod.fst).Nodup) :
    ((putEntry entries key value).map Prod.fst).Nodup := by
  rw [map_fst_putEntry]
  split
  · exact differ
  · rename_i missing
    exact List.nodup_append.mpr ⟨differ, List.nodup_singleton key,
      fun k hk k' hk' same => missing (List.mem_singleton.mp hk' ▸ same ▸ hk)⟩

theorem putEntry_of_missing (missing : key ∉ entries.map Prod.fst) :
    putEntry entries key value = entries ++ [(key, value)] := by
  have absent : ¬(entries.any (·.1 = key) = true) := by
    simpa [List.mem_map] using missing
  exact if_neg absent

/-- A value that replaces the one of its key is found there, and nothing else changes. -/
theorem lookup_replaced (k : α) :
    (entries.map fun e => if e.1 = key then (key, value) else e).lookup k =
      if k = key ∧ key ∈ entries.map Prod.fst then some value else entries.lookup k := by
  induction entries with
  | nil => simp
  | cons e rest ih =>
    obtain ⟨k', v⟩ := e
    simp only [List.map_cons, List.mem_cons, Json.lookup_cons]
    by_cases taken : k' = key
    · subst taken
      rw [if_pos rfl, Json.lookup_cons, ih]
      by_cases same : k = k' <;> simp [same]
    · rw [if_neg taken, Json.lookup_cons, ih]
      by_cases same : k = key
      · subst same
        grind
      · simp [same]

/-- An entry that is put in is found under its key, and nothing else changes. -/
theorem lookup_putEntry (k : α) :
    (putEntry entries key value).lookup k = if k = key then some value else entries.lookup k := by
  by_cases there : key ∈ entries.map Prod.fst
  · have present : entries.any (·.1 = key) = true := by
      simpa [List.mem_map] using there
    rw [putEntry, if_pos present, lookup_replaced]
    simp [there]
  · rw [putEntry_of_missing there, List.lookup_append, Json.lookup_cons]
    by_cases same : k = key
    · subst same
      have absent : entries.lookup k = none := by
        refine List.lookup_eq_none_iff.mpr fun e he => bne_iff_ne.mpr ?_
        rintro rfl
        exact there (List.mem_map_of_mem he)
      rw [absent, if_pos rfl, if_pos rfl]
      rfl
    · simp [same]

/-! ### Several entries, one after another -/

theorem nodup_foldl_putEntry (differ : (entries.map Prod.fst).Nodup) (more : List (α × β)) :
    ((more.foldl (fun es (k, v) => putEntry es k v) entries).map Prod.fst).Nodup := by
  induction more generalizing entries with
  | nil => exact differ
  | cons e more ih => exact ih (nodup_putEntry differ)

/-- What is there was there before or has been put in. -/
theorem mem_foldl_putEntry {more : List (α × β)} {e : α × β}
    (there : e ∈ more.foldl (fun es (k, v) => putEntry es k v) entries) :
    e ∈ entries ∨ e ∈ more := by
  induction more generalizing entries with
  | nil => exact .inl there
  | cons e' more ih =>
    rcases ih there with before | later
    · rcases mem_putEntry.mp before with rfl | ⟨before, -⟩
      · exact .inr List.mem_cons_self
      · exact .inl before
    · exact .inr (List.mem_cons_of_mem _ later)

/-- Entries whose keys all differ are put one behind the other. -/
theorem foldl_putEntry_of_nodup {more : List (α × β)}
    (differ : ((entries ++ more).map Prod.fst).Nodup) :
    more.foldl (fun es (k, v) => putEntry es k v) entries = entries ++ more := by
  induction more generalizing entries with
  | nil => exact (List.append_nil entries).symm
  | cons e more ih =>
    obtain ⟨k, v⟩ := e
    have missing : k ∉ entries.map Prod.fst := by
      rw [List.map_append, List.nodup_append] at differ
      exact fun there => differ.2.2 k there k List.mem_cons_self rfl
    have joined : entries ++ (k, v) :: more = entries ++ [(k, v)] ++ more := by simp
    rw [joined] at differ ⊢
    rw [List.foldl_cons]
    dsimp only
    rw [putEntry_of_missing missing]
    exact ih differ

end ApiGateway.Reading
