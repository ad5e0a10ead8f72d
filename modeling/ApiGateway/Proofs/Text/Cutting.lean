import ApiGateway.Text.Blank
import ApiGateway.Text.Split
import Mathlib.Data.List.DropRight

/-
Texts that are cut, and texts that are trimmed.

* `Text.splitAt_eq_iff` - the parts of a text are the texts without the separator that make it up
  when they are joined by the separator.
* `Text.splitOnce?_eq_some_iff`, `Text.splitOnce?_eq_none_iff` - the first occurrence of a character.
* `Text.trim_trim`, `Text.trim_eq_nil_iff` - trimming leaves nothing to trim, and nothing of blanks.
-/

namespace ApiGateway.Text

/-! ### Parts -/

variable {sep : Char} {cs : List Char}

theorem splitAt_eq (sep : Char) (cs : List Char) : splitAt sep cs = cs.splitOn sep := by
  induction cs with
  | nil => simp [splitAt]
  | cons c cs ih =>
    rw [splitAt, ih, List.splitOn_cons_eq_if_modifyHead]
    by_cases same : c = sep
    · simp [same]
    · cases parts : cs.splitOn sep with
      | nil => exact absurd parts (List.splitOn_ne_nil sep cs)
      | cons part parts => simp [same]

theorem splitAt_ne_nil (sep : Char) (cs : List Char) : splitAt sep cs ≠ [] := by
  rw [splitAt_eq]
  exact List.splitOn_ne_nil sep cs

/-- No part of a text holds the separator. -/
theorem not_mem_of_mem_splitAt {part : List Char} (h : part ∈ splitAt sep cs) : sep ∉ part := by
  induction cs generalizing part with
  | nil =>
    obtain rfl : part = [] := by simpa [splitAt] using h
    simp
  | cons c cs ih =>
    rw [splitAt] at h
    split at h
    · rcases List.mem_cons.mp h with rfl | later
      · simp
      · exact ih later
    · next other =>
      split at h
      · next first parts split =>
        rw [split] at ih
        rcases List.mem_cons.mp h with rfl | later
        · simp [Ne.symm other, ih List.mem_cons_self]
        · exact ih (List.mem_cons_of_mem _ later)
      · next none => exact absurd none (splitAt_ne_nil sep cs)

theorem splitAt_eq_iff {parts : List (List Char)} : splitAt sep cs = parts ↔
    parts ≠ [] ∧ (∀ part ∈ parts, sep ∉ part) ∧ [sep].intercalate parts = cs := by
  constructor
  · rintro rfl
    refine ⟨splitAt_ne_nil sep cs, fun part => not_mem_of_mem_splitAt, ?_⟩
    rw [splitAt_eq]
    exact List.intercalate_splitOn sep
  · rintro ⟨some, clean, rfl⟩
    rw [splitAt_eq]
    exact List.splitOn_intercalate sep clean some

/-- A text that is joined starts with its first part. -/
theorem prefix_intercalate (sep part : List Char) (parts : List (List Char)) :
    part <+: sep.intercalate (part :: parts) := by
  cases parts with
  | nil => simp
  | cons next parts =>
    rw [List.intercalate_cons_cons, List.append_assoc]
    exact List.prefix_append _ _

/-! ### The first occurrence -/

theorem splitOnce?_eq_none_iff : splitOnce? sep cs = none ↔ sep ∉ cs := by
  induction cs with
  | nil => simp [splitOnce?]
  | cons c cs ih =>
    rw [splitOnce?]
    by_cases same : c = sep
    · simp [same]
    · simp [same, ih, Ne.symm same]

theorem splitOnce?_eq_some_iff {before after : List Char} :
    splitOnce? sep cs = some (before, after) ↔ cs = before ++ sep :: after ∧ sep ∉ before := by
  induction cs generalizing before after with
  | nil => simp [splitOnce?]
  | cons c cs ih =>
    rw [splitOnce?]
    by_cases same : c = sep
    · subst same
      cases before with
      | nil => simp
      | cons b before =>
        simp only [if_true, List.cons_append]
        constructor
        · nofun
        · rintro ⟨split, clean⟩
          simp_all
    · cases before with
      | nil => simp [same]
      | cons b before =>
        simp only [same, if_false, Option.map_eq_some_iff, Prod.exists, Prod.mk.injEq, ih,
          List.cons_append, List.cons.injEq, List.mem_cons, not_or]
        constructor
        · rintro ⟨before, after, ⟨rfl, clean⟩, ⟨rfl, rfl⟩, rfl⟩
          exact ⟨⟨rfl, rfl⟩, Ne.symm same, clean⟩
        · rintro ⟨⟨rfl, rfl⟩, -, clean⟩
          exact ⟨before, after, ⟨rfl, clean⟩, ⟨rfl, rfl⟩, rfl⟩

/-! ### Trimming -/

theorem trimEnd_eq (cs : List Char) : trimEnd cs = cs.rdropWhile isBlank := rfl

theorem trim_eq_nil_iff : trim cs = [] ↔ ∀ c ∈ cs, isBlank c = true := by
  rw [trim, trimEnd_eq, List.rdropWhile_eq_nil_iff, trimStart]
  constructor
  · intro blank c hc
    rw [← List.takeWhile_append_dropWhile (p := isBlank) (l := cs), List.mem_append] at hc
    rcases hc with front | rest
    · exact List.mem_takeWhile_imp front
    · exact blank c rest
  · intro blank c hc
    exact blank c ((List.dropWhile_sublist _).subset hc)

theorem mem_of_mem_trim {c : Char} (h : c ∈ trim cs) : c ∈ cs := by
  rw [trim, trimEnd_eq] at h
  exact (List.dropWhile_sublist _).subset ((List.rdropWhile_prefix _ _).subset h)

/-- What is trimmed has no blank at its ends. -/
theorem trim_trim (cs : List Char) : trim (trim cs) = trim cs := by
  have front : trimStart (trim cs) = trim cs := by
    rw [trimStart, List.dropWhile_eq_self_iff]
    intro long
    -- The end that is cut off leaves the first character, which `trimStart` has not dropped.
    obtain ⟨rest, kept⟩ : trim cs <+: trimStart cs := List.rdropWhile_prefix _ _
    have first := List.head?_dropWhile_not isBlank cs
    rw [← trimStart, ← kept, List.head?_append, List.head?_eq_getElem?, List.getElem?_eq_getElem long] at first
    simpa using first
  rw [trim, front, trim, trimEnd_eq, trimEnd_eq, List.rdropWhile_idempotent]

end ApiGateway.Text
