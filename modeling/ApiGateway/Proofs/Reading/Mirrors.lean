import ApiGateway.Proofs.Json.Writing
import ApiGateway.Proofs.Reading.Keyed
import ApiGateway.Reading.Content
import ApiGateway.Reading.Json

/-
Values read back from their trees.

The tree that the text of a value is read as, and the content of that tree, both show the value: each
view gives what the value holds (`mirrors_ofJson`, `mirrors_contentOf`). So a reader gives back
what a writer put into the value when the readers of its parts do so: a list (`Mirrors.listOf?`), a
mapping with distinct keys (`Mirrors.mapOf?`), and a record whose members are written under names
that its reader knows (`Mirrors.members?`).

* `contentOf` - the content of the tree of a value.
* `Mirrors` - the views of the trees of values.
* `Json.present` - the entries of a record of which some may be absent.
-/

namespace ApiGateway

namespace Json

/-- The entries of a record, less those that are absent. -/
def present (slots : List (String × Option Json)) : List (String × Json) :=
  slots.flatMap fun slot => optionalEntry slot.1 slot.2

theorem present_cons_some (k : String) (v : Json) (slots : List (String × Option Json)) :
    present ((k, some v) :: slots) = (k, v) :: present slots := rfl

theorem present_cons_none (k : String) (slots : List (String × Option Json)) :
    present ((k, none) :: slots) = present slots := rfl

theorem mem_present {slots : List (String × Option Json)} {e : String × Json} :
    e ∈ present slots ↔ (e.1, some e.2) ∈ slots := by
  induction slots with
  | nil => simp [present]
  | cons slot slots ih =>
    obtain ⟨k, v⟩ := slot
    cases v with
    | none => rw [present_cons_none, ih, List.mem_cons]; simp
    | some v =>
      rw [present_cons_some, List.mem_cons, List.mem_cons, ih]
      simp [Prod.ext_iff]

/-- A record is well measured when the members that are present are. -/
theorem integral_present {slots : List (String × Option Json)} :
    (Json.object (present slots)).Integral ↔ ∀ slot ∈ slots, ∀ v ∈ slot.2, v.Integral := by
  rw [integral_object]
  constructor
  · rintro all ⟨k, _⟩ there v rfl
    exact all (k, v) (mem_present.mpr there)
  · intro all e there
    exact all _ (mem_present.mp there) e.2 rfl

end Json

namespace Reading

open Json (Node present)

/-! ### Content of values -/

mutual
/-- The content of the tree of a value. -/
def contentOf : Json → Content
  | .null => .null
  | .bool b => .bool b
  | .number (.int (.ofNat n)) => .natural n
  | .number _ => .otherNumber
  | .string s => .text s
  | .array items => .sequence (contentOfItems items)
  | .object entries => .mapping (contentOfEntries entries)

def contentOfItems : List Json → List Content
  | [] => []
  | v :: vs => contentOf v :: contentOfItems vs

def contentOfEntries : List (String × Json) → List (Content × Content)
  | [] => []
  | (k, v) :: es => (.text k, contentOf v) :: contentOfEntries es
end

theorem contentOfItems_eq (items : List Json) : contentOfItems items = items.map contentOf := by
  induction items with
  | nil => rfl
  | cons v vs ih => rw [contentOfItems, ih, List.map_cons]

theorem contentOfEntries_eq (entries : List (String × Json)) :
    contentOfEntries entries = entries.map fun e => (.text e.1, contentOf e.2) := by
  induction entries with
  | nil => rfl
  | cons e es ih => rw [contentOfEntries, ih, List.map_cons]

mutual
theorem contentOfJson?_ofJson (v : Json) : contentOfJson? (Node.ofJson v) = some (contentOf v) := by
  cases v with
  | null | bool | string => rfl
  | number n =>
    match n with
    | .float _ | .int (.ofNat _) | .int (.negSucc _) => rfl
  | array items =>
    rw [Node.ofJson, contentOfJson?, contentOfJsonItems?_ofItems items, Option.map_some, contentOf]
  | object entries =>
    rw [Node.ofJson, contentOfJson?, contentOfJsonEntries?_ofEntries entries, Option.map_some,
      contentOf]

theorem contentOfJsonItems?_ofItems (items : List Json) :
    contentOfJsonItems? (Node.ofItems items) = some (contentOfItems items) := by
  cases items with
  | nil => rfl
  | cons v vs =>
    rw [Node.ofItems, contentOfJsonItems?, contentOfJson?_ofJson v, contentOfJsonItems?_ofItems vs,
      contentOfItems]
    rfl

theorem contentOfJsonEntries?_ofEntries (entries : List (String × Json)) :
    contentOfJsonEntries? (Node.ofEntries entries) = some (contentOfEntries entries) := by
  cases entries with
  | nil => rfl
  | cons e es =>
    cases e with
    | mk k v =>
      rw [Node.ofEntries, contentOfJsonEntries?, contentOfJson?_ofJson v,
        contentOfJsonEntries?_ofEntries es, contentOfEntries]
      rfl
end

/-! ### Views -/

/-- Each view of the tree of a value gives what the value holds. -/
structure Mirrors {ν : Type} [Readable ν Option] (of : Json → ν) : Prop where
  text (s : String) : text? (of (.string s)) = some s
  bool (b : Bool) : bool? (of (.bool b)) = some b
  natural (n : Nat) : natural? (of (Json.nat n)) = some n
  choice (s : String) : choice? (of (.string s)) = some s
  optional (v : Json) (present : v.isNull = false) : Readable.optional? (of v) = some (some (of v))
  items (vs : List Json) : items? (of (.array vs)) = some (vs.map of)
  entries (es : List (String × Json)) :
    entries? (of (.object es)) = some (es.map fun e => (of (.string e.1), of e.2))
  record (es : List (String × Json)) :
    Readable.record? (of (.object es)) =
      some (.labelled (es.map fun e => (Label.name e.1, of e.2)))
  content (v : Json) : content? (of v) = some (contentOf v)

/-- The trees of the members of a record. -/
def memberTrees {ν : Type} (of : Json → ν) (slots : List (String × Option Json)) :
    List (Option ν) :=
  slots.map fun slot => slot.2.map of

/-- Steps over a list that always succeed. -/
theorem mapM_some {α β : Type} {f : α → Option β} {g : α → β} {as : List α}
    (each : ∀ a ∈ as, f a = some (g a)) : as.mapM f = some (as.map g) := by
  induction as with
  | nil => rfl
  | cons a as ih =>
    rw [List.forall_mem_cons] at each
    rw [List.mapM_cons, each.1, ih each.2]
    rfl

theorem mapM_map_some {α β γ : Type} {write : γ → α} {f : α → Option β} {g : γ → β} {cs : List γ}
    (each : ∀ c ∈ cs, f (write c) = some (g c)) : (cs.map write).mapM f = some (cs.map g) :=
  List.mapM_map.trans (mapM_some each)

theorem mirrors_ofJson : Mirrors Node.ofJson where
  text _ := rfl
  bool _ := rfl
  natural _ := rfl
  choice _ := rfl
  optional v present := by cases v <;> first | rfl | cases present
  items vs := congrArg some (Node.ofItems_eq vs)
  entries es := by
    change some ((Node.ofEntries es).map fun e => (Node.string e.1, e.2)) = _
    rw [Node.ofEntries_eq, List.map_map]
    rfl
  record es := by
    change recordOfJson? (.object (Node.ofEntries es)) = _
    have named : (es.map fun e => (some e.1, Node.ofJson e.2)).mapM
        (fun e => do return (Label.name (← e.1), e.2)) =
          some (es.map fun e => (Label.name e.1, Node.ofJson e.2)) :=
      mapM_map_some fun _ _ => rfl
    rw [recordOfJson?, Node.ofEntries_eq]
    exact congrArg (Option.bind · _) named
  content := contentOfJson?_ofJson

theorem mirrors_contentOf : Mirrors contentOf where
  text _ := rfl
  bool _ := rfl
  natural _ := rfl
  choice _ := rfl
  optional v present := by
    rcases v with _ | b | ((_ | _) | x) | s | items | entries <;> first | rfl | cases present
  items vs := congrArg some (contentOfItems_eq vs)
  entries es := congrArg some (contentOfEntries_eq es)
  record es := by
    change Content.record? (.mapping (contentOfEntries es)) = _
    have named : (es.map fun e => (Content.text e.1, contentOf e.2)).mapM
        (fun e => do return (← e.1.label?, e.2)) =
          some (es.map fun e => (Label.name e.1, contentOf e.2)) :=
      mapM_map_some fun _ _ => rfl
    rw [Content.record?, contentOfEntries_eq]
    exact congrArg (Option.bind · _) named
  content _ := rfl

/-! ### Readers of parts -/

namespace Mirrors

variable {ν : Type} [Readable ν Option] {of : Json → ν} (mirrors : Mirrors of) {α β : Type}

include mirrors

theorem optional? {read : ν → Option α} {v : Json} {a : α} (given : read (of v) = some a)
    (present : v.isNull = false) : Reading.optional? read (of v) = some (some a) := by
  rw [Reading.optional?, mirrors.optional v present]
  simp only [Option.bind_eq_bind, Option.bind_some, given, Option.pure_def]

theorem listOf? {read : ν → Option α} {write : α → Json} {as : List α}
    (each : ∀ a ∈ as, read (of (write a)) = some a) :
    Reading.listOf? read (of (.array (as.map write))) = some as := by
  rw [Reading.listOf?, mirrors.items, List.map_map]
  exact (mapM_map_some (g := id) each).trans (congrArg some (List.map_id as))

/-- A mapping whose keys differ is read in its order. -/
theorem mapOf? [DecidableEq β] {readKey : ν → Option β} {read : ν → Option α} (name : β → String)
    (write : α → Json) {es : List (β × α)} (differ : (es.map Prod.fst).Nodup)
    (keys : ∀ e ∈ es, readKey (of (.string (name e.1))) = some e.1)
    (each : ∀ e ∈ es, read (of (write e.2)) = some e.2) :
    Reading.mapOf? readKey read (of (.object (es.map fun e => (name e.1, write e.2)))) =
      some es := by
  have all : ((es.map fun e => (name e.1, write e.2)).map fun e => (of (.string e.1), of e.2)).mapM
      (fun e => do return (← readKey e.1, ← read e.2)) = some es := by
    rw [List.map_map]
    refine (mapM_map_some (g := id) fun e there => ?_).trans (congrArg some (List.map_id es))
    simp only [Function.comp_apply, keys e there, each e there]
    rfl
  have whole : (([] ++ es).map Prod.fst).Nodup := differ
  rw [Reading.mapOf?, mirrors.entries]
  simp only [Option.bind_eq_bind, Option.bind_some] at all ⊢
  rw [all]
  exact congrArg some (foldl_putEntry_of_nodup whole)

/-! Records -/

section Records

variable {names : List (List String)}

omit [Readable ν Option] mirrors in
/-- Members that are written under declared names, from some index on, are found in their order. -/
theorem found_present {slots : List (String × Option Json)} {first : Nat}
    (declared : slots.map (fun slot => memberIndex names (.name slot.1)) =
      (List.range' first slots.length).map some) :
    ∃ found : List (Nat × ν),
      ((present slots).map fun e => (Label.name e.1, of e.2)).filterMap
          (fun m => (memberIndex names m.1).map (·, m.2)) = found ∧
        (found.map (·.1)).Nodup ∧ (∀ i ∈ found.map (·.1), first ≤ i) ∧
        (List.range' first slots.length).map (fun i => found.lookup i) =
          memberTrees of slots := by
  induction slots generalizing first with
  | nil => exact ⟨[], rfl, List.nodup_nil, nofun, rfl⟩
  | cons slot slots ih =>
    obtain ⟨k, v⟩ := slot
    rw [List.length_cons, List.range'_succ, List.map_cons, List.map_cons, List.cons.injEq]
      at declared
    obtain ⟨index, declared⟩ := declared
    obtain ⟨found, eq, nodup, bound, looked⟩ := ih declared
    rw [List.length_cons, List.range'_succ]
    cases v with
    | none =>
      refine ⟨found, eq, nodup, fun i there => Nat.le_of_succ_le (bound i there), ?_⟩
      rw [List.map_cons, looked, memberTrees, memberTrees, List.map_cons, Option.map_none,
        List.cons.injEq]
      refine ⟨List.lookup_eq_none_iff.mpr ?_, rfl⟩
      intro e there
      have later := bound e.1 (List.mem_map.mpr ⟨e, there, rfl⟩)
      exact bne_iff_ne.mpr (by omega)
    | some v =>
      refine ⟨(first, of v) :: found, ?_, ?_, ?_, ?_⟩
      · rw [Json.present_cons_some, List.map_cons, List.filterMap_cons]
        dsimp only
        rw [index, Option.map_some, eq]
      · refine List.nodup_cons.mpr ⟨fun there => ?_, nodup⟩
        exact absurd (bound first there) (Nat.not_succ_le_self first)
      · intro i there
        rcases List.mem_cons.mp there with rfl | later
        · exact Nat.le_refl _
        · exact Nat.le_of_succ_le (bound i later)
      · rw [List.map_cons, List.lookup_cons_self, memberTrees, List.map_cons, Option.map_some,
          ← memberTrees, ← looked, List.cons.injEq]
        refine ⟨rfl, List.map_congr_left fun i there => ?_⟩
        have later := (List.mem_range'_1.mp there).1
        rw [List.lookup_cons, beq_eq_false_iff_ne.mpr (by omega)]

/-- A record whose members are written in the order of their declaration, each under a name that is
declared for it. -/
theorem members? {slots : List (String × Option Json)}
    (declared : slots.map (fun slot => memberIndex names (.name slot.1)) =
      (List.range names.length).map some) :
    Reading.members? names (of (.object (present slots))) =
      some (memberTrees of slots) := by
  have same : names.length = slots.length := by
    have lengths := congrArg List.length declared
    rw [List.length_map, List.length_map, List.length_range] at lengths
    exact lengths.symm
  rw [same, List.range_eq_range'] at declared
  obtain ⟨found, eq, nodup, -, looked⟩ := found_present declared
  rw [Reading.members?, mirrors.record]
  simp only [Option.bind_eq_bind, Option.bind_some]
  rw [eq, if_pos nodup, same, List.range_eq_range', looked]
  rfl

variable {ms : List (Option ν)} {i : Nat} {read : ν → Option α}

theorem optionalMember {write : α → Json} {a : Option α}
    (there : ms[i]? = some ((a.map write).map of)) (given : ∀ a' ∈ a, read (of (write a')) = some a')
    (present : ∀ a' ∈ a, (write a').isNull = false) :
    Reading.optionalMember ms i read = some a := by
  rw [Reading.optionalMember, Reading.memberD, there]
  cases a with
  | none => rfl
  | some a => exact mirrors.optional? (given a rfl) (present a rfl)

end Records

end Mirrors

end Reading

end ApiGateway
