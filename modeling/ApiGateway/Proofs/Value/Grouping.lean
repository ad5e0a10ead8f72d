import ApiGateway.Proofs.Attempts
import ApiGateway.Proofs.Json.Parts
import ApiGateway.Proofs.Reading.Keyed
import ApiGateway.Value.Params

/-
What is kept of the values that a request brings.

The values come in groups under the names of their sources. Of the groups of one source the last
counts, and what the others bring is lost. As only the queries have two names, only the values of
`queries` can be lost, and only where there are those of `query` as well.

* `ParamSource.Named` - the names of a source.
* `RawParams.Keeps` - a value is found under its name; a header is found under a name in any case.
* `RawParams.LastGroup` - the group of a source behind which there is no other of it.
* `RawParams.readGroup_eq_ok_iff`, `RawParams.lastGroup_ofJson` - what one group and what all of
  them leave behind.
* `RawParams.exists_ofJson_iff` - the values that are accepted.
* `RawParams.keeps_ofJson_iff` - which of them are kept.
-/

namespace ApiGateway

namespace ParamSource

/-- The names of a source. -/
inductive Named : ParamSource → String → Prop
  | own (source : ParamSource) : Named source source.name
  | query : Named .queries "query"

variable {source : ParamSource} {key : String}

theorem named_iff : Named source key ↔ key = source.name ∨ source = .queries ∧ key = "query" := by
  constructor
  · intro named
    cases named with
    | own => exact .inl rfl
    | query => exact .inr ⟨rfl, rfl⟩
  · rintro (rfl | ⟨rfl, rfl⟩)
    · exact .own source
    · exact .query

theorem ofName?_eq_some_iff : ofName? key = some source ↔ Named source key := by
  rw [named_iff, ofName?]
  by_cases second : key = "query"
  · subst second
    cases source <;> simp [name]
  · rw [if_neg (mt beq_iff_eq.mp second)]
    constructor
    · intro found
      have own := List.find?_some found
      exact .inl (beq_iff_eq.mp own).symm
    · rintro (rfl | ⟨-, same⟩)
      · cases source <;> rfl
      · exact absurd same second

/-- A name stands for one source. -/
theorem Named.unique {other : ParamSource} (own : Named source key) (named : Named other key) :
    source = other := by
  rw [← ofName?_eq_some_iff] at own named
  exact Option.some.inj (own.symm.trans named)

end ParamSource

theorem Text.eqIgnoringCase_iff {s t : String} :
    Text.eqIgnoringCase s t = true ↔ s.toList.map Char.toLower = t.toList.map Char.toLower := by
  rw [Text.eqIgnoringCase, beq_iff_eq, Text.lowerAscii, Text.lowerAscii, String.ofList_inj]

namespace RawParams

variable {ps ps' : RawParams} {source : ParamSource} {key : String}
  {values : List (String × Json)} {groups : List (String × Json)}

/-- A value of a group of a source is found under its name. Of headers it is the value of some name
of the group that differs in case only. -/
def Keeps (ps : RawParams) (source : ParamSource) (values : List (String × Json)) (name : String)
    (w : Json) : Prop :=
  match source with
  | .header => ∃ name' w', (name', w') ∈ values ∧
      name'.toList.map Char.toLower = name.toList.map Char.toLower ∧
      ps.get? .header name = some w'
  | _ => ps.get? source name = some w

/-- The group of a source behind which there is no other of it. -/
def LastGroup (groups : List (String × Json)) (source : ParamSource)
    (values : List (String × Json)) : Prop :=
  ∃ before key after, groups = before ++ (key, .object values) :: after ∧ source.Named key ∧
    ∀ e ∈ after, ¬source.Named e.1

/-! ### One group -/

theorem readGroup_eq_ok_iff {v : Json} : ps.readGroup key v = .ok ps' ↔
    ∃ source values, source.Named key ∧ v = .object values ∧ ps' = ps.putGroup source values := by
  unfold readGroup
  cases named : ParamSource.ofName? key with
  | none =>
    refine ⟨nofun, ?_⟩
    rintro ⟨source, values, own, -⟩
    rw [← ParamSource.ofName?_eq_some_iff, named] at own
    cases own
  | some source =>
    constructor
    · intro read
      cases v with
      | object values =>
        cases read
        exact ⟨source, values, ParamSource.ofName?_eq_some_iff.mp named, rfl, rfl⟩
      | _ => cases read
    · rintro ⟨source', values, own, rfl, rfl⟩
      rw [← ParamSource.ofName?_eq_some_iff, named] at own
      cases own
      rfl

/-- Whether a group is accepted does not depend on those before it. -/
theorem readGroup_apart (ps : RawParams) (e : String × Json) :
    ∃ f, ps.readGroup e.1 e.2 = (readGroup {} e.1 e.2).map f := by
  obtain ⟨key, v⟩ := e
  unfold readGroup
  cases ParamSource.ofName? key with
  | none => exact ⟨id, rfl⟩
  | some source =>
    cases v with
    | object values => exact ⟨fun _ => ps.putGroup source values, rfl⟩
    | _ => exact ⟨id, rfl⟩

theorem group?_putGroup (other : ParamSource) :
    (ps.putGroup source values).group? other =
      if other = source then some values else ps.group? other :=
  Reading.lookup_putEntry other

/-! ### All groups -/

/-- An object is accepted when each key names a source and has an object. -/
theorem exists_ofJson_iff {v : Json} : (∃ ps, ofJson v = .ok ps) ↔
    ∃ groups, v = .object groups ∧
      ∀ e ∈ groups, ∃ source values, ParamSource.Named source e.1 ∧ e.2 = .object values := by
  constructor
  · rintro ⟨ps, read⟩
    cases v with
    | object groups =>
      refine ⟨groups, rfl, fun e there => ?_⟩
      obtain ⟨ps', alone⟩ := (exists_foldlM_iff readGroup_apart {}).mp ⟨ps, read⟩ e there
      obtain ⟨source, values, named, same, -⟩ := readGroup_eq_ok_iff.mp alone
      exact ⟨source, values, named, same⟩
    | _ => cases read
  · rintro ⟨groups, rfl, each⟩
    apply (exists_foldlM_iff readGroup_apart {}).mpr
    intro e there
    obtain ⟨source, values, named, same⟩ := each e there
    exact ⟨_, readGroup_eq_ok_iff.mpr ⟨source, values, named, same, rfl⟩⟩

theorem LastGroup.cons (e : String × Json) (last : LastGroup groups source values) :
    LastGroup (e :: groups) source values := by
  obtain ⟨before, key, after, rfl, named, others⟩ := last
  exact ⟨e :: before, key, after, rfl, named, others⟩

/-- Of a source the last group is left behind; where it has none, what was there stays. -/
theorem lastGroup_foldlM
    (read : groups.foldlM (fun ps (key, v) => ps.readGroup key v) ps = .ok ps') :
    (∃ values, LastGroup groups source values ∧ ps'.group? source = some values) ∨
      (∀ e ∈ groups, ¬source.Named e.1) ∧ ps'.group? source = ps.group? source := by
  induction groups generalizing ps with
  | nil =>
    cases read
    exact .inr ⟨nofun, rfl⟩
  | cons e rest ih =>
    obtain ⟨key, v⟩ := e
    rw [List.foldlM_cons, bind_eq_ok_iff] at read
    obtain ⟨between, first, read⟩ := read
    obtain ⟨other, values, own, rfl, rfl⟩ := readGroup_eq_ok_iff.mp first
    rcases ih read with ⟨later, last, found⟩ | ⟨nowhere, kept⟩
    · exact .inl ⟨later, last.cons _, found⟩
    · rw [group?_putGroup] at kept
      by_cases same : source = other
      · subst same
        rw [if_pos rfl] at kept
        exact .inl ⟨values, ⟨[], key, rest, rfl, own, nowhere⟩, kept⟩
      · rw [if_neg same] at kept
        refine .inr ⟨List.forall_mem_cons.mpr ⟨fun named => same ?_, nowhere⟩, kept⟩
        exact named.unique own

theorem lastGroup_ofJson {v : Json} (read : ofJson (.object groups) = .ok ps)
    (named : source.Named key) (there : (key, v) ∈ groups) :
    ∃ values, LastGroup groups source values ∧ ps.group? source = some values := by
  rcases lastGroup_foldlM read with last | ⟨nowhere, -⟩
  · exact last
  · exact absurd named (nowhere _ there)

/-- Keys ascend, and so the last group of a source is the only one, or that of `query` behind that
of `queries`. -/
theorem LastGroup.eq_or {others : List (String × Json)} (sorted : Json.Ascending groups)
    (last : LastGroup groups source others) (named : source.Named key)
    (there : (key, .object values) ∈ groups) :
    others = values ∨ key = "queries" ∧ ("query", .object others) ∈ groups := by
  obtain ⟨before, key', after, rfl, named', nowhere⟩ := last
  have there' : (key', Json.object others) ∈ before ++ (key', .object others) :: after := by simp
  by_cases same : key' = key
  · subst same
    rw [← Json.lookup_eq_some_iff sorted.nodup] at there there'
    rw [there] at there'
    cases there'
    exact .inl rfl
  · right
    rw [ParamSource.named_iff] at named named'
    rcases named with rfl | ⟨rfl, rfl⟩
    · rcases named' with rfl | ⟨rfl, rfl⟩
      · exact absurd rfl same
      · exact ⟨rfl, there'⟩
    · rcases named' with rfl | ⟨-, rfl⟩
      · -- the group of `query` is before that of `queries` or behind it, and can be neither
        exfalso
        unfold Json.Ascending at sorted
        rw [List.map_append, List.pairwise_append] at sorted
        rcases List.mem_append.mp there with early | late
        · have ahead : "query" < "queries" :=
            sorted.2.2 _ (List.mem_map_of_mem early) _ List.mem_cons_self
          exact absurd ahead (by decide)
        · rcases List.mem_cons.mp late with first | late
          · have same : "query" = "queries" := congrArg Prod.fst first
            exact absurd same (by decide)
          · exact nowhere _ late .query
      · exact absurd rfl same

theorem LastGroup.eq_query {others : List (String × Json)} (sorted : Json.Ascending groups)
    (last : LastGroup groups .queries others) (there : ("query", .object values) ∈ groups) :
    others = values := by
  rcases last.eq_or sorted .query there with same | ⟨same, -⟩
  · exact same
  · exact absurd same (by decide)

/-! ### Values -/

theorem get?_of_group? (found : ps.group? source = some values) (plain : source ≠ .header)
    (name : String) : ps.get? source name = values.lookup name := by
  unfold get?
  rw [found]
  cases source <;> first | rfl | exact absurd rfl plain

theorem keeps_header (found : ps.group? .header = some values) {name : String} {w : Json}
    (there : (name, w) ∈ values) : ps.Keeps .header values name w := by
  have any : (values.find? fun (k, _) => Text.eqIgnoringCase k name).isSome := by
    rw [List.find?_isSome]
    exact ⟨_, there, Text.eqIgnoringCase_iff.mpr rfl⟩
  obtain ⟨⟨name', w'⟩, first⟩ := Option.isSome_iff_exists.mp any
  have alike := List.find?_some first
  refine ⟨name', w', List.mem_of_find?_eq_some first, Text.eqIgnoringCase_iff.mp alike, ?_⟩
  unfold get?
  rw [found]
  simp [first]

/-- Where a group of a source has been left behind, a value of another source than the headers is
kept when it is in that group. -/
theorem keeps_iff_mem {others : List (String × Json)} (found : ps.group? source = some others)
    (sorted : Json.Ascending others) (plain : source ≠ .header) {name : String} {w : Json} :
    ps.Keeps source values name w ↔ (name, w) ∈ others := by
  rw [← Json.lookup_eq_some_iff sorted.nodup, ← get?_of_group? found plain]
  cases source <;> first | rfl | exact absurd rfl plain

/-- Each key of an object that is accepted names a source and has an object. A value of it is kept,
unless it is one of `queries` and there is `query` as well: then it is kept when `query` has the
same value under the same name. -/
theorem keeps_ofJson_iff {v : Json} (sorted : v.Sorted) (read : ofJson v = .ok ps) :
    ∃ groups, v = .object groups ∧
      (∀ e ∈ groups, ∃ source values, ParamSource.Named source e.1 ∧ e.2 = .object values) ∧
      ∀ source key values, ParamSource.Named source key → (key, .object values) ∈ groups →
        ∀ name w, (name, w) ∈ values →
          (ps.Keeps source values name w ↔ ∀ others, key = "queries" →
            ("query", .object others) ∈ groups → (name, w) ∈ others) := by
  obtain ⟨groups, rfl, each⟩ := exists_ofJson_iff.mp ⟨ps, read⟩
  obtain ⟨ascending, inside⟩ := Json.sorted_object.mp sorted
  have ascends : ∀ key values, (key, Json.object values) ∈ groups → Json.Ascending values :=
    fun _ _ there => (Json.sorted_object.mp (inside _ there)).1
  refine ⟨groups, rfl, each, fun source key values named there name w inGroup => ?_⟩
  obtain ⟨others, last, found⟩ := lastGroup_ofJson read named there
  have ordered : Json.Ascending others := by
    obtain ⟨before, key', after, rfl, -, -⟩ := last
    exact ascends key' others (by simp)
  by_cases header : source = .header
  · subst header
    have other : key ≠ "queries" := by
      rintro rfl
      cases named.unique (.own .queries)
    rcases last.eq_or ascending named there with rfl | ⟨first, -⟩
    · exact iff_of_true (keeps_header found inGroup) fun _ first => absurd first other
    · exact absurd first other
  · rw [keeps_iff_mem found ordered header]
    constructor
    · rintro kept others' rfl second
      cases named.unique (.own .queries)
      rwa [← last.eq_query ascending second]
    · intro all
      rcases last.eq_or ascending named there with rfl | ⟨first, second⟩
      · exact inGroup
      · exact all others first second

/-- Queries under both of their names. -/
def paged : Json :=
  .object [("queries", .object [("page", .int 2)]), ("query", .object [("lang", .string "en")])]

theorem sorted_paged : paged.Sorted := by
  intro es there
  simp only [paged, Json.int, Json.parts, Json.partsOfEntries, List.append_nil, List.mem_cons,
    List.mem_append, List.not_mem_nil, Json.object.injEq, reduceCtorEq, or_false] at there
  rcases there with rfl | rfl | rfl
  · exact List.Pairwise.cons (by decide) (List.pairwise_singleton _ _)
  · exact List.pairwise_singleton _ _
  · exact List.pairwise_singleton _ _

/-- The language is kept. -/
theorem keeps_ofJson_iff_paged : ∃ ps, ofJson paged = .ok ps ∧ paged.Sorted ∧
    ps.Keeps .queries [("lang", .string "en")] "lang" (.string "en") := by
  refine ⟨_, rfl, sorted_paged, ?_⟩
  obtain ⟨groups, same, -, kept⟩ := keeps_ofJson_iff sorted_paged rfl
  cases same
  refine (kept .queries "query" _ .query (by simp) _ _ List.mem_cons_self).mpr ?_
  intro others first
  exact absurd first (by decide)

/-- The page is lost, though the object is accepted. -/
theorem not_keeps_paged : ∃ ps, ofJson paged = .ok ps ∧
    ¬ps.Keeps .queries [("page", .int 2)] "page" (.int 2) := by
  refine ⟨_, rfl, ?_⟩
  intro found
  cases found

end RawParams

end ApiGateway
