import ApiGateway.Validation.Document
import ApiGateway.Proofs.Value.Binding
import ApiGateway.Proofs.Value.Normalising

/-
Names that several groups of parameters declare.

A warning tells of each group that declares a name again, with the group before it whose declaration
it replaces (`ParamGroups.Redeclares`). Nothing else makes the order of declaration matter: the loop
that binds the parameters overwrites and drops what it bound before, and stops at the first that is
refused, but where every name is declared once nothing is ever overwritten or dropped, and which of
the refused ones comes first only shows in the error. So an endpoint without a warning has the same
parameters, or none, in whatever order its groups and their members are declared
(`Document.warns_shared`).

* `ParamGroups.Redeclares`, `SharedName` - what the warnings tell.
* `ParamGroups.Rearranged` - the same groups in another order.
* `ParamGroups.repeats` - what an endpoint is warned of; `ParamGroups.Distinct.repeated_iff` - that
  this is what is declared again.
* `ParamBinder.value?_perm` - the order of names declared once makes no difference.
-/

namespace ApiGateway

/-! ### Rearranged groups -/

namespace ParamGroups

variable {gs gs' : ParamGroups} {source earlier : ParamSource} {name : String} {m : Member}

/-- The same groups in another order, with the same members, in another order too. -/
def Rearranged (gs gs' : ParamGroups) : Prop :=
  ∃ between, List.Forall₂ (fun g h => g.1 = h.1 ∧ g.2.Perm h.2) gs between ∧ between.Perm gs'

theorem Rearranged.declared_perm (rearranged : gs.Rearranged gs') :
    gs.declared.Perm gs'.declared := by
  obtain ⟨between, within, groups⟩ := rearranged
  refine List.Perm.trans ?_ (groups.flatMap_right _)
  clear groups
  induction within with
  | nil => exact List.Perm.refl _
  | @cons g h gs between here _ ih =>
    obtain ⟨source, own⟩ := g
    obtain ⟨source', own'⟩ := h
    obtain ⟨rfl, members⟩ := here
    exact (members.map _).append ih

end ParamGroups

namespace ParamBinder

variable {b : ParamBinder} {reader : ParamReader} {ds ds' : List (ParamSource × String × Member)}
  {bound bound' : List (String × Variable)}

/-- Where every name is declared once, each is bound as it is declared. -/
theorem mem_bindAll_iff (once : (ds.map (·.2.1)).Nodup) (ran : b.bindAll reader ds = .ok bound)
    {name : String} {x : Variable} : (name, x) ∈ bound ↔
      ∃ d, (d ∈ ds ∧ d.2.1 = name) ∧ b.BindsTo reader d (some x) := by
  simp only [(bindAll_eq_ok ran).2, find?_reverse_eq_some_iff once]

/-- They are bound to the same then in whatever order they are declared. -/
theorem perm_of_bindAll (once : (ds.map (·.2.1)).Nodup) (perm : ds.Perm ds')
    (ran : b.bindAll reader ds = .ok bound) (ran' : b.bindAll reader ds' = .ok bound') :
    bound.Perm bound' := by
  have once' : (ds'.map (·.2.1)).Nodup := (perm.map _).nodup_iff.mp once
  have differ := List.Nodup.of_map _ (bindAll_eq_ok ran).1
  have differ' := List.Nodup.of_map _ (bindAll_eq_ok ran').1
  refine (List.perm_ext_iff_of_nodup differ differ').mpr fun (name, x) => ?_
  rw [mem_bindAll_iff once ran, mem_bindAll_iff once' ran']
  simp only [perm.mem_iff]

/-- The value of an object does not depend on the order of its members. -/
theorem toValue_object_perm (differ : (bound.map (·.1)).Nodup) (perm : bound.Perm bound')
    (m m' : Member) (t t' : DataType) :
    (Variable.object m t bound).toValue = (Variable.object m' t' bound').toValue := by
  rw [Variable.toValue, Variable.toValue, Json.ofEntries, Json.ofEntries]
  refine congrArg Json.object (Json.sortEntries_perm ?_ ?_)
  · rw [Variable.keys_membersToValue]
    exact differ
  · rw [Variable.membersToValue_eq, Variable.membersToValue_eq]
    exact perm.map _

/-- Of a binder only its types matter to the loop. -/
theorem bindAll_congr {b' : ParamBinder} (same : b.types = b'.types) :
    b.bindAll reader ds = b'.bindAll reader ds := by
  obtain ⟨types, gs⟩ := b
  obtain ⟨types', gs'⟩ := b'
  cases same
  rfl

/-- The value of the parameters, if they are bound. -/
def value? (b : ParamBinder) (reader : ParamReader) : Option Json :=
  (b.bind reader).toOption.map Variable.toValue

/-- The order in which parameters are declared makes no difference where every name is declared
once. -/
theorem value?_perm (b b' : ParamBinder) (same : b.types = b'.types)
    (once : (b.declared.map (·.2.1)).Nodup) (perm : b.declared.Perm b'.declared)
    (reader : ParamReader) : b.value? reader = b'.value? reader := by
  unfold value?
  by_cases none : b.declared = []
  · rw [none] at perm
    rw [bind_of_undeclared none, bind_of_undeclared (List.nil_perm.mp perm)]
  · have declares : b'.declared ≠ [] := fun none' => none (List.perm_nil.mp (none' ▸ perm))
    rw [bind_of_declared none, bind_of_declared declares, ← bindAll_congr same]
    have alike : (∃ bound, b.bindAll reader b.declared = .ok bound) ↔
        ∃ bound, b.bindAll reader b'.declared = .ok bound := by
      simp only [exists_bindAll_iff, perm.mem_iff]
    cases ran : b.bindAll reader b.declared with
    | ok bound =>
      obtain ⟨bound', ran'⟩ := alike.mp ⟨bound, ran⟩
      rw [ran']
      exact congrArg some (toValue_object_perm (bindAll_eq_ok ran).1
        (perm_of_bindAll once perm ran ran') _ _ _ _)
    | error e =>
      cases ran' : b.bindAll reader b'.declared with
      | ok bound' =>
        obtain ⟨bound, done⟩ := alike.mpr ⟨bound', ran'⟩
        cases ran.symm.trans done
      | error e' => rfl

end ParamBinder

/-! ### Names declared again -/

section

variable {α β : Type}

/-- What stands in joined lists stands in one of them. -/
theorem split_of_flatMap {f : α → List β} {as : List α} {l r : List β} {b : β}
    (split : as.flatMap f = l ++ b :: r) : ∃ before a after own rest,
      as = before ++ a :: after ∧ f a = own ++ b :: rest ∧ l = before.flatMap f ++ own := by
  induction as generalizing l with
  | nil => cases l <;> cases split
  | cons a as ih =>
    rw [List.flatMap_cons, List.append_eq_append_iff] at split
    rcases split with ⟨l', rfl, split⟩ | ⟨own, here, split⟩
    · obtain ⟨before, a', after, own, rest, rfl, here, rfl⟩ := ih split
      exact ⟨a :: before, a', after, own, rest, rfl, here, by simp⟩
    · cases own with
      | nil =>
        obtain ⟨before, a', after, own, rest, rfl, later, same⟩ := ih (l := []) split.symm
        refine ⟨a :: before, a', after, own, rest, rfl, later, ?_⟩
        rw [List.flatMap_cons, List.append_assoc, ← same, here, List.append_nil, List.append_nil]
      | cons b' own =>
        cases split
        exact ⟨[], a, as, l, own, rfl, here, rfl⟩

/-- What is taken from some elements keeps their order. -/
theorem map_filterMap_sublist {γ : Type} {f : α → Option β} {g : α → γ} {h : β → γ}
    (keeps : ∀ a b, f a = some b → h b = g a) (as : List α) :
    ((as.filterMap f).map h).Sublist (as.map g) := by
  induction as with
  | nil => exact List.Sublist.slnil
  | cons a as ih =>
    rw [List.filterMap_cons, List.map_cons]
    cases taken : f a with
    | none => exact ih.cons _
    | some b =>
      rw [← keeps a b taken]
      exact ih.cons_cons _

end

namespace ParamGroups

variable {gs : ParamGroups} {source earlier : ParamSource} {name : String}

/-- The group declares a name that a group before it declares, the nearest of which is the earlier
one. -/
def Redeclares (gs : ParamGroups) (source : ParamSource) (name : String) (earlier : ParamSource) :
    Prop :=
  ∃ (before : ParamGroups) (own : Members) (after : ParamGroups),
    gs = before ++ (source, own) :: after ∧ name ∈ own.map (·.1) ∧
      ∃ m, before.LastDeclares name earlier m

/-- The declarations whose name was declared before, each with the source where it was last. -/
def repeats (gs : ParamGroups) : List (ParamSource × String × ParamSource) :=
  gs.declared.zipIdx.filterMap fun (d, i) =>
    ((gs.declared.take i).reverse.find? (·.2.1 == d.2.1)).map fun e => (d.1, d.2.1, e.1)

theorem mem_repeats_iff : (source, name, earlier) ∈ gs.repeats ↔
    ∃ before m after, gs.declared = before ++ (source, name, m) :: after ∧
      ∃ own, before.reverse.find? (·.2.1 == name) = some (earlier, name, own) := by
  rw [repeats, List.mem_filterMap]
  constructor
  · rintro ⟨⟨⟨source, name, m⟩, i⟩, there, same⟩
    obtain ⟨⟨earlier, name', own⟩, found, same⟩ := Option.map_eq_some_iff.mp same
    cases same
    obtain rfl : name' = name := beq_iff_eq.mp (List.find?_some found :)
    obtain ⟨inside, at_i⟩ := List.getElem?_eq_some_iff.mp (List.mk_mem_zipIdx_iff_getElem?.mp there)
    refine ⟨gs.declared.take i, m, gs.declared.drop (i + 1), ?_, own, found⟩
    rw [← at_i, ← List.drop_eq_getElem_cons inside, List.take_append_drop]
  · rintro ⟨before, m, after, split, own, found⟩
    refine ⟨((source, name, m), before.length), ?_, ?_⟩
    · rw [List.mk_mem_zipIdx_iff_getElem?, split]
      simp
    · dsimp only
      rw [split, List.take_left]
      exact Option.map_eq_some_iff.mpr ⟨_, found, rfl⟩

/-- Each declaration is among them at most once. -/
theorem repeats_sublist :
    (gs.repeats.map fun t => (t.1, t.2.1)).Sublist (gs.declared.map fun d => (d.1, d.2.1)) := by
  have order : gs.declared.map (fun d => (d.1, d.2.1)) =
      gs.declared.zipIdx.map fun (d, _) => (d.1, d.2.1) := by
    conv_lhs => rw [← List.zipIdx_map_fst 0 gs.declared]
    rw [List.map_map]
    rfl
  rw [order]
  refine map_filterMap_sublist (fun (d, i) t same => ?_) _
  obtain ⟨e, -, rfl⟩ := Option.map_eq_some_iff.mp same
  rfl

theorem Distinct.of_append {before after : ParamGroups}
    (distinct : Distinct (before ++ after)) : before.Distinct := by
  refine ⟨?_, fun g there => distinct.names g (List.mem_append_left _ there)⟩
  have sources := distinct.sources
  rw [List.map_append] at sources
  exact (List.nodup_append.mp sources).1

theorem Distinct.nodup_sources (distinct : gs.Distinct) :
    (gs.declared.map fun d => (d.1, d.2.1)).Nodup := by
  rw [declared, List.map_flatMap, List.nodup_flatMap]
  constructor
  · rintro ⟨source, own⟩ there
    refine List.Nodup.of_map Prod.snd ?_
    rw [List.map_map, List.map_map]
    exact distinct.names _ there
  · refine (List.pairwise_map.mp distinct.sources).imp fun {g h} other d ours theirs => other ?_
    simp only [List.map_map, List.mem_map] at ours theirs
    obtain ⟨_, _, rfl⟩ := ours
    obtain ⟨_, _, same⟩ := theirs
    exact (congrArg Prod.fst same).symm

/-- A name is declared when there is a last group that declares it. -/
theorem Distinct.mem_names_iff (distinct : gs.Distinct) :
    name ∈ gs.declared.map (·.2.1) ↔ ∃ source m, gs.LastDeclares name source m := by
  constructor
  · intro there
    obtain ⟨d, there, named⟩ := List.mem_map.mp there
    have found : (gs.declared.reverse.find? (·.2.1 == name)).isSome :=
      List.find?_isSome.mpr ⟨d, List.mem_reverse.mpr there, beq_iff_eq.mpr named⟩
    obtain ⟨⟨source, name', m⟩, last⟩ := Option.isSome_iff_exists.mp found
    obtain rfl : name' = name := beq_iff_eq.mp (List.find?_some last :)
    exact ⟨source, m, distinct.last_declared_iff.mp last⟩
  · rintro ⟨source, m, last⟩
    have there := List.mem_of_find?_eq_some (distinct.last_declared_iff.mpr last)
    exact List.mem_map.mpr ⟨_, List.mem_reverse.mp there, rfl⟩

/-- What the group itself declares before does not count. -/
theorem find?_before {before : ParamGroups} {ours theirs : Members} {m : Member}
    (names : ((ours ++ (name, m) :: theirs).map (·.1)).Nodup) :
    (before.declared ++ ours.map fun e => (source, e)).reverse.find? (·.2.1 == name) =
      before.declared.reverse.find? (·.2.1 == name) := by
  have missing : name ∉ ours.map (·.1) := by
    rw [List.map_append, List.nodup_append] at names
    exact fun there => names.2.2 name there name List.mem_cons_self rfl
  rw [List.reverse_append, List.find?_append, find?_group_eq_none_iff.mpr missing, Option.none_or]

/-- What is listed is what is declared again. -/
theorem Distinct.repeated_iff (distinct : gs.Distinct) :
    (source, name, earlier) ∈ gs.repeats ↔ gs.Redeclares source name earlier := by
  rw [mem_repeats_iff]
  constructor
  · rintro ⟨_, m, rest, split, m', found⟩
    obtain ⟨before, ⟨source', own⟩, after, first, last, rfl, here, rfl⟩ := split_of_flatMap split
    dsimp only at here
    obtain ⟨ours, others, rfl, rfl, tail⟩ := List.map_eq_append_iff.mp here
    obtain ⟨e, theirs, rfl, same, rfl⟩ := List.map_eq_cons_iff.mp tail
    cases same
    have names := distinct.names _ (List.mem_append_right _ List.mem_cons_self)
    refine ⟨before, _, after, rfl, by simp, m', ?_⟩
    exact distinct.of_append.last_declared_iff.mp ((find?_before names).symm.trans found)
  · rintro ⟨before, own, after, rfl, there, m', last⟩
    obtain ⟨⟨name, m⟩, own_mem, rfl⟩ := List.mem_map.mp there
    obtain ⟨ours, theirs, rfl⟩ := List.append_of_mem own_mem
    have names := distinct.names _ (List.mem_append_right _ List.mem_cons_self)
    refine ⟨before.declared ++ ours.map (fun e => (source, e)), m,
      theirs.map (fun e => (source, e)) ++ declared after, by simp [declared], m', ?_⟩
    exact (find?_before names).trans (distinct.of_append.last_declared_iff.mpr last)

/-- Where nothing is declared again, every name is declared once. -/
theorem Distinct.nodup_names (distinct : gs.Distinct)
    (once : ∀ source name earlier, ¬gs.Redeclares source name earlier) :
    (gs.declared.map (·.2.1)).Nodup := by
  induction gs using List.reverseRecOn with
  | nil => exact List.nodup_nil
  | append_singleton gs g ih =>
    obtain ⟨source, own⟩ := g
    have before := ih distinct.of_append fun source' name earlier again => by
      obtain ⟨before, own', after, rfl, rest⟩ := again
      exact once source' name earlier ⟨before, own', after ++ [(source, own)], by simp, rest⟩
    have last : (declared (gs ++ [(source, own)])).map (·.2.1) =
        (declared gs).map (·.2.1) ++ own.map (·.1) := by simp [declared]
    rw [last, List.nodup_append]
    refine ⟨before, distinct.names (source, own) (by simp), fun name there _ again same => ?_⟩
    subst same
    obtain ⟨earlier, m, declared⟩ := distinct.of_append.mem_names_iff.mp there
    exact once source name earlier ⟨gs, own, [], rfl, again, m, declared⟩

end ParamGroups

/-! ### Warnings -/

/-- A name that a group of an endpoint declares again, and the source of the nearest group before
that declares it. -/
structure SharedName where
  endpoint : Nat
  source : ParamSource
  name : String
  earlier : ParamSource

/-- What is told of it. -/
def SharedName.warning (w : SharedName) : Violation :=
  ⟨itemPath "$.apis" w.endpoint ++ ".params." ++ w.source.name ++ "." ++ w.name,
    "also declared in the '" ++ w.earlier.name ++ "' group; the later group wins"⟩

/-- The names that an endpoint at an index declares again. -/
def Endpoint.sharedNames (e : Endpoint) (i : Nat) : List SharedName :=
  e.params.repeats.map fun (source, name, earlier) => ⟨i, source, name, earlier⟩

theorem Endpoint.warnings_eq (e : Endpoint) (i : Nat) :
    e.warnings (itemPath "$.apis" i) = (e.sharedNames i).map SharedName.warning := by
  have listed : e.declaredParams = e.params.declared.map fun d => (d.1, d.2.1) := by
    simp [declaredParams, ParamGroups.declared, List.map_flatMap, Function.comp_def]
  rw [warnings, listed, sharedNames, ParamGroups.repeats, List.map_map, List.map_filterMap,
    List.zipIdx_map, List.filterMap_map]
  refine List.filterMap_congr fun t _ => ?_
  simp [← List.map_take, ← List.map_reverse, List.find?_map, SharedName.warning, Function.comp_def]

namespace Document

variable {d : Document}

/-- The names that the endpoints declare again, in the order of declaration. -/
def sharedNames (d : Document) : List SharedName :=
  d.endpoints.zipIdx.flatMap fun (e, i) => e.sharedNames i

theorem warnings_eq (d : Document) : d.warnings = d.sharedNames.map SharedName.warning := by
  rw [warnings, sharedNames, List.map_flatMap]
  exact List.flatMap_congr fun (e, i) _ => e.warnings_eq i

theorem mem_sharedNames_iff (distinct : ∀ e ∈ d.endpoints, e.params.Distinct) {w : SharedName} :
    w ∈ d.sharedNames ↔ ∃ e, d.endpoints[w.endpoint]? = some e ∧
      e.params.Redeclares w.source w.name w.earlier := by
  rw [sharedNames, List.mem_flatMap]
  constructor
  · rintro ⟨⟨e, i⟩, at_i, there⟩
    obtain ⟨⟨source, name, earlier⟩, again, rfl⟩ := List.mem_map.mp there
    have at_i := List.mk_mem_zipIdx_iff_getElem?.mp at_i
    have declared := distinct e (List.mem_of_getElem? at_i)
    exact ⟨e, at_i, declared.repeated_iff.mp again⟩
  · rintro ⟨e, at_i, again⟩
    have declared := distinct e (List.mem_of_getElem? at_i)
    refine ⟨(e, w.endpoint), List.mk_mem_zipIdx_iff_getElem?.mpr at_i, ?_⟩
    exact List.mem_map.mpr ⟨_, declared.repeated_iff.mpr again, rfl⟩

theorem nodup_sharedNames (distinct : ∀ e ∈ d.endpoints, e.params.Distinct) :
    (d.sharedNames.map fun w => (w.endpoint, w.source, w.name)).Nodup := by
  rw [sharedNames, List.map_flatMap, List.nodup_flatMap]
  constructor
  · rintro ⟨e, i⟩ at_i
    have there := List.mem_of_getElem? (List.mk_mem_zipIdx_iff_getElem?.mp at_i)
    have once := (distinct e there).nodup_sources.sublist ParamGroups.repeats_sublist
    refine List.Nodup.of_map Prod.snd ?_
    unfold Endpoint.sharedNames
    rw [List.map_map, List.map_map]
    exact once
  · have indices : (d.endpoints.zipIdx.map Prod.snd).Pairwise (· < ·) := by
      rw [List.zipIdx_map_snd]
      exact List.pairwise_lt_range'
    refine (List.pairwise_map.mp indices).imp fun {a b} before k ours theirs => ?_
    obtain ⟨e, i⟩ := a
    obtain ⟨e', j⟩ := b
    simp only [Endpoint.sharedNames, List.map_map, List.mem_map] at ours theirs
    obtain ⟨_, _, rfl⟩ := ours
    obtain ⟨_, _, same⟩ := theirs
    exact absurd (congrArg Prod.fst same).symm before.ne

/-- Every name that a group of an endpoint declares again is warned of once, with the nearest group
before that declares it, and there are no other warnings. The parameters of an endpoint without one
are the same, or are none, in whatever order its groups and their members are declared. -/
theorem warns_shared (distinct : ∀ e ∈ d.endpoints, e.params.Distinct) :
    ∃ shared : List SharedName, d.warnings = shared.map SharedName.warning ∧
      (shared.map fun w => (w.endpoint, w.source, w.name)).Nodup ∧
      (∀ w, w ∈ shared ↔ ∃ e, d.endpoints[w.endpoint]? = some e ∧
        e.params.Redeclares w.source w.name w.earlier) ∧
      ∀ i e, d.endpoints[i]? = some e → (∀ w ∈ shared, w.endpoint ≠ i) →
        ∀ gs, e.params.Rearranged gs → ∀ types reader,
          (ParamBinder.mk types e.params).value? reader =
            (ParamBinder.mk types gs).value? reader := by
  refine ⟨d.sharedNames, d.warnings_eq, nodup_sharedNames distinct,
    fun w => mem_sharedNames_iff distinct, fun i e at_i silent gs rearranged types reader => ?_⟩
  have once := (distinct e (List.mem_of_getElem? at_i)).nodup_names fun source name earlier again =>
    silent ⟨i, source, name, earlier⟩ ((mem_sharedNames_iff distinct).mpr ⟨e, at_i, again⟩) rfl
  exact ParamBinder.value?_perm ⟨types, e.params⟩ ⟨types, gs⟩ rfl once rearranged.declared_perm
    reader

/-- An endpoint that declares an id twice, and one that declares each name once. -/
def listing : Document where
  endpoints := [
    { url := "/a"
      params := [(.header, [("id", { type := .named "string" })]),
        (.body, [("note", { type := .named "string" }), ("id", { type := .named "integer" })])] },
    { url := "/b"
      params := [(.path, [("id", { type := .named "integer", required := true })]),
        (.queries, [("page", { type := .named "integer" }),
          ("size", { type := .named "integer" })])] }]

/-- The groups of the second in another order, and the members of the queries too. -/
def relisted : ParamGroups :=
  [(.queries, [("size", { type := .named "integer" }), ("page", { type := .named "integer" })]),
    (.path, [("id", { type := .named "integer", required := true })])]

/-- The first is warned of, and the second may be declared in either order. -/
theorem warns_shared_listing : (∀ e ∈ listing.endpoints, e.params.Distinct) ∧
    (∃ shared : List SharedName, shared.map SharedName.warning = [⟨"$.apis[0].params.body.id",
        "also declared in the 'header' group; the later group wins"⟩] ∧
      (∀ w, w ∈ shared ↔ ∃ e, listing.endpoints[w.endpoint]? = some e ∧
        e.params.Redeclares w.source w.name w.earlier)) ∧
    ∃ e, listing.endpoints[1]? = some e ∧ e.params.Rearranged relisted ∧
      ∀ types reader, (ParamBinder.mk types e.params).value? reader =
        (ParamBinder.mk types relisted).value? reader := by
  have distinct : ∀ e ∈ listing.endpoints, e.params.Distinct :=
    List.forall_mem_cons.mpr ⟨⟨by decide, by decide⟩,
      List.forall_mem_singleton.mpr ⟨by decide, by decide⟩⟩
  obtain ⟨shared, told, -, listed, alike⟩ := warns_shared distinct
  have silent : ∀ w ∈ shared, w.endpoint ≠ 1 := fun w there same => by
    obtain ⟨e, at_1, again⟩ := (listed w).mp there
    have declared := distinct e (List.mem_of_getElem? at_1)
    rw [same] at at_1
    cases at_1
    exact nomatch declared.repeated_iff.mpr again
  have rearranged : ParamGroups.Rearranged listing.endpoints[1].params relisted :=
    ⟨relisted.reverse, .cons ⟨rfl, .refl _⟩ (.cons ⟨rfl, .swap _ _ _⟩ .nil), List.reverse_perm _⟩
  exact ⟨distinct, ⟨shared, told.symm.trans rfl, listed⟩, _, rfl, rearranged,
    alike 1 _ rfl silent relisted rearranged⟩

end Document

end ApiGateway
