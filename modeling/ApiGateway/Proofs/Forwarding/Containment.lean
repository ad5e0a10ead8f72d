import ApiGateway.Proofs.Forwarding.Endings
import ApiGateway.Proofs.Forwarding.Provenance

/-
Failures are contained.

A reply may be an error, and its body may not hold a field that another forward refers to. A forward
with such a reference is not called: it is left with the error of the first of them, which is that
of the reply, unchanged, or that the reference is unresolved. Every other forward is called once, and
is left with what the forwarder answered.

* `Run.Fault` - what is wrong with a reference; `Run.FirstFault` - the first that is wrong.
* `Run.Receives` - the one call of a forward, in the world that the calls before it left behind.
* `Run.Explained` - every result of a run is that of its forward's turn (`Run.Turn`);
  `Run.Explained.perform` - one more turn keeps it so.
* `Run.OwnError` - the errors that begin with a forward.
* `Chain.contained_execute` - a first run contains its failures: each error began with the forward
  or with one that it waits for, through any number of others.
-/

namespace ApiGateway

variable {ω : Type}

/-- The references of a forward's fields, field after field. -/
def ForwardNode.refs (node : ForwardNode) : List FieldRef := node.mapping.flatMap (·.2.refs)

theorem ForwardNode.RefersToDeps.mem_deps {node : ForwardNode} (refers : node.RefersToDeps)
    {dep field : String} (href : .reply dep field ∈ node.refs) : dep ∈ node.deps := by
  obtain ⟨entry, hentry, href⟩ := List.mem_flatMap.mp href
  exact refers entry hentry (dep, field) (List.mem_filterMap.mpr ⟨_, href, rfl⟩)

/-- The world after calls of the forwards of a chain, one after another. -/
def Chain.worldAfter (c : Chain) (forward : Forwarder ω) (world : ω) (calls : List CallRecord) : ω :=
  calls.foldl (fun w call =>
    match c.find? call.node with
    | some node => (forward node call.fields w).2
    | none => w) world

namespace Run

/-- What is wrong with a reference of a forward. -/
inductive Fault (r : Run ω) (name : String) : FieldRef → ForwardError → Prop where
  /-- The reply is an error. -/
  | failed {dep field : String} {e : ForwardError} : r.result? dep = some (.error e) →
    Fault r name (.reply dep field) e
  /-- The body is no object that holds the field. -/
  | lacks {dep field : String} {body : Bytes} : r.result? dep = some (.ok body) →
    (∀ entries, Json.parseBytes? body = some (.object entries) → entries.lookup field = none) →
    Fault r name (.reply dep field) ⟨name, .unresolvedReference (FieldRef.reply dep field).display⟩

/-- The first of a forward's references that is wrong, and how. -/
def FirstFault (r : Run ω) (node : ForwardNode) (e : ForwardError) : Prop :=
  ∃ before ref after, node.refs = before ++ ref :: after ∧
    (∀ ref' ∈ before, ∀ e', ¬ r.Fault node.name ref' e') ∧ r.Fault node.name ref e

/-- A forward was called once, in the world that the calls before it left behind, and answered. -/
def Receives (r : Run ω) (c : Chain) (forward : Forwarder ω) (world : ω) (node : ForwardNode)
    (fields : CallFields) (result : ForwardResult) : Prop :=
  ∃ before after, r.calls = before ++ ⟨node.name, fields⟩ :: after ∧
    (∀ call ∈ before ++ after, call.node ≠ node.name) ∧
    (forward node fields (c.worldAfter forward world before)).1 = result

/-- An error begins with a forward: its call fails, or it refers to a field that a reply lacks. -/
inductive OwnError (r : Run ω) (c : Chain) (forward : Forwarder ω) (world : ω)
    (node : ForwardNode) : ForwardError → Prop where
  | call {fields : CallFields} {e : ForwardError} :
    r.Receives c forward world node fields (.error e) → OwnError r c forward world node e
  | reference {dep field : String} : r.Misses c forward node dep field →
    OwnError r c forward world node
      ⟨node.name, .unresolvedReference (FieldRef.reply dep field).display⟩

/-- What a forward is left with, as a run has it. -/
structure Contains (r : Run ω) (c : Chain) (forward : Forwarder ω) (params : Json) (world : ω)
    (node : ForwardNode) (result : ForwardResult) : Prop where
  /-- With a reference that is wrong it is not called, and has the error of the first. -/
  faulty : (∃ ref ∈ node.refs, ∃ e, r.Fault node.name ref e) →
    ∃ e, r.FirstFault node e ∧ result = .error e ∧ ∀ call ∈ r.calls, call.node ≠ node.name
  /-- With none it is called, and has what was answered. -/
  sound : (¬ ∃ ref ∈ node.refs, ∃ e, r.Fault node.name ref e) →
    ∃ fields, r.resolve params node = .ok fields ∧ r.Receives c forward world node fields result
  /-- An error began with it, or with a forward that it waits for through any number of others. -/
  origin : ∀ e, result = .error e → ∃ source ∈ c.nodes,
    Relation.ReflTransGen c.declared.Waits node.name source.name ∧
      r.OwnError c forward world source e

/-! ### Faults are what does not resolve -/

variable {r : Run ω} {c : Chain} {forward : Forwarder ω} {params : Json} {world : ω}
  {node : ForwardNode}

/-- A reference to a forward that has a result fails to resolve exactly by its fault. -/
theorem resolveRef_eq_error_iff {name : String} {ref : FieldRef} {e : ForwardError}
    (there : ∀ dep field, ref = .reply dep field → dep ∈ r.finished) :
    r.resolveRef params name ref = .error e ↔ r.Fault name ref e := by
  cases ref with
  | param field =>
    constructor
    · nofun
    · nofun
  | reply dep field =>
    obtain ⟨result, found⟩ := Option.isSome_iff_exists.mp
      ((isSome_result? r dep).mpr (there dep field rfl))
    simp only [resolveRef, found]
    constructor
    · intro failed
      cases result with
      | error e' =>
        cases failed
        exact .failed found
      | ok body =>
        cases lacks : ForwardResult.field? (.ok body) field with
        | some v => simp [lacks] at failed
        | none =>
          simp only [lacks, Except.error.injEq] at failed
          subst failed
          exact .lacks found (ForwardResult.field?_eq_none_iff.mp lacks)
    · rintro (same | ⟨same, lacks⟩)
      · cases found.symm.trans same
        rfl
      · cases found.symm.trans same
        simp only [ForwardResult.field?_eq_none_iff.mpr lacks]

/-- It resolves exactly when nothing is wrong with it. -/
theorem exists_resolveRef_iff {name : String} {ref : FieldRef}
    (there : ∀ dep field, ref = .reply dep field → dep ∈ r.finished) :
    (∃ v, r.resolveRef params name ref = .ok v) ↔ ∀ e, ¬ r.Fault name ref e := by
  constructor
  · rintro ⟨v, resolved⟩ e fault
    cases resolved.symm.trans ((resolveRef_eq_error_iff there).mpr fault)
  · intro good
    cases resolved : r.resolveRef params name ref with
    | ok v => exact ⟨v, rfl⟩
    | error e => exact absurd ((resolveRef_eq_error_iff there).mp resolved) (good e)

/-- The fields of a forward whose dependencies have results fail exactly by its first fault. -/
theorem resolve_eq_error_iff (refers : node.RefersToDeps) (waited : ∀ d ∈ node.deps, d ∈ r.finished)
    {e : ForwardError} : r.resolve params node = .error e ↔ r.FirstFault node e := by
  have there : ∀ ref ∈ node.refs, ∀ dep field, ref = .reply dep field → dep ∈ r.finished := by
    rintro _ href dep field rfl
    exact waited dep (refers.mem_deps href)
  have flat : r.resolve params node = .error e ↔
      node.refs.mapM (r.resolveRef params node.name) = .error e :=
    mapM_mapM_eq_error_iff
  rw [flat, mapM_eq_error_iff]
  constructor
  · rintro ⟨before, ref, after, split, good, failed⟩
    rw [split] at there
    refine ⟨before, ref, after, split, ?_, ?_⟩
    · intro ref' href'
      exact (exists_resolveRef_iff (there ref' (by simp [href']))).mp (good ref' href')
    · exact (resolveRef_eq_error_iff (there ref (by simp))).mp failed
  · rintro ⟨before, ref, after, split, good, fault⟩
    rw [split] at there
    refine ⟨before, ref, after, split, ?_, ?_⟩
    · intro ref' href'
      exact (exists_resolveRef_iff (there ref' (by simp [href']))).mpr (good ref' href')
    · exact (resolveRef_eq_error_iff (there ref (by simp))).mpr fault

/-! ### Turns -/

/-- What the turn of a forward comes to, by its fields as the run has them in the end. -/
def Turn (r : Run ω) (c : Chain) (forward : Forwarder ω) (params : Json) (world : ω)
    (node : ForwardNode) (result : ForwardResult) : Prop :=
  match r.resolve params node with
  | .error e => result = .error e ∧ ∀ call ∈ r.calls, call.node ≠ node.name
  | .ok fields => r.Receives c forward world node fields result

/-- Every result of a run is that of its forward's turn. -/
structure Explained (r : Run ω) (c : Chain) (forward : Forwarder ω) (params : Json) (world : ω) :
    Prop where
  worldAfter : r.world = c.worldAfter forward world r.calls
  called : ∀ call ∈ r.calls, call.node ∈ r.finished
  waited : ∀ node ∈ c.nodes, node.name ∈ r.finished → ∀ d ∈ node.deps, d ∈ r.finished
  turns : ∀ node ∈ c.nodes, ∀ result, r.result? node.name = some result →
    r.Turn c forward params world node result

/-- A turn stays what it was while other forwards are called. -/
theorem Turn.later {r' : Run ω} {result : ForwardResult}
    (turn : r.Turn c forward params world node result)
    (same : r'.resolve params node = r.resolve params node)
    (others : ∃ more, r'.calls = r.calls ++ more ∧ ∀ call ∈ more, call.node ≠ node.name) :
    r'.Turn c forward params world node result := by
  obtain ⟨more, calls, others⟩ := others
  unfold Turn at turn ⊢
  rw [same]
  cases resolved : r.resolve params node with
  | error e =>
    simp only [resolved] at turn
    rw [calls]
    exact ⟨turn.1, List.forall_mem_append.mpr ⟨turn.2, others⟩⟩
  | ok fields =>
    simp only [resolved] at turn
    obtain ⟨before, after, split, apart, answer⟩ := turn
    refine ⟨before, after ++ more, ?_, ?_, answer⟩
    · rw [calls, split]
      simp
    · rw [← List.append_assoc]
      exact List.forall_mem_append.mpr ⟨apart, others⟩

/-- A forward's turn makes its own call or none. -/
theorem perform_calls (forward : Forwarder ω) (params : Json) (node : ForwardNode) (r : Run ω) :
    ∃ more, (r.perform forward params node).2.calls = r.calls ++ more ∧
      ∀ call ∈ more, call.node = node.name := by
  unfold perform
  cases r.resolve params node with
  | error e => exact ⟨[], by simp, nofun⟩
  | ok fields => exact ⟨[⟨node.name, fields⟩], rfl, by simp⟩

/-- What was resolved by results that are there is resolved alike after another turn. -/
theorem perform_resolve (other : ForwardNode) (refers : other.RefersToDeps)
    (waited : ∀ d ∈ other.deps, d ∈ r.finished) :
    (r.perform forward params node).2.resolve params other = r.resolve params other := by
  refine resolve_congr refers (fun d hd => ?_) params
  obtain ⟨result, found⟩ := Option.isSome_iff_exists.mp ((isSome_result? r d).mpr (waited d hd))
  rw [found]
  exact (perform_extends forward params node r).results d result found

/-- The turn of a forward without a result, after all that it waits for, is as it should be. -/
theorem Explained.own_turn (explained : r.Explained c forward params world)
    (refers : node.RefersToDeps) (fresh : node.name ∉ r.finished)
    (waited : ∀ d ∈ node.deps, d ∈ r.finished) :
    (r.perform forward params node).2.Turn c forward params world node
      (r.perform forward params node).1 := by
  have others : ∀ call ∈ r.calls, call.node ≠ node.name := by
    intro call hcall same
    exact fresh (same ▸ explained.called call hcall)
  unfold Turn
  rw [perform_resolve node refers waited]
  unfold perform
  cases r.resolve params node with
  | error e => exact ⟨rfl, others⟩
  | ok fields =>
    refine ⟨r.calls, [], rfl, by simpa using others, ?_⟩
    rw [← explained.worldAfter]

/-- One more turn keeps a run explained. -/
theorem Explained.perform (explained : r.Explained c forward params world)
    (distinct : c.names.Nodup) (refers : ∀ node ∈ c.nodes, node.RefersToDeps)
    (hnode : node ∈ c.nodes) (fresh : node.name ∉ r.finished)
    (waited : ∀ d ∈ node.deps, d ∈ r.finished) :
    (r.perform forward params node).2.Explained c forward params world where
  worldAfter := by
    have before := explained.worldAfter
    unfold Run.perform
    cases r.resolve params node with
    | error e => exact before
    | ok fields =>
      unfold Chain.worldAfter at before ⊢
      simp [← before, Chain.find?_of_mem distinct hnode]
  called := by
    obtain ⟨more, calls, own⟩ := perform_calls forward params node r
    rw [calls, perform_finished]
    intro call hcall
    rcases List.mem_append.mp hcall with old | new
    · exact List.mem_append_left _ (explained.called call old)
    · simp [own call new]
  waited := by
    intro other hother finished d hd
    rw [perform_finished, List.mem_append] at finished ⊢
    rcases finished with old | new
    · exact .inl (explained.waited other hother old d hd)
    · obtain rfl := Chain.eq_of_name_eq distinct hother hnode (List.mem_singleton.mp new)
      exact .inl (waited d hd)
  turns := by
    intro other hother result found
    rcases perform_result?.mp found with old | ⟨-, same, rfl⟩
    · have finished : other.name ∈ r.finished := (isSome_result? r _).mp (by simp [old])
      have before := explained.turns other hother result old
      obtain ⟨more, calls, own⟩ := perform_calls forward params node r
      refine before.later ?_ ⟨more, calls, fun call hcall same => ?_⟩
      · exact perform_resolve other (refers other hother) (explained.waited other hother finished)
      · rw [own call hcall] at same
        exact fresh (same ▸ finished)
    · obtain rfl := Chain.eq_of_name_eq distinct hother hnode same
      exact explained.own_turn (refers other hother) fresh waited

/-- What explains a run is in its results, its calls and its world. -/
theorem Explained.congr {r' : Run ω} (explained : r.Explained c forward params world)
    (results : r'.results = r.results) (calls : r'.calls = r.calls) (same : r'.world = r.world) :
    r'.Explained c forward params world := by
  cases r
  cases r'
  cases results
  cases calls
  cases same
  exact ⟨explained.worldAfter, explained.called, explained.waited, explained.turns⟩

/-- Where a reference is wrong, one is the first. -/
theorem exists_firstFault (faulty : ∃ ref ∈ node.refs, ∃ e, r.Fault node.name ref e) :
    ∃ e, r.FirstFault node e := by
  classical
  obtain ⟨ref, href, wrong⟩ := faulty
  cases first : node.refs.find? fun ref => decide (∃ e, r.Fault node.name ref e) with
  | none => exact absurd wrong (by simpa using List.find?_eq_none.mp first ref href)
  | some ref =>
    obtain ⟨wrong, before, after, split, good⟩ := List.find?_eq_some_iff_append.mp first
    obtain ⟨e, fault⟩ := of_decide_eq_true wrong
    exact ⟨e, before, ref, after, split, fun ref' href' => by simpa using good ref' href', fault⟩

end Run

namespace Chain

open Run

variable {c : Chain} {rank : String → Nat} {r : Run ω} {forward : Forwarder ω} {params : Json}
  {world : ω}

/-! ### Where errors begin -/

/-- The error of a forward began with it, or with one that it waits for. -/
theorem origin_of_explained (ranked : c.Ranked rank) (refers : ∀ node ∈ c.nodes, node.RefersToDeps)
    (explained : r.Explained c forward params world) (accounted : r.Accounted c forward)
    {node : ForwardNode} (hnode : node ∈ c.nodes) {e : ForwardError}
    (found : r.result? node.name = some (.error e)) :
    ∃ source ∈ c.nodes, Relation.ReflTransGen c.declared.Waits node.name source.name ∧
      r.OwnError c forward world source e := by
  -- On the rank: a forward hands on the errors of those below it.
  induction below : rank node.name using Nat.strong_induction_on generalizing node with
  | _ bound ih =>
  have waited := explained.waited node hnode ((isSome_result? r _).mp (by simp [found]))
  have turn := explained.turns node hnode _ found
  unfold Turn at turn
  cases resolved : r.resolve params node with
  | ok fields =>
    simp only [resolved] at turn
    exact ⟨node, hnode, .refl, .call turn⟩
  | error e' =>
    simp only [resolved] at turn
    obtain ⟨rfl⟩ := Except.error.inj turn.1
    obtain ⟨before, ref, after, split, -, fault⟩ :=
      (resolve_eq_error_iff (refers node hnode) waited).mp resolved
    have href : ref ∈ node.refs := by simp [split]
    cases fault with
    | @failed dep field _ handed =>
      have waits := (refers node hnode).mem_deps href
      obtain ⟨owner, howner, rfl⟩ := List.mem_map.mp (ranked.known node hnode dep waits)
      obtain ⟨source, hsource, path, own⟩ :=
        ih _ (below ▸ ranked.below node hnode _ waits) howner handed rfl
      exact ⟨source, hsource, .head (waits_declared.mpr ⟨node, hnode, rfl, waits⟩) path, own⟩
    | @lacks dep field body answered lacks =>
      have waits := (refers node hnode).mem_deps href
      obtain ⟨entry, hentry, href⟩ := List.mem_flatMap.mp href
      refine ⟨node, hnode, .refl, .reference ⟨⟨entry, hentry, href⟩, waits, body, ?_, lacks⟩⟩
      exact accounted.bodies dep body answered

/-! ### The first run -/

/-- What is explained and accounted for is contained. -/
theorem contains_of_explained (ranked : c.Ranked rank) (refers : ∀ node ∈ c.nodes, node.RefersToDeps)
    (explained : r.Explained c forward params world) (accounted : r.Accounted c forward)
    {node : ForwardNode} (hnode : node ∈ c.nodes) {result : ForwardResult}
    (found : r.result? node.name = some result) : r.Contains c forward params world node result := by
  have waited := explained.waited node hnode ((isSome_result? r _).mp (by simp [found]))
  have turn := explained.turns node hnode result found
  unfold Turn at turn
  refine ⟨fun faulty => ?_, fun clean => ?_, ?_⟩
  · obtain ⟨e, first⟩ := exists_firstFault faulty
    simp only [(resolve_eq_error_iff (refers node hnode) waited).mpr first] at turn
    exact ⟨e, first, turn⟩
  · cases resolved : r.resolve params node with
    | ok fields =>
      simp only [resolved] at turn
      exact ⟨fields, rfl, turn⟩
    | error e =>
      obtain ⟨before, ref, after, split, -, fault⟩ :=
        (resolve_eq_error_iff (refers node hnode) waited).mp resolved
      exact absurd ⟨ref, by simp [split], e, fault⟩ clean
  · rintro e rfl
    exact origin_of_explained ranked refers explained accounted hnode found

/-- A first run explains its results. -/
theorem execute_explained (ranked : c.Ranked rank) (distinct : c.names.Nodup)
    (refers : ∀ node ∈ c.nodes, node.RefersToDeps) (forward : Forwarder ω) (params : Json)
    (world : ω) :
    (c.execute forward params { world }).2.Explained c forward params world := by
  obtain ⟨order, h⟩ := exists_postOrder ranked
  have perm := h.perm ranked distinct
  have line : c.RunsStraight forward params world order :=
    .of_follows (fun node hnode => perm.mem_iff.mpr hnode)
      (runNodes_follows ranked distinct h world)
  have start : ({ world } : Run ω).Explained c forward params world := by
    refine ⟨rfl, ?_, ?_, ?_⟩
    · simp
    · simp [finished]
    · simp [result?]
  have turns : ∀ node ∈ c.nodes, ∀ r : Run ω, node.name ∉ r.finished →
      (∀ d ∈ node.deps, d ∈ r.finished) → r.Explained c forward params world →
      (r.perform forward params node).2.Explained c forward params world ∧
        ∀ e, node.rejection? (r.perform forward params node).1 = some e → True := by
    intro node hnode r fresh waited explained
    exact ⟨explained.perform distinct refers hnode fresh waited, fun _ _ => trivial⟩
  have walk : c.Visits [] c.names order := h
  have explained := (walk.straight_keeps ranked (Q := fun _ _ => True) turns rfl start).1
  exact explained.congr line.results line.calls line.worldAfter

/-- **Failures are contained.** In the first run of a chain that compiles, a forward with a reference
to an error, or to a field that a reply lacks, is not called and has the error of the first such
reference; every other has what it was answered; and each error began with a forward, from which it
was handed on along dependencies. -/
theorem contained_execute {fs : List Forward} (compiled : Chain.compile fs = .ok c)
    (distinct : (fs.map (·.name)).Nodup) (refers : ∀ node ∈ c.nodes, node.RefersToDeps)
    (forward : Forwarder ω) (params : Json) (world : ω) :
    ∀ node ∈ c.nodes, ∀ result,
      (c.execute forward params { world }).2.result? node.name = some result →
      (c.execute forward params { world }).2.Contains c forward params world node result := by
  intro node hnode result found
  obtain ⟨rank, ranked⟩ := exists_ranked_of_compile compiled
  have distinct : c.names.Nodup := names_of_compile compiled ▸ distinct
  have explained := execute_explained ranked distinct refers forward params world
  obtain ⟨accounted, -⟩ := execute_accounted ranked distinct refers forward params world
  exact contains_of_explained ranked refers explained accounted hnode found

/-- A parcel with a label, for which a user and the stock are looked up. -/
def parcelForwards : List Forward :=
  [{ name := "parcel", deps := ["label"],
     grpc := some { method := "Send", fields := [("label", "label.id")] } },
   { name := "label", deps := ["stock", "user"],
     grpc := some { method := "Print", fields := [("text", "stock.item|user.street|%s: %s")] } },
   { name := "user", grpc := some { method := "Find" } },
   { name := "stock", redis := some { key := "item" } }]

def parcelChain : Chain := (Chain.compile parcelForwards).toOption.getD {}

/-- The item is known and the user is not found, whose error the parcel is left with. -/
theorem contained_execute_parcel :
    Chain.compile parcelForwards = .ok parcelChain ∧ (parcelForwards.map (·.name)).Nodup ∧
      (∀ node ∈ parcelChain.nodes, node.RefersToDeps) ∧
      ∃ forward : Forwarder Nat, ∃ node ∈ parcelChain.nodes, node.name = "parcel" ∧
        (parcelChain.execute forward .null { world := 0 }).2.result? node.name =
          some (.error ⟨"user", .httpStatus 404⟩) ∧
        (parcelChain.execute forward .null { world := 0 }).2.Contains parcelChain forward .null 0
          node (.error ⟨"user", .httpStatus 404⟩) := by
  have compiled : Chain.compile parcelForwards = .ok parcelChain := rfl
  have distinct : (parcelForwards.map (·.name)).Nodup := by decide
  have refers : ∀ node ∈ parcelChain.nodes, node.RefersToDeps := by
    unfold ForwardNode.RefersToDeps
    decide
  let forward : Forwarder Nat := fun node _ calls =>
    (if node.name = "user" then .error ⟨"user", .httpStatus 404⟩
      else .ok (Text.encode "\x7b\"item\":\"book\"\x7d"), calls + 1)
  obtain ⟨node, hnode, named⟩ : ∃ node ∈ parcelChain.nodes, node.name = "parcel" :=
    ⟨_, List.mem_cons_self, rfl⟩
  have found : (parcelChain.execute forward .null { world := 0 }).2.result? node.name =
      some (.error ⟨"user", .httpStatus 404⟩) := by
    rw [named]
    decide +kernel
  exact ⟨compiled, distinct, refers, forward, node, hnode, named, found,
    contained_execute compiled distinct refers forward .null 0 node hnode _ found⟩

end Chain

end ApiGateway
