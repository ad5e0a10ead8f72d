import ApiGateway.Proofs.Graph.Order
import ApiGateway.Validation.Document
import ApiGateway.Value.Registry

/-
What a document without violations has.

* `Endpoint.Lawful`, `Endpoint.Kept` - the rules that an endpoint keeps, and those of each forward.
* `Forward.Complete` - one target, and every text of the forward can be read.
* `Endpoint.Complete` - a method, complete forwards and a graph of them.
* `Document.Complete` - types that can be registered, and complete endpoints.

A document that passes validation is complete (`Document.complete_of_validate`). A url is not part
of it: the rules only look at how a url begins.
-/

namespace ApiGateway

theorem Violation.of_eq_nil_iff {fault : Bool} {path message : String} :
    Violation.of fault path message = [] ↔ fault = false := by
  cases fault <;> simp [Violation.of]

/-- Entries of which each differs from those before it all differ. -/
theorem nodup_map_of_fresh {α β : Type} {l : List α} {f : α → β}
    (fresh : ∀ i a, l[i]? = some a → f a ∉ (l.take i).map f) : (l.map f).Nodup := by
  rw [List.Nodup, List.pairwise_map, List.pairwise_iff_getElem]
  intro i j hi hj before same
  have earlier : l[i] ∈ l.take j :=
    List.mem_take_iff_getElem.mpr ⟨i, Nat.lt_min.mpr ⟨before, hi⟩, rfl⟩
  exact fresh j l[j] (List.getElem?_eq_getElem hj) (List.mem_map.mpr ⟨l[i], earlier, same⟩)

/-- No character of an identifier is blank. -/
theorem Text.isBlank_of_plain {c : Char}
    (plain : (c.isAlphanum || c == '_' || c == '-') = true) : Text.isBlank c = false := by
  delta Char.isAlphanum Char.isAlpha Char.isUpper Char.isLower Char.isDigit at plain
  simp only [Bool.or_eq_true, Bool.and_eq_true, decide_eq_true_eq, beq_iff_eq] at plain
  change ((((65 ≤ c.toNat ∧ c.toNat ≤ 90) ∨ (97 ≤ c.toNat ∧ c.toNat ≤ 122)) ∨
    (48 ≤ c.toNat ∧ c.toNat ≤ 57)) ∨ c = '_') ∨ c = '-' at plain
  rcases plain with (letterOrDigit | rfl) | rfl
  · simp only [Text.isBlank, Bool.or_eq_false_iff, Bool.and_eq_false_iff, decide_eq_false_iff_not,
      beq_eq_false_iff_ne]
    omega
  · decide
  · decide

theorem Text.isBlankText_of_isIdentifier {s : String} (h : Text.isIdentifier s = true) :
    Text.isBlankText s = false := by
  obtain ⟨nonempty, plain⟩ := Bool.and_eq_true_iff.mp h
  unfold Text.isBlankText
  cases written : s.toList with
  | nil => simp [written] at nonempty
  | cons c cs =>
    have first := List.all_eq_true.mp plain c (by rw [written]; exact List.mem_cons_self)
    rw [List.all_cons, Text.isBlank_of_plain first, Bool.false_and]

/-! ### Forwards -/

/-- The method of a call over HTTP can be read. -/
def Target.MethodReads : Target → Prop
  | .http t => ∀ text, t.method = some text → ∃ m, Method.parse text = .ok m
  | _ => True

theorem Target.methodReads_of_violations {t : Target} {path : String}
    (clean : t.violations path = []) : t.MethodReads := by
  cases t with
  | grpc t => trivial
  | redis t => trivial
  | http t =>
    intro text written
    have rest := (List.append_eq_nil_iff.mp clean).2
    rw [written] at rest
    dsimp only at rest
    split at rest
    · rename_i m parsed
      exact ⟨m, parsed⟩
    · exact absurd rest (List.cons_ne_nil _ _)

namespace Forward

/-- What a forward without violations has. -/
structure Complete (f : Forward) : Prop where
  target : ∃ t, f.targets = [t] ∧ t.MethodReads
  fields : f.expressionErrors = []
  test : ∀ t, f.test = some t → ∃ c, Condition.ofTest t = .ok c

variable {f : Forward} {before : List Forward} {names params : List String} {path : String}

theorem target?_of_targets {t : Target} (only : f.targets = [t]) : f.target? = some t := by
  rw [target?, only, List.head?_cons]

theorem target_of_violations (clean : f.targetViolations path = []) :
    ∃ t, f.targets = [t] ∧ t.MethodReads := by
  unfold targetViolations at clean
  split at clean
  · exact absurd clean (List.cons_ne_nil _ _)
  · rename_i t more written
    obtain ⟨first, rest⟩ := List.append_eq_nil_iff.mp clean
    obtain ⟨single, -⟩ := List.append_eq_nil_iff.mp first
    have only : more = [] := by simpa using Violation.of_eq_nil_iff.mp single
    subst only
    exact ⟨t, written, Target.methodReads_of_violations rest⟩

theorem fields_of_violations {t : Target} (only : f.targets = [t])
    (clean : f.mappingViolations params path = []) : f.expressionErrors = [] := by
  unfold mappingViolations at clean
  rw [target?_of_targets only] at clean
  exact List.map_eq_nil_iff.mp (List.append_eq_nil_iff.mp clean).1

theorem test_of_violations (clean : f.testViolations path = []) {t : Test}
    (written : f.test = some t) : ∃ c, Condition.ofTest t = .ok c := by
  unfold testViolations at clean
  rw [written] at clean
  dsimp only at clean
  split at clean
  · rename_i c read
    exact ⟨c, read⟩
  · exact absurd clean (List.cons_ne_nil _ _)

/-- Without a fault a dependency is one of the forwards. -/
theorem mem_of_depFault? {dep : String} (sound : f.depFault? names dep = none) : dep ∈ names := by
  unfold depFault? at sound
  split at sound
  · cases sound
  · split at sound
    · rename_i known
      simpa using known
    · cases sound

theorem depFault?_of_violations (clean : f.depViolations names path = []) {dep : String}
    (hdep : dep ∈ f.deps) : f.depFault? names dep = none := by
  have each := List.filterMap_eq_nil_iff.mp clean dep hdep
  exact Option.map_eq_none_iff.mp each

/-- A name without violations is there, and no forward before has it. -/
theorem named_of_violations (named : f.nameViolations before path = []) :
    f.name.isEmpty = false ∧ before.any (·.name == f.name) = false := by
  unfold nameViolations at named
  dsimp only at named
  split at named
  · cases named
  · rename_i written
    split at named
    · cases named
    · exact ⟨by simpa using written, Violation.of_eq_nil_iff.mp named⟩

/-- The rules on names and dependencies leave nothing that would keep the graph from being drawn. -/
theorem fitsGraph_of_violations (named : f.nameViolations before path = [])
    (waits : f.depViolations names path = []) : f.fitsGraph before names = true := by
  have apart := named_of_violations named
  have sound : (f.deps.all fun dep => (f.depFault? names dep).isNone) = true := by
    rw [List.all_eq_true]
    intro dep hdep
    rw [depFault?_of_violations waits hdep, Option.isNone_none]
  simp only [fitsGraph, apart.1, apart.2, sound, Bool.not_false, Bool.and_false, Bool.and_true]

end Forward

/-! ### Endpoints -/

namespace ForwardGraph

variable {fs : List Forward}

/-- Forwards whose dependencies exist have a graph, unless these run in a circle. -/
theorem build_of_known (known : ∀ f ∈ fs, ∀ d ∈ f.deps, d ∈ fs.map (·.name)) :
    (∃ g, build fs = .ok g) ∨ ∃ stuck, build fs = .error (.cyclicDependency stuck) := by
  unfold build
  rw [unknown?_eq_none_iff.mpr known]
  dsimp only
  split
  · exact .inl ⟨_, rfl⟩
  · exact .inr ⟨_, rfl⟩

end ForwardGraph

namespace Endpoint

/-- What an endpoint without violations has. -/
structure Complete (e : Endpoint) : Prop where
  method : ∃ m, e.httpMethod = .ok m
  graph : ∃ g, ForwardGraph.build e.forwards = .ok g
  forwards : ∀ f ∈ e.forwards, f.Complete

variable {e : Endpoint} {path : String}

theorem method_of_violations (clean : e.methodViolations path = []) :
    ∃ m, e.httpMethod = .ok m := by
  unfold methodViolations at clean
  split at clean
  · rename_i m read
    exact ⟨m, read⟩
  · exact absurd clean (List.cons_ne_nil _ _)

/-- Every forward is numbered, behind those before it. -/
theorem mem_numberedForwards {f : Forward} {i : Nat} (at_i : e.forwards[i]? = some f)
    (path : String) : (f, e.forwards.take i, itemPath path i) ∈ e.numberedForwards path :=
  List.mem_map.mpr ⟨(f, i), List.mk_mem_zipIdx_iff_getElem?.mpr at_i, rfl⟩

theorem exists_numbered {f : Forward} (hf : f ∈ e.forwards) (path : String) :
    ∃ before place, (f, before, place) ∈ e.numberedForwards path := by
  obtain ⟨i, at_i⟩ := List.mem_iff_getElem?.mp hf
  exact ⟨_, _, mem_numberedForwards at_i path⟩

/-- The rules that one numbered forward keeps when none of its endpoint is broken. -/
structure Kept (e : Endpoint) (f : Forward) (before : List Forward) (place : String) : Prop where
  name : f.nameViolations before place = []
  target : f.targetViolations place = []
  deps : f.depViolations (e.forwards.map (·.name)) place = []
  mapping : f.mappingViolations e.paramNames place = []
  test : f.testViolations place = []

theorem kept_of_violations (clean : e.forwardViolations path = []) {f : Forward}
    {before : List Forward} {place : String}
    (numbered : (f, before, place) ∈ e.numberedForwards path) : e.Kept f before place := by
  have each := List.flatMap_eq_nil_iff.mp (List.append_eq_nil_iff.mp clean).1 _ numbered
  simp only [List.append_eq_nil_iff, and_assoc] at each
  obtain ⟨name, target, deps, mapping, test⟩ := each
  exact ⟨name, target, deps, mapping, test⟩

/-- The forwards are looked at for circles, since all fit a graph, and have none. -/
theorem graph_of_violations (clean : e.forwardViolations path = []) :
    ∃ g, ForwardGraph.build e.forwards = .ok g := by
  have known : ∀ f ∈ e.forwards, ∀ d ∈ f.deps, d ∈ e.forwards.map (·.name) := by
    intro f hf d hd
    obtain ⟨before, place, numbered⟩ := exists_numbered hf path
    have waits := (kept_of_violations clean numbered).deps
    exact Forward.mem_of_depFault? (Forward.depFault?_of_violations waits hd)
  rcases ForwardGraph.build_of_known known with built | ⟨stuck, built⟩
  · exact built
  · have circles := (List.append_eq_nil_iff.mp clean).2
    rw [if_pos, built] at circles
    · exact absurd circles (List.cons_ne_nil _ _)
    · rw [List.all_eq_true]
      rintro ⟨f, before, place⟩ numbered
      have kept := kept_of_violations clean numbered
      exact Forward.fitsGraph_of_violations kept.name kept.deps

/-- The rules that an endpoint without violations keeps. -/
structure Lawful (e : Endpoint) (known : List String) (path : String) : Prop where
  url : e.urlViolations path = []
  method : e.methodViolations path = []
  params : ∀ group ∈ e.params, group.2.violations known (path ++ ".params." ++ group.1.name) = []
  forwards : e.forwardViolations (path ++ ".forwards") = []

theorem lawful_of_violations {known : List String} (clean : e.violations known path = []) :
    e.Lawful known path := by
  unfold violations at clean
  simp only [List.append_eq_nil_iff, and_assoc] at clean
  obtain ⟨url, method, params, -, forwards⟩ := clean
  exact ⟨url, method, List.flatMap_eq_nil_iff.mp params, forwards⟩

theorem Lawful.complete {known : List String} (lawful : e.Lawful known path) : e.Complete := by
  refine ⟨method_of_violations lawful.method, graph_of_violations lawful.forwards, fun f hf => ?_⟩
  obtain ⟨before, place, numbered⟩ := exists_numbered hf (path ++ ".forwards")
  have kept := kept_of_violations lawful.forwards numbered
  obtain ⟨t, only, reads⟩ := Forward.target_of_violations kept.target
  exact ⟨⟨t, only, reads⟩, Forward.fields_of_violations only kept.mapping,
    fun _ written => Forward.test_of_violations kept.test written⟩

end Endpoint

/-! ### Types -/

namespace Members

/-- No member has a blank name. -/
theorem named_of_violations {known : List String} {ms : Members} {path : String}
    (clean : ms.violations known path = []) :
    (ms.any fun (name, _) => Text.isBlankText name) = false := by
  rw [List.any_eq_false]
  rintro ⟨name, m⟩ hm blank
  have none := List.flatMap_eq_nil_iff.mp clean _ hm
  dsimp only at none blank
  rw [if_pos blank] at none
  exact absurd none (List.cons_ne_nil _ _)

end Members

/-- A type without violations can be registered behind those before it. -/
theorem DataType.register_of_violations {known : List String} {t : DataType}
    {before : List DataType} {path : String} (clean : t.violations known before path = []) :
    TypeRegistry.register ⟨before⟩ t = .ok ⟨before ++ [t]⟩ := by
  unfold violations at clean
  simp only [List.append_eq_nil_iff, and_assoc] at clean
  obtain ⟨named, -, members⟩ := clean
  unfold nameViolations at named
  dsimp only at named
  split at named
  · cases named
  split at named
  · cases named
  rename_i identifier
  split at named
  · cases named
  rename_i own
  have fresh : (TypeRegistry.find? ⟨before⟩ t.name).isSome = false := by
    rw [TypeRegistry.find?, List.isSome_find?]
    exact Violation.of_eq_nil_iff.mp named
  have visible := Text.isBlankText_of_isIdentifier (s := t.name) (by simpa using identifier)
  simp only [TypeRegistry.register, visible, own, fresh, Members.named_of_violations members,
    Bool.false_eq_true, if_false]

namespace TypeRegistry

/-- Types are registered one behind the other when each can be behind those before it. -/
theorem foldlM_register (done : List DataType) {rest : List DataType}
    (each : ∀ before t after, done ++ rest = before ++ t :: after →
      register ⟨before⟩ t = .ok ⟨before ++ [t]⟩) :
    rest.foldlM register ⟨done⟩ = .ok ⟨done ++ rest⟩ := by
  induction rest generalizing done with
  | nil => rw [List.append_nil]; rfl
  | cons t rest ih =>
    have regroup : done ++ t :: rest = (done ++ [t]) ++ rest := by simp
    rw [List.foldlM_cons, each done t rest rfl, regroup]
    rw [regroup] at each
    exact ih (done ++ [t]) each

end TypeRegistry

/-! ### Documents -/

namespace Document

/-- What a document without violations has. -/
structure Complete (d : Document) : Prop where
  types : TypeRegistry.ofTypes d.types = .ok ⟨d.types⟩
  endpoints : ∀ e ∈ d.endpoints, e.Complete

variable {d : Document}

theorem validate_eq_ok_iff : d.validate = .ok () ↔ d.violations = [] := by
  unfold validate
  split
  · rename_i clean
    exact ⟨fun _ => clean, fun _ => rfl⟩
  · rename_i broken
    exact ⟨nofun, fun clean => absurd clean broken⟩

/-- A type of a valid document has no violations behind those before it. -/
theorem type_violations_of_validate (valid : d.validate = .ok ()) {t : DataType} {i : Nat}
    (at_i : d.types[i]? = some t) :
    t.violations (knownTypes d.types) (d.types.take i) (itemPath "$.types" i) = [] := by
  have clean := validate_eq_ok_iff.mp valid
  unfold violations at clean
  simp only [List.append_eq_nil_iff, and_assoc] at clean
  obtain ⟨-, -, types, -, -⟩ := clean
  exact List.flatMap_eq_nil_iff.mp types (t, i) (List.mk_mem_zipIdx_iff_getElem?.mpr at_i)

/-- An endpoint of a valid document keeps the rules, and has no route of those before it. -/
theorem lawful_of_validate (valid : d.validate = .ok ()) {e : Endpoint} {i : Nat}
    (at_i : d.endpoints[i]? = some e) :
    e.Lawful (knownTypes d.types) (itemPath "$.apis" i) ∧
      d.routeViolations e i (itemPath "$.apis" i) = [] := by
  have endpoints := (List.append_eq_nil_iff.mp (validate_eq_ok_iff.mp valid)).2
  have alone := List.flatMap_eq_nil_iff.mp endpoints (e, i)
    (List.mk_mem_zipIdx_iff_getElem?.mpr at_i)
  obtain ⟨own, route⟩ := List.append_eq_nil_iff.mp alone
  exact ⟨Endpoint.lawful_of_violations own, route⟩

theorem complete_of_validate (valid : d.validate = .ok ()) : d.Complete := by
  constructor
  · refine TypeRegistry.foldlM_register [] fun before t after split => ?_
    rw [List.nil_append] at split
    have at_t : d.types[before.length]? = some t := by simp [split]
    have prior : d.types.take before.length = before := by simp [split]
    have alone := type_violations_of_validate valid at_t
    rw [prior] at alone
    exact DataType.register_of_violations alone
  · intro e he
    obtain ⟨i, at_i⟩ := List.mem_iff_getElem?.mp he
    exact (lawful_of_validate valid at_i).1.complete

end Document

end ApiGateway
