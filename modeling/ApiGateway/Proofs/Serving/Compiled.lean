import ApiGateway.Proofs.Forwarding.Reordering
import ApiGateway.Proofs.Serving.Agreement
import ApiGateway.Proofs.Value.Filling

/-
What a route of a compiled document has.

Compiling looks at little itself: it relies on what validation found nothing wrong with. So each
rule of validation gives what a request to the route will need.

* `Members.known_of_violations` - the types of members are known.
* `Forward.refers_of_violations` - fields refer to forwards that theirs waits for.
* `Endpoint.nodup_of_violations` - the names of forwards differ.
* `Route.Sound` - all of it for a route; `Api.sound_of_compile` - every route has it.
-/

namespace ApiGateway

/-! ### Types -/

namespace TypeRegistry

/-- The names that validation knows are those of the registry. -/
theorem knows_of_contains {types : List DataType} {name : String}
    (known : (knownTypes types).contains name = true) : Knows ⟨types⟩ name := by
  rcases List.mem_append.mp (List.contains_iff_mem.mp known) with builtin | declared
  · exact .inl builtin
  · obtain ⟨t, ht, rfl⟩ := List.mem_map.mp (List.mem_filter.mp declared).1
    have found : (find? ⟨types⟩ t.name).isSome = true := by
      rw [find?, List.find?_isSome]
      exact ⟨t, ht, beq_self_eq_true t.name⟩
    exact .inr (Option.isSome_iff_exists.mp found)

end TypeRegistry

/-- A type without violations is a known name, or a list of one. -/
theorem Member.known_of_violations {types : List DataType} {m : Member} {path : String}
    (clean : m.typeViolations (knownTypes types) path = []) : m.Known ⟨types⟩ := by
  obtain ⟨named, flat⟩ := List.append_eq_nil_iff.mp clean
  have flat := Violation.of_eq_nil_iff.mp flat
  cases based : m.type.baseName? with
  | none =>
    rw [based] at named
    exact absurd named (List.cons_ne_nil _ _)
  | some name =>
    rw [based] at named
    have contained : (!(knownTypes types).contains name) = false := Violation.of_eq_nil_iff.mp named
    refine ⟨name, TypeRegistry.knows_of_contains (by simpa using contained), ?_⟩
    cases written : m.type with
    | named own =>
      rw [written, TypeExpr.baseName?] at based
      cases based
      exact .inl rfl
    | list items =>
      rw [written] at based flat
      match items with
      | [.named own] =>
        rw [TypeExpr.baseName?, TypeExpr.baseName?] at based
        cases based
        exact .inr rfl
      | [.list inner] => cases flat
      | [] => cases based
      | _ :: _ :: _ => cases based

theorem Members.known_of_violations {types : List DataType} {ms : Members} {path : String}
    (clean : ms.violations (knownTypes types) path = []) : ms.Known ⟨types⟩ := by
  rintro ⟨name, m⟩ hm
  have own := List.flatMap_eq_nil_iff.mp clean _ hm
  dsimp only at own
  split at own
  · cases own
  · exact Member.known_of_violations (List.append_eq_nil_iff.mp own).1

namespace Document

variable {d : Document}

theorem closed_of_validate (valid : d.validate = .ok ()) : TypeRegistry.Closed ⟨d.types⟩ := by
  intro t ht
  obtain ⟨i, at_i⟩ := List.mem_iff_getElem?.mp ht
  have clean := type_violations_of_validate valid at_i
  exact Members.known_of_violations (List.append_eq_nil_iff.mp clean).2

end Document

/-! ### Forwards -/

namespace ForwardNode

variable {f : Forward} {node : ForwardNode}

/-- The fields of a compiled forward are those whose expression validation reads. -/
theorem eq_of_readMapping {name : String} {fields : FieldTexts} {m : Mapping}
    (read : readMapping name fields = .ok m) :
    m = fields.filterMap fun (dest, text) => (FieldExpr.parse text).toOption.map (dest, ·) := by
  induction fields generalizing m with
  | nil =>
    cases read
    rfl
  | cons entry fields ih =>
    obtain ⟨dest, text⟩ := entry
    obtain ⟨e, parsed, rest⟩ := bind_eq_ok_iff.mp read
    obtain ⟨m', others, same⟩ := bind_eq_ok_iff.mp rest
    cases same
    have parsed := mapError_eq_ok_iff.mp parsed
    rw [List.filterMap_cons_some (b := (dest, e)) (by simp [parsed, Except.toOption]), ih others]

theorem mapping_of_compile (compiled : ForwardNode.compile f = .ok node) :
    node.mapping = f.expressions := by
  obtain ⟨_, _, _, _, -, -, read, -, rfl⟩ := exists_of_compile compiled
  exact eq_of_readMapping read

end ForwardNode

/-- A forward without violations refers only to forwards that it waits for. -/
theorem Forward.deps_of_violations {f : Forward} {t : Target} {params : List String}
    {path : String} (only : f.targets = [t]) (clean : f.mappingViolations params path = []) :
    ∀ field ∈ f.expressions, ∀ ref ∈ field.2.nodeRefs, ref.1 ∈ f.deps := by
  unfold mappingViolations at clean
  rw [target?_of_targets only] at clean
  have fields := (List.append_eq_nil_iff.mp clean).2
  intro field hfield ref href
  have own := (List.append_eq_nil_iff.mp (List.flatMap_eq_nil_iff.mp fields field hfield)).1
  have listed := Violation.of_eq_nil_iff.mp (List.flatMap_eq_nil_iff.mp own ref href)
  simpa using listed

namespace Endpoint

variable {e : Endpoint} {path : String}

/-- The names of forwards are compared with those before, so they differ. -/
theorem nodup_of_violations (clean : e.forwardViolations path = []) :
    (e.forwards.map (·.name)).Nodup := by
  refine nodup_map_of_fresh fun i f at_i taken => ?_
  have kept := kept_of_violations clean (mem_numberedForwards at_i path)
  have apart := (Forward.named_of_violations kept.name).2
  obtain ⟨f', before, same⟩ := List.mem_map.mp taken
  exact List.any_eq_false.mp apart f' before (by simpa using same)

/-- The forwards of an endpoint that keeps the rules refer only to forwards they wait for. -/
theorem refers_of_violations (clean : e.forwardViolations path = []) {f : Forward}
    (hf : f ∈ e.forwards) {node : ForwardNode} (compiled : ForwardNode.compile f = .ok node) :
    node.RefersToDeps := by
  obtain ⟨before, place, numbered⟩ := exists_numbered hf path
  have kept := kept_of_violations clean numbered
  obtain ⟨t, only, -⟩ := Forward.target_of_violations kept.target
  intro field hfield ref href
  rw [ForwardNode.mapping_of_compile compiled] at hfield
  rw [(ForwardNode.compile_keeps compiled).2]
  exact Forward.deps_of_violations only kept.mapping field hfield ref href

end Endpoint

/-! ### Routes -/

/-- What a route needs so that its requests go wrong for what they bring and are answered, never
for what was declared. -/
structure Route.Sound (r : Route) : Prop where
  binder : r.binder.Closed
  ranked : ∃ rank, r.chain.Ranked rank
  distinct : r.chain.names.Nodup
  refers : ∀ node ∈ r.chain.nodes, node.RefersToDeps

theorem Api.sound_of_compile {d : Document} {a : Api} (compiled : Api.compile d = .ok a) {r : Route}
    (hr : r ∈ a.routes) : r.Sound := by
  have valid := Document.validate_of_compile compiled
  obtain ⟨_, -, rest⟩ := bind_eq_ok_iff.mp compiled
  obtain ⟨types, registered, rest⟩ := bind_eq_ok_iff.mp rest
  obtain ⟨routes, each, same⟩ := bind_eq_ok_iff.mp rest
  cases same
  have declared := (Document.complete_of_validate valid).types
  cases declared.symm.trans (mapError_eq_ok_iff.mp registered)
  obtain ⟨e, he, route⟩ := exists_of_mem_mapM each hr
  obtain ⟨i, at_i⟩ := List.mem_iff_getElem?.mp he
  obtain ⟨lawful, -⟩ := Document.lawful_of_validate valid at_i
  obtain ⟨method, -, rest⟩ := bind_eq_ok_iff.mp route
  obtain ⟨chain, forwards, same⟩ := bind_eq_ok_iff.mp rest
  cases same
  have forwards := mapError_eq_ok_iff.mp forwards
  refine ⟨⟨Document.closed_of_validate valid, fun group hgroup => ?_⟩,
    Chain.exists_ranked_of_compile forwards, ?_, fun node hnode => ?_⟩
  · exact Members.known_of_violations (lawful.params group hgroup)
  · rw [Chain.names_of_compile forwards]
    exact Endpoint.nodup_of_violations lawful.forwards
  · obtain ⟨-, compiled⟩ := Chain.compile_eq_ok_iff.mp forwards
    obtain ⟨f, hf, own⟩ := exists_of_mem_mapM (mapM_eq_ok_iff.mpr compiled) hnode
    exact Endpoint.refers_of_violations lawful.forwards hf own

end ApiGateway
