import ApiGateway.Proofs.Reading.Keyed
import ApiGateway.Proofs.Serving.Agreement
import ApiGateway.Serving.Gateway
import Mathlib.Data.List.Nodup

/-
Who serves a request.

Documents are added, replaced and removed while others are being added: an addition reads its
document first, and only then locks the gateway, looks for conflicts and puts the document in. So a
`ConcurrentGateway` is a gateway with the additions that have read their documents, and the locked
part of each operation is a step of its own.

* `Route.key`, `Api.Distinct` - what a route answers, and a document whose routes all differ in it.
* `Api.distinct_of_compile` - validation compares the joined urls, so what compiles is distinct.
* `Gateway.Routed` - names, the routes of a document and the routes of two documents all differ.
* `Gateway.Routed.install`, `Gateway.Routed.remove` - every change of a gateway keeps this.
* `Gateway.Routed.find?_eq_some_iff` - what is found is the one route there is.
* `Gateway.Replaced` - what becomes of the routes when a document is put in.
* `ConcurrentGateway.Routing` - all of it, in the words of requests; it holds after every run.
-/

namespace ApiGateway

/-! ### The routes of a document -/

namespace Route

/-- The requests that a route answers. -/
def key (r : Route) : Method × String := (r.method, r.url)

theorem serves_iff {r : Route} {method : Method} {url : String} :
    r.serves method url = true ↔ r.key = (method, url) := by
  simp [serves, key]

/-- A compiled route answers what validation takes the endpoint to answer. -/
theorem route?_of_compile {base path : String} {types : TypeRegistry} {e : Endpoint} {r : Route}
    (clean : e.urlViolations path = []) (compiled : Route.compile base types e = .ok r) :
    e.route? base = some r.key := by
  obtain ⟨method, written, rest⟩ := bind_eq_ok_iff.mp compiled
  obtain ⟨chain, -, same⟩ := bind_eq_ok_iff.mp rest
  cases same
  have nonempty : e.url.isEmpty = false := by
    by_contra empty
    have none : e.url = "" := by simpa using empty
    rw [Endpoint.urlViolations, none] at clean
    exact absurd clean (List.cons_ne_nil _ _)
  rw [Endpoint.route?, mapError_eq_ok_iff.mp written]
  dsimp only
  rw [nonempty, if_neg Bool.false_ne_true]
  rfl

end Route

namespace Api

/-- No two routes of the document answer the same requests. -/
def Distinct (a : Api) : Prop := (a.routes.map Route.key).Nodup

variable {a : Api} {d : Document} {method : Method} {url : String}

/-- A compiled document has the routes that validation takes its endpoints to have. -/
theorem route_keys_of_compile (compiled : Api.compile d = .ok a) :
    a.routes.map (some ∘ Route.key) = d.endpoints.map (·.route? d.baseUrl) := by
  have valid := Document.validate_of_compile compiled
  obtain ⟨_, -, rest⟩ := bind_eq_ok_iff.mp compiled
  obtain ⟨types, -, rest⟩ := bind_eq_ok_iff.mp rest
  obtain ⟨routes, each, same⟩ := bind_eq_ok_iff.mp rest
  cases same
  have urls : ∀ e ∈ d.endpoints, ∃ path, e.urlViolations path = [] := by
    intro e he
    obtain ⟨i, at_i⟩ := List.mem_iff_getElem?.mp he
    exact ⟨_, (Document.lawful_of_validate valid at_i).1.url⟩
  have keyed : List.Forall₂ (fun e r => e.route? d.baseUrl = some r.key) d.endpoints routes :=
    ((List.forall₂_and_left _ _).mpr ⟨urls, mapM_eq_ok_iff.mp each⟩).imp
      fun e r ⟨⟨_, clean⟩, compiled⟩ => Route.route?_of_compile clean compiled
  rw [← List.forall₂_eq_eq_eq, List.forall₂_map_left_iff, List.forall₂_map_right_iff]
  exact keyed.flip.imp fun r e h => h.symm

/-- Validation compares the route of each endpoint with those before it. -/
theorem distinct_of_compile (compiled : Api.compile d = .ok a) : a.Distinct := by
  have keys := route_keys_of_compile compiled
  refine List.Nodup.of_map some ?_
  rw [List.map_map, keys]
  refine nodup_map_of_fresh fun i e at_i taken => ?_
  obtain ⟨e', before, same⟩ := List.mem_map.mp taken
  have compiled_e : e.route? d.baseUrl ∈ a.routes.map (some ∘ Route.key) :=
    keys ▸ List.mem_map_of_mem (List.mem_of_getElem? at_i)
  obtain ⟨r, -, keyed⟩ := List.mem_map.mp compiled_e
  rw [Function.comp_apply] at keyed
  have taken : r.key ∈ d.routesBefore i :=
    List.mem_filterMap.mpr ⟨e', before, same.trans keyed.symm⟩
  have own := (Document.lawful_of_validate (Document.validate_of_compile compiled) at_i).2
  rw [Document.routeViolations, ← keyed] at own
  have free := Violation.of_eq_nil_iff.mp own
  rw [List.contains_eq_mem, decide_eq_false_iff_not] at free
  exact free taken

/-- Two positions of the same requests are one. -/
theorem Distinct.position_eq (distinct : a.Distinct) {i j : Nat} {r r' : Route}
    (at_i : a.routes[i]? = some r) (at_j : a.routes[j]? = some r') (same : r.key = r'.key) :
    i = j := by
  have bound : i < (a.routes.map Route.key).length := by
    rw [List.length_map]
    exact (List.getElem?_eq_some_iff.mp at_i).1
  refine (List.getElem?_inj bound distinct).mp ?_
  rw [List.getElem?_map, List.getElem?_map, at_i, at_j, Option.map_some, Option.map_some, same]

/-- In a document whose routes differ, a route is found at its own position. -/
theorem Distinct.indexOf?_eq_some_iff (distinct : a.Distinct) {i : Nat} :
    a.indexOf? method url = some i ↔ ∃ r, a.routes[i]? = some r ∧ r.key = (method, url) := by
  unfold indexOf?
  rw [List.findIdx?_eq_some_iff_getElem]
  constructor
  · rintro ⟨hi, served, -⟩
    exact ⟨a.routes[i], List.getElem?_eq_getElem hi, Route.serves_iff.mp served⟩
  · rintro ⟨r, at_i, keyed⟩
    obtain ⟨hi, rfl⟩ := List.getElem?_eq_some_iff.mp at_i
    refine ⟨hi, Route.serves_iff.mpr keyed, fun j hj served => ?_⟩
    have later := distinct.position_eq (List.getElem?_eq_getElem (Nat.lt_trans hj hi)) at_i
      ((Route.serves_iff.mp served).trans keyed.symm)
    exact absurd later (Nat.ne_of_lt hj)

theorem indexOf?_eq_none_iff :
    a.indexOf? method url = none ↔ ∀ r ∈ a.routes, r.key ≠ (method, url) := by
  unfold indexOf?
  rw [List.findIdx?_eq_none_iff]
  refine forall₂_congr fun r _ => ?_
  rw [← Bool.not_eq_true, Route.serves_iff]

theorem isSome_find?_iff :
    (a.find? method url).isSome = true ↔ ∃ r ∈ a.routes, r.key = (method, url) := by
  unfold find?
  rw [List.find?_isSome]
  simp only [Route.serves_iff]

theorem distinct_of_parse {text : String} (parsed : Api.parse text = .ok a) : a.Distinct := by
  obtain ⟨⟨d, format⟩, -, compiled⟩ := bind_eq_ok_iff.mp parsed
  exact distinct_of_compile compiled

end Api

/-! ### The routes of a gateway -/

namespace Gateway

/-- No two endpoints of the gateway answer the same requests, and no two documents have a name. -/
structure Routed (g : Gateway) : Prop where
  names : (g.documents.map Prod.fst).Nodup
  distinct : ∀ name a, (name, a) ∈ g.documents → a.Distinct
  apart : ∀ name a owner other, (name, a) ∈ g.documents → (owner, other) ∈ g.documents →
    name ≠ owner → ∀ r ∈ a.routes, ∀ r' ∈ other.routes, r.key ≠ r'.key

variable {g g' : Gateway} {name content : String} {a : Api} {method : Method} {url : String}

theorem routed_empty : Routed {} where
  names := List.nodup_nil
  distinct := nofun
  apart := nofun

theorem parse_of_prepare (prepared : prepare name content = .ok a) : Api.parse content = .ok a := by
  unfold prepare at prepared
  by_cases named : Text.isBlankText name = true
  · rw [if_pos named] at prepared
    cases prepared
  · rw [if_neg named] at prepared
    by_cases written : Text.isBlankText content = true
    · rw [if_pos written] at prepared
      cases prepared
    · rw [if_neg written] at prepared
      exact mapError_eq_ok_iff.mp prepared

theorem sharedRoute?_eq_none_iff {other : Api} :
    sharedRoute? a other = none ↔ ∀ r ∈ a.routes, ∀ r' ∈ other.routes, r.key ≠ r'.key := by
  unfold sharedRoute?
  rw [List.find?_eq_none]
  refine forall₂_congr fun r _ => ?_
  rw [Api.isSome_find?_iff]
  constructor
  · intro free r' hr' same
    exact free ⟨r', hr', same.symm⟩
  · rintro free ⟨r', hr', same⟩
    exact free r' hr' same.symm

/-- There is no conflict when no document of another name has one of the routes. -/
theorem conflict?_eq_none_iff : g.conflict? name a = none ↔
    ∀ owner other, (owner, other) ∈ g.documents → owner ≠ name →
      ∀ r ∈ a.routes, ∀ r' ∈ other.routes, r.key ≠ r'.key := by
  unfold conflict?
  rw [List.findSome?_eq_none_iff, Prod.forall]
  refine forall₃_congr fun owner other _ => ?_
  dsimp only
  by_cases own : owner = name
  · rw [if_pos own]
    exact iff_of_true rfl fun others => absurd own others
  · rw [if_neg own, Option.map_eq_none_iff, sharedRoute?_eq_none_iff]
    exact ⟨fun free _ => free, fun free => free own⟩

/-- A document is installed when it has no route of another, and then stands under its name. -/
theorem install_eq_ok_iff : g.install name a = .ok g' ↔
    g.conflict? name a = none ∧ g' = ⟨Reading.putEntry g.documents name a⟩ := by
  unfold install
  cases g.conflict? name a with
  | some owned => simp
  | none => simp [eq_comm]

theorem mem_documents_of_install (installed : g.install name a = .ok g') {e : String × Api} :
    e ∈ g'.documents ↔ e = (name, a) ∨ e ∈ g.documents ∧ e.1 ≠ name := by
  obtain ⟨-, rfl⟩ := install_eq_ok_iff.mp installed
  exact Reading.mem_putEntry

/-- An addition that succeeds leaves the gateway routed: its own routes differ by validation, those
of other documents by the search for conflicts, and the document it replaces is gone. -/
theorem Routed.install (routed : g.Routed) (distinct : a.Distinct)
    (installed : g.install name a = .ok g') : g'.Routed := by
  obtain ⟨free, put⟩ := install_eq_ok_iff.mp installed
  have free := conflict?_eq_none_iff.mp free
  constructor
  · rw [put]
    exact Reading.nodup_putEntry routed.names
  · intro n b hb
    rcases (mem_documents_of_install installed).mp hb with same | ⟨old, -⟩
    · cases same
      exact distinct
    · exact routed.distinct n b old
  · intro n b owner other hb hother differ
    rcases (mem_documents_of_install installed).mp hb with same | ⟨old, not_name⟩ <;>
      rcases (mem_documents_of_install installed).mp hother with same' | ⟨old', not_name'⟩
    · cases same
      cases same'
      exact absurd rfl differ
    · cases same
      exact free owner other old' not_name'
    · cases same'
      intro r hr r' hr' shared
      exact free n b old not_name r' hr' r hr shared.symm
    · exact routed.apart n b owner other old old' differ

theorem Routed.remove (routed : g.Routed) (name : String) : (g.remove name).Routed where
  names := routed.names.sublist (List.filter_sublist.map Prod.fst)
  distinct := fun n b hb => routed.distinct n b (List.mem_filter.mp hb).1
  apart := fun n b owner other hb hother =>
    routed.apart n b owner other (List.mem_filter.mp hb).1 (List.mem_filter.mp hother).1

/-- Two places of the same requests are one. -/
theorem Routed.place_eq (routed : g.Routed) {owner : String} {other : Api} {i j : Nat}
    {r r' : Route} (installed : (name, a) ∈ g.documents) (at_i : a.routes[i]? = some r)
    (installed' : (owner, other) ∈ g.documents) (at_j : other.routes[j]? = some r')
    (same : r.key = r'.key) : name = owner ∧ a = other ∧ i = j := by
  have names : name = owner := by
    by_contra differ
    exact routed.apart name a owner other installed installed' differ r
      (List.mem_of_getElem? at_i) r' (List.mem_of_getElem? at_j) same
  have one := List.inj_on_of_nodup_map routed.names installed installed' names
  cases one
  exact ⟨rfl, rfl, (routed.distinct name a installed).position_eq at_i at_j same⟩

/-- What is found is a route of an installed document that answers the request; every such route is
found. -/
theorem Routed.find?_eq_some_iff (routed : g.Routed) {i : Nat} :
    g.find? method url = some (a, i) ↔ ∃ name r,
      (name, a) ∈ g.documents ∧ a.routes[i]? = some r ∧ r.key = (method, url) := by
  have sound : ∀ {a i}, g.find? method url = some (a, i) → ∃ name r,
      (name, a) ∈ g.documents ∧ a.routes[i]? = some r ∧ r.key = (method, url) := by
    intro a i found
    obtain ⟨⟨name, b⟩, installed, here⟩ := List.exists_of_findSome?_eq_some found
    obtain ⟨j, indexed, same⟩ := Option.map_eq_some_iff.mp here
    cases same
    obtain ⟨r, at_i, keyed⟩ :=
      (routed.distinct name a installed).indexOf?_eq_some_iff.mp indexed
    exact ⟨name, r, installed, at_i, keyed⟩
  refine ⟨sound, ?_⟩
  rintro ⟨name, r, installed, at_i, keyed⟩
  cases found : g.find? method url with
  | none =>
    have missed := List.findSome?_eq_none_iff.mp found (name, a) installed
    have absent := Api.indexOf?_eq_none_iff.mp (Option.map_eq_none_iff.mp missed)
    exact absurd keyed (absent r (List.mem_of_getElem? at_i))
  | some place =>
    obtain ⟨b, j⟩ := place
    obtain ⟨owner, r', installed', at_j, keyed'⟩ := sound found
    obtain ⟨-, rfl, rfl⟩ :=
      routed.place_eq installed at_i installed' at_j (keyed.trans keyed'.symm)
    rfl

/-- Nothing is found when no installed document answers the request. -/
theorem find?_eq_none_iff : g.find? method url = none ↔
    ∀ name a, (name, a) ∈ g.documents → ∀ r ∈ a.routes, r.key ≠ (method, url) := by
  unfold find?
  rw [List.findSome?_eq_none_iff, Prod.forall]
  refine forall₃_congr fun name a _ => ?_
  rw [Option.map_eq_none_iff, Api.indexOf?_eq_none_iff]

/-! ### Replacing a document -/

/-- What becomes of the routes when a document is installed under a name. -/
structure Replaced (g : Gateway) (name : String) (a : Api) (g' : Gateway) : Prop where
  /-- The routes of the new document lead to it. -/
  current : ∀ i r, a.routes[i]? = some r → g'.find? r.method r.url = some (a, i)
  /-- A route that only the document before it under the name had is gone. -/
  dropped : ∀ old r, (name, old) ∈ g.documents → r ∈ old.routes →
    (∀ r' ∈ a.routes, r'.key ≠ r.key) → g'.find? r.method r.url = none
  /-- The routes of another document led to it and still do. -/
  kept : ∀ owner other i r, owner ≠ name → (owner, other) ∈ g.documents →
    other.routes[i]? = some r →
      g.find? r.method r.url = some (other, i) ∧ g'.find? r.method r.url = some (other, i)

theorem Routed.replaced (routed : g.Routed) (distinct : a.Distinct)
    (installed : g.install name a = .ok g') : g.Replaced name a g' := by
  have routed' := routed.install distinct installed
  constructor
  · intro i r at_i
    have own := (mem_documents_of_install installed).mpr (.inl rfl)
    exact routed'.find?_eq_some_iff.mpr ⟨name, r, own, at_i, rfl⟩
  · intro old r was hr without
    rw [find?_eq_none_iff]
    intro owner other there r' hr' same
    rcases (mem_documents_of_install installed).mp there with new | ⟨before, differs⟩
    · cases new
      exact without r' hr' same
    · exact routed.apart owner other name old before was differs r' hr' r hr same
  · intro owner other i r differs there at_i
    have still := (mem_documents_of_install installed).mpr (.inr ⟨there, differs⟩)
    exact ⟨routed.find?_eq_some_iff.mpr ⟨owner, r, there, at_i, rfl⟩,
      routed'.find?_eq_some_iff.mpr ⟨owner, r, still, at_i, rfl⟩⟩

/-! ### Listings -/

theorem mem_listings {l : Listing} : l ∈ g.listings ↔ ∃ name a r, (name, a) ∈ g.documents ∧
    r ∈ a.routes ∧ l = ⟨name, r.method, r.url, r.chain.nodes.length⟩ := by
  simp only [listings, List.mem_flatMap, List.mem_map, Prod.exists]
  constructor
  · rintro ⟨name, a, there, r, hr, rfl⟩
    exact ⟨name, a, r, there, hr, rfl⟩
  · rintro ⟨name, a, r, there, hr, rfl⟩
    exact ⟨name, a, there, r, hr, rfl⟩

/-- What is listed is found: the document of the listing, at the position of its route. -/
theorem Routed.find?_of_mem_listings (routed : g.Routed) {l : Listing} (listed : l ∈ g.listings) :
    ∃ a i r, g.find? l.method l.url = some (a, i) ∧ (l.document, a) ∈ g.documents ∧
      a.routes[i]? = some r ∧ l = ⟨l.document, r.method, r.url, r.chain.nodes.length⟩ := by
  obtain ⟨name, a, r, there, hr, rfl⟩ := mem_listings.mp listed
  obtain ⟨i, at_i⟩ := List.mem_iff_getElem?.mp hr
  exact ⟨a, i, r, routed.find?_eq_some_iff.mpr ⟨name, r, there, at_i, rfl⟩, there, at_i, rfl⟩

theorem Routed.exists_find?_iff (routed : g.Routed) :
    (∃ place, g.find? method url = some place) ↔
      ∃ l ∈ g.listings, l.method = method ∧ l.url = url := by
  constructor
  · rintro ⟨⟨a, i⟩, found⟩
    obtain ⟨name, r, there, at_i, keyed⟩ := routed.find?_eq_some_iff.mp found
    obtain ⟨rfl, rfl⟩ := Prod.mk.inj keyed
    exact ⟨_, mem_listings.mpr ⟨name, a, r, there, List.mem_of_getElem? at_i, rfl⟩, rfl, rfl⟩
  · rintro ⟨l, listed, rfl, rfl⟩
    obtain ⟨a, i, r, found, -⟩ := routed.find?_of_mem_listings listed
    exact ⟨(a, i), found⟩

/-- No two listings are of the same requests. -/
theorem Routed.nodup_listings (routed : g.Routed) :
    (g.listings.map fun l => (l.method, l.url)).Nodup := by
  have keys : (g.listings.map fun l => (l.method, l.url)) =
      g.documents.flatMap fun e => e.2.routes.map Route.key := by
    rw [listings, List.map_flatMap]
    refine List.flatMap_congr fun e _ => ?_
    rw [List.map_map]
    rfl
  rw [keys, List.nodup_flatMap]
  refine ⟨fun e he => routed.distinct e.1 e.2 he, ?_⟩
  have differ := List.pairwise_map.mp routed.names
  refine differ.imp_of_mem fun {e e'} he he' names => ?_
  refine List.disjoint_left.mpr fun key here there => ?_
  obtain ⟨r, hr, rfl⟩ := List.mem_map.mp here
  obtain ⟨r', hr', same⟩ := List.mem_map.mp there
  exact routed.apart e.1 e.2 e'.1 e'.2 he he' names r hr r' hr' same.symm

end Gateway

/-! ### A gateway among concurrent tasks -/

/-- A gateway with the additions that have read their documents and not installed them. -/
structure ConcurrentGateway where
  gateway : Gateway := {}
  waiting : List (String × Api) := []

inductive GatewayEvent where
  /-- An addition begins: it reads its document. -/
  | begin (name content : String)
  /-- The addition at a position installs its document. -/
  | install (position : Nat)
  | remove (name : String)

namespace ConcurrentGateway

/-- What an event does, with the error that it ends an addition with. -/
def act (s : ConcurrentGateway) : GatewayEvent → Option GatewayError × ConcurrentGateway
  | .begin name content =>
    match Gateway.prepare name content with
    | .error e => (some e, s)
    | .ok a => (none, { s with waiting := s.waiting ++ [(name, a)] })
  | .install position =>
    match s.waiting[position]? with
    | none => (none, s)
    | some (name, a) =>
      let s := { s with waiting := s.waiting.eraseIdx position }
      match s.gateway.install name a with
      | .error e => (some e, s)
      | .ok g => (none, { s with gateway := g })
  | .remove name => (none, { s with gateway := s.gateway.remove name })

def step (s : ConcurrentGateway) (e : GatewayEvent) : ConcurrentGateway := (s.act e).2

/-- The state after events, from a gateway without documents. -/
def run (events : List GatewayEvent) : ConcurrentGateway := events.foldl step {}

/-- An addition taken without pause begins and installs. -/
theorem step_add (s : ConcurrentGateway) (name content : String) :
    (s.step (.begin name content)).step (.install s.waiting.length) =
      match s.gateway.add name content with
      | .ok g => { s with gateway := g }
      | .error _ => s := by
  unfold Gateway.add
  cases prepared : Gateway.prepare name content with
  | error e =>
    have stays : s.step (.begin name content) = s := by simp only [step, act, prepared]
    have past : s.waiting[s.waiting.length]? = none := List.getElem?_eq_none (Nat.le_refl _)
    rw [stays]
    simp only [step, act, past]
    rfl
  | ok a =>
    have begun : s.step (.begin name content) = { s with waiting := s.waiting ++ [(name, a)] } := by
      simp only [step, act, prepared]
    have last : (s.waiting ++ [(name, a)])[s.waiting.length]? = some (name, a) := by simp
    have erased : (s.waiting ++ [(name, a)]).eraseIdx s.waiting.length = s.waiting := by
      rw [List.eraseIdx_append_of_length_le (Nat.le_refl _), Nat.sub_self, List.eraseIdx_cons_zero,
        List.append_nil]
    rw [begun]
    simp only [step, act, last, erased]
    change _ = match s.gateway.install name a with
      | .ok g => { s with gateway := g }
      | .error _ => s
    cases s.gateway.install name a <;> rfl

/-- The gateway is routed, and what waits has been read. -/
structure Sound (s : ConcurrentGateway) : Prop where
  routed : s.gateway.Routed
  read : ∀ name a, (name, a) ∈ s.waiting → ∃ content, Gateway.prepare name content = .ok a

theorem Sound.distinct {s : ConcurrentGateway} (sound : s.Sound) {name : String} {a : Api}
    (waits : (name, a) ∈ s.waiting) : a.Distinct := by
  obtain ⟨content, prepared⟩ := sound.read name a waits
  exact Api.distinct_of_parse (Gateway.parse_of_prepare prepared)

theorem Sound.step {s : ConcurrentGateway} (sound : s.Sound) (e : GatewayEvent) :
    (s.step e).Sound := by
  cases e with
  | begin name content =>
    cases prepared : Gateway.prepare name content with
    | error e =>
      simpa only [ConcurrentGateway.step, act, prepared] using sound
    | ok a =>
      simp only [ConcurrentGateway.step, act, prepared]
      refine ⟨sound.routed, fun n b waits => ?_⟩
      rcases List.mem_append.mp waits with old | new
      · exact sound.read n b old
      · cases List.mem_singleton.mp new
        exact ⟨content, prepared⟩
  | install position =>
    cases waits : s.waiting[position]? with
    | none =>
      simpa only [ConcurrentGateway.step, act, waits] using sound
    | some entry =>
      obtain ⟨name, a⟩ := entry
      have others : ∀ n b, (n, b) ∈ s.waiting.eraseIdx position →
          ∃ content, Gateway.prepare n content = .ok b :=
        fun n b hb => sound.read n b (List.mem_of_mem_eraseIdx hb)
      cases installed : s.gateway.install name a with
      | error e =>
        simp only [ConcurrentGateway.step, act, waits, installed]
        exact ⟨sound.routed, others⟩
      | ok g =>
        simp only [ConcurrentGateway.step, act, waits, installed]
        have distinct := sound.distinct (List.mem_of_getElem? waits)
        exact ⟨sound.routed.install distinct installed, others⟩
  | remove name => exact ⟨sound.routed.remove name, sound.read⟩

/-- Every event keeps the gateway routed, so it is after any run. -/
theorem sound_run (events : List GatewayEvent) : (run events).Sound := by
  have kept : ∀ s : ConcurrentGateway, s.Sound → (events.foldl ConcurrentGateway.step s).Sound := by
    induction events with
    | nil => exact fun s sound => sound
    | cons e es ih => exact fun s sound => ih (s.step e) (sound.step e)
  exact kept {} ⟨Gateway.routed_empty, nofun⟩

/-- An event that ends an addition with an error leaves the documents. -/
theorem documents_of_failed {s : ConcurrentGateway} {e : GatewayEvent} {err : GatewayError}
    (failed : (s.act e).1 = some err) : (s.step e).gateway.documents = s.gateway.documents := by
  cases e with
  | begin name content =>
    cases prepared : Gateway.prepare name content with
    | error e => simp only [step, act, prepared]
    | ok a => simp only [step, act, prepared]
  | install position =>
    cases waits : s.waiting[position]? with
    | none => simp only [step, act, waits]
    | some entry =>
      cases installed : s.gateway.install entry.1 entry.2 with
      | error e => simp only [step, act, waits, installed]
      | ok g =>
        simp only [act, waits, installed] at failed
        cases failed
  | remove name => cases failed

/-- How requests are routed. -/
structure Routing (s : ConcurrentGateway) : Prop where
  /-- No two endpoints serve the same method and url, of one document or of two. -/
  unique : (s.gateway.listings.map fun l => (l.method, l.url)).Nodup
  /-- Something is found exactly for what is listed. -/
  found_iff : ∀ method url, (∃ place, s.gateway.find? method url = some place) ↔
    ∃ l ∈ s.gateway.listings, l.method = method ∧ l.url = url
  /-- What is found for a listing is its document, at the route that is listed. -/
  found : ∀ l ∈ s.gateway.listings, ∃ a i r, s.gateway.find? l.method l.url = some (a, i) ∧
    (l.document, a) ∈ s.gateway.documents ∧ a.routes[i]? = some r ∧
    l = ⟨l.document, r.method, r.url, r.chain.nodes.length⟩
  /-- An addition that fails, before or after it locks the gateway, leaves the documents in their
  order. -/
  failed : ∀ e err, (s.act e).1 = some err → (s.step e).gateway.documents = s.gateway.documents
  /-- An addition that succeeds leads its routes to the new document, drops those of the document it
  replaces and leaves all others. -/
  added : ∀ name content g, s.gateway.add name content = .ok g →
    ∃ a, Api.parse content = .ok a ∧ s.gateway.Replaced name a g
  /-- So does the part of an addition that is locked, whatever happened since it began. -/
  installed : ∀ position name a, s.waiting[position]? = some (name, a) →
    (∃ content, Gateway.prepare name content = .ok a) ∧
    ((s.act (.install position)).1 = none →
      s.gateway.Replaced name a (s.step (.install position)).gateway)

/-- A request is routed to the one endpoint there is for it, whatever was added, replaced and
removed, and in whatever order the operations took their turns. -/
theorem routing_run (events : List GatewayEvent) : (run events).Routing := by
  have sound := sound_run events
  constructor
  · exact sound.routed.nodup_listings
  · exact fun method url => sound.routed.exists_find?_iff
  · exact fun l listed => sound.routed.find?_of_mem_listings listed
  · exact fun e err failed => documents_of_failed failed
  · intro name content g added
    obtain ⟨a, prepared, installed⟩ := bind_eq_ok_iff.mp added
    have parsed := Gateway.parse_of_prepare prepared
    exact ⟨a, parsed, sound.routed.replaced (Api.distinct_of_parse parsed) installed⟩
  · intro position name a waits
    have waiting := List.mem_of_getElem? waits
    refine ⟨sound.read name a waiting, fun succeeded => ?_⟩
    cases installed : (run events).gateway.install name a with
    | error e =>
      simp only [act, waits, installed] at succeeded
      cases succeeded
    | ok g =>
      have after : ((run events).step (.install position)).gateway = g := by
        simp only [step, act, waits, installed]
      rw [after]
      exact sound.routed.replaced (sound.distinct waiting) installed

end ConcurrentGateway

end ApiGateway
