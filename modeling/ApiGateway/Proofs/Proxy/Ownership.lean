import ApiGateway.Proofs.Json.Entries
import ApiGateway.Proxy.Backend

/-
Who owns a service, whatever has happened to the registry.

Services are bound one by one, several at once, or by the record of a backend; a proxy that is
withdrawn loses all of them. A service belongs to the proxy that it was last bound to, unless that
proxy was withdrawn after this: an owner before that one does not come back, and withdrawing it takes
nothing from the later one.

* `RegistryEvent` - what happens to a registry, `ProxyRegistry.run` - one thing after another.
* `RegistryEvent.Binds` - the services that an event binds, and the proxy. A record that cannot be
  read or has a blank name binds nothing.
* `RegistryEvent.Takes` - the events that take a service away from an owner;
  `ProxyRegistry.owner?_run_of_not_takes` - without one the owner stays.
* `ProxyRegistry.owner?_step`, `ProxyRegistry.owner?_run` - the owner after an event, and after
  events of which none binds the service.
* `ProxyRegistry.Remembers` - what a registry answers, in terms of what has happened;
  `ProxyRegistry.remembers_run` - it does.
-/

namespace ApiGateway

namespace Registration

/-- What a record says, blank names or not. -/
def said? (body : Bytes) : Option Registration := do read? (← Json.Node.parseBytes? body)

/-- No name is blank. -/
def Named (reg : Registration) : Prop := ∀ service ∈ reg.services, Text.isBlankText service = false

theorem not_named_iff {reg : Registration} :
    ¬ reg.Named ↔ ∃ service ∈ reg.services, Text.isBlankText service = true := by
  simp [Named]

theorem decode_of_named {body : Bytes} {reg : Registration} (said : said? body = some reg)
    (named : reg.Named) : decode body = .ok reg := by
  have blank : reg.services.any Text.isBlankText = false := List.any_eq_false.mpr fun s mem =>
    Bool.eq_false_iff.mp (named s mem)
  unfold said? at said
  rw [decode, said]
  exact if_neg (Bool.eq_false_iff.mp blank)

theorem decode_of_not_named {body : Bytes} {reg : Registration} (said : said? body = some reg)
    (unnamed : ¬ reg.Named) : decode body = .error (.registration .blankName) := by
  obtain ⟨service, mem, blank⟩ := not_named_iff.mp unnamed
  unfold said? at said
  rw [decode, said]
  exact if_pos (List.any_eq_true.mpr ⟨service, mem, blank⟩)

theorem decode_of_unread {body : Bytes} (unread : said? body = none) :
    decode body = .error (.registration .notJson) := by
  unfold said? at unread
  rw [decode, unread]

end Registration

/-- What happens to a registry. -/
inductive RegistryEvent where
  | register (service : String) (owner : ProxyRef)
  | registerAll (services : List String) (owner : ProxyRef)
  /-- A record comes through a proxy. -/
  | record (body : Bytes) (owner : ProxyRef)
  | unregister (owner : ProxyRef)
deriving DecidableEq

/-- The event binds a service to a proxy. -/
inductive RegistryEvent.Binds (service : String) (owner : ProxyRef) : RegistryEvent → Prop where
  | register : Binds service owner (.register service owner)
  | registerAll {services : List String} (mem : service ∈ services) :
      Binds service owner (.registerAll services owner)
  | record {body : Bytes} {reg : Registration} (said : Registration.said? body = some reg)
      (named : reg.Named) (mem : service ∈ reg.services) : Binds service owner (.record body owner)

/-- The event takes a service from a proxy: it binds it to another one, or withdraws the proxy. -/
inductive RegistryEvent.Takes (service : String) (owner : ProxyRef) : RegistryEvent → Prop where
  | rebound {other : ProxyRef} {e : RegistryEvent} (apart : other ≠ owner)
      (binds : Binds service other e) : Takes service owner e
  | withdrawn : Takes service owner (.unregister owner)

namespace ProxyRegistry

open RegistryEvent (Binds)

def step (r : ProxyRegistry) : RegistryEvent → ProxyRegistry
  | .register service owner => r.register service owner
  | .registerAll services owner => r.registerAll services owner
  | .record body owner => (CallHandler.registration owner body r).2
  | .unregister owner => r.unregister owner

def run (r : ProxyRegistry) (history : List RegistryEvent) : ProxyRegistry := history.foldl step r

/-- The services ascend. -/
def Sorted (r : ProxyRegistry) : Prop := Json.Ascending r.owners

theorem sorted_empty : Sorted {} := Json.ascending_nil

variable {r : ProxyRegistry} {service : String} {owner : ProxyRef}

/-! ### The operations -/

theorem insertOwner_eq (service : String) (owner : ProxyRef) (owners : List (String × ProxyRef)) :
    insertOwner service owner owners = Json.insertEntry service owner owners := by
  induction owners with
  | nil => rfl
  | cons e owners ih => simp only [insertOwner, Json.insertEntry, ih]

@[simp] theorem owner?_register (r : ProxyRegistry) (service : String) (owner : ProxyRef)
    (other : String) :
    (r.register service owner).owner? other = if other = service then some owner else r.owner? other := by
  rw [register, owner?, insertOwner_eq, Json.lookup_insertEntry]
  rfl

theorem sorted_register (sorted : r.Sorted) (service : String) (owner : ProxyRef) :
    (r.register service owner).Sorted := by
  rw [register, Sorted, insertOwner_eq]
  exact Json.sorted_insertEntry sorted

theorem owner?_registerAll (r : ProxyRegistry) (services : List String) (owner : ProxyRef)
    (other : String) :
    (r.registerAll services owner).owner? other =
      if other ∈ services then some owner else r.owner? other := by
  unfold registerAll
  induction services generalizing r with
  | nil => rfl
  | cons service services ih =>
    rw [List.foldl_cons, ih, owner?_register]
    by_cases later : other ∈ services <;> by_cases now : other = service <;> simp [later, now]

theorem sorted_registerAll (sorted : r.Sorted) (services : List String) (owner : ProxyRef) :
    (r.registerAll services owner).Sorted := by
  unfold registerAll
  induction services generalizing r with
  | nil => exact sorted
  | cons service services ih => exact ih (sorted_register sorted service owner)

theorem owner?_eq_some_iff (sorted : r.Sorted) :
    r.owner? service = some owner ↔ (service, owner) ∈ r.owners :=
  Json.lookup_eq_some_iff sorted.nodup

theorem sorted_unregister (sorted : r.Sorted) (owner : ProxyRef) : (r.unregister owner).Sorted :=
  sorted.sublist (List.filter_sublist.map _)

theorem owner?_unregister (sorted : r.Sorted) {other : ProxyRef} :
    (r.unregister other).owner? service = some owner ↔ r.owner? service = some owner ∧ owner ≠ other := by
  rw [owner?_eq_some_iff (sorted_unregister sorted other), owner?_eq_some_iff sorted]
  simp [unregister]

/-- A proxy that is not withdrawn keeps its services. -/
theorem owner?_unregister_of_ne {other : ProxyRef} (found : r.owner? service = some owner)
    (apart : owner ≠ other) : (r.unregister other).owner? service = some owner := by
  obtain ⟨before, after, split, first⟩ := List.lookup_eq_some_iff.mp found
  refine List.lookup_eq_some_iff.mpr ⟨before.filter (·.2 ≠ other), after.filter (·.2 ≠ other), ?_, ?_⟩
  · rw [unregister, split, List.filter_append, List.filter_cons_of_pos (by simpa using apart)]
  · exact fun e mem => first e (List.mem_of_mem_filter mem)

theorem mem_services_iff : service ∈ r.services ↔ ∃ owner, r.owner? service = some owner := by
  have missing : r.owner? service = none ↔ service ∉ r.services := by
    rw [owner?, List.lookup_eq_none_iff, services, List.mem_map]
    constructor
    · rintro none ⟨e, mem, rfl⟩
      exact absurd (none e mem) (by simp)
    · intro absent e mem
      exact bne_iff_ne.mpr fun same => absent ⟨e, mem, same.symm⟩
  rw [← Option.ne_none_iff_exists', ne_eq, missing, not_not]

theorem mem_servicesOf_iff (sorted : r.Sorted) :
    service ∈ r.servicesOf owner ↔ r.owner? service = some owner := by
  rw [owner?_eq_some_iff sorted]
  simp [servicesOf]

theorem sorted_servicesOf (sorted : r.Sorted) (owner : ProxyRef) :
    (r.servicesOf owner).Pairwise (· < ·) :=
  sorted.sublist (List.filter_sublist.map _)

/-- A record binds its names if it can be read and none is blank; else nothing happens. -/
theorem step_record (r : ProxyRegistry) (body : Bytes) (owner : ProxyRef) :
    (∃ reg, Registration.said? body = some reg ∧ reg.Named ∧
      r.step (.record body owner) = r.registerAll reg.services owner) ∨
    (∀ reg, Registration.said? body = some reg → ¬ reg.Named) ∧ r.step (.record body owner) = r := by
  cases said : Registration.said? body with
  | none =>
    refine .inr ⟨nofun, ?_⟩
    simp [step, CallHandler.registration, Registration.decode_of_unread said]
  | some reg =>
    by_cases named : reg.Named
    · refine .inl ⟨reg, rfl, named, ?_⟩
      simp [step, CallHandler.registration, Registration.decode_of_named said named]
    · refine .inr ⟨fun reg' same => by cases same; exact named, ?_⟩
      simp [step, CallHandler.registration, Registration.decode_of_not_named said named]

/-! ### One event -/

theorem sorted_step (sorted : r.Sorted) (e : RegistryEvent) : (r.step e).Sorted := by
  cases e with
  | register service owner => exact sorted_register sorted service owner
  | registerAll services owner => exact sorted_registerAll sorted services owner
  | record body owner =>
    obtain ⟨reg, -, -, step⟩ | ⟨-, step⟩ := r.step_record body owner
    · rw [step]
      exact sorted_registerAll sorted reg.services owner
    · rwa [step]
  | unregister owner => exact sorted_unregister sorted owner

theorem owner?_step_of_binds {e : RegistryEvent} (binds : Binds service owner e) :
    (r.step e).owner? service = some owner := by
  cases binds with
  | register => simp [step]
  | registerAll mem => rw [step, owner?_registerAll, if_pos mem]
  | @record body reg said named mem =>
    obtain ⟨reg', said', -, step⟩ | ⟨refused, -⟩ := r.step_record body owner
    · cases said.symm.trans said'
      rw [step, owner?_registerAll, if_pos mem]
    · exact absurd named (refused reg said)

/-- Nothing but a binding or a withdrawal says anything of a service. -/
theorem owner?_step_eq {e : RegistryEvent} (other : ∀ owner, ¬ Binds service owner e)
    (stays : ∀ owner, e ≠ .unregister owner) : (r.step e).owner? service = r.owner? service := by
  cases e with
  | register service' owner' =>
    have apart : service ≠ service' := by
      rintro rfl
      exact other owner' .register
    rw [step, owner?_register, if_neg apart]
  | registerAll services owner' =>
    have apart : service ∉ services := fun mem => other owner' (.registerAll mem)
    rw [step, owner?_registerAll, if_neg apart]
  | record body owner' =>
    obtain ⟨reg, said, named, step⟩ | ⟨-, step⟩ := r.step_record body owner'
    · have apart : service ∉ reg.services := fun mem => other owner' (.record said named mem)
      rw [step, owner?_registerAll, if_neg apart]
    · rw [step]
  | unregister owner' => exact absurd rfl (stays owner')

/-- An event that does not bind a service takes it from its owner at most, by withdrawing this. -/
theorem owner?_step_of_not_binds (sorted : r.Sorted) {e : RegistryEvent}
    (other : ∀ owner, ¬ Binds service owner e) :
    (r.step e).owner? service = some owner ↔
      r.owner? service = some owner ∧ e ≠ .unregister owner := by
  by_cases withdraws : ∃ owner', e = .unregister owner'
  · obtain ⟨owner', rfl⟩ := withdraws
    rw [step, owner?_unregister sorted]
    exact and_congr_right fun _ => by simp [eq_comm]
  · have stays : ∀ owner, e ≠ .unregister owner := not_exists.mp withdraws
    rw [owner?_step_eq other stays, and_iff_left (stays owner)]

/-- A service that an event does not take stays with its owner. -/
theorem owner?_step_of_not_takes {e : RegistryEvent} (found : r.owner? service = some owner)
    (kept : ¬ e.Takes service owner) : (r.step e).owner? service = some owner := by
  by_cases binds : ∃ other, Binds service other e
  case pos =>
    obtain ⟨other, binds⟩ := binds
    have same : other = owner := by
      by_contra apart
      exact kept (.rebound apart binds)
    rw [owner?_step_of_binds binds, same]
  case neg =>
    by_cases withdraws : ∃ other, e = .unregister other
    case pos =>
      obtain ⟨other, rfl⟩ := withdraws
      have apart : owner ≠ other := by
        rintro rfl
        exact kept .withdrawn
      exact owner?_unregister_of_ne found apart
    case neg => rw [owner?_step_eq (not_exists.mp binds) (not_exists.mp withdraws), found]

/-! ### A history -/

theorem sorted_run (sorted : r.Sorted) (history : List RegistryEvent) : (r.run history).Sorted := by
  induction history generalizing r with
  | nil => exact sorted
  | cons e history ih => exact ih (sorted_step sorted e)

/-- Where nothing binds a service any more, its owner stays until it is withdrawn. -/
theorem owner?_run_of_not_binds (sorted : r.Sorted) {history : List RegistryEvent}
    (other : ∀ e ∈ history, ∀ owner, ¬ Binds service owner e) :
    (r.run history).owner? service = some owner ↔
      r.owner? service = some owner ∧ .unregister owner ∉ history := by
  induction history generalizing r with
  | nil => simp [run]
  | cons e history ih =>
    rw [List.forall_mem_cons] at other
    have later : (r.run (e :: history)).owner? service = ((r.step e).run history).owner? service := rfl
    rw [later, ih (sorted_step sorted e) other.2, owner?_step_of_not_binds sorted other.1,
      List.mem_cons, not_or, and_assoc]
    exact and_congr_right fun _ => and_congr_left' ⟨Ne.symm, Ne.symm⟩

/-- A service that nothing takes stays with its owner. -/
theorem owner?_run_of_not_takes (found : r.owner? service = some owner) {history : List RegistryEvent}
    (kept : ∀ e ∈ history, ¬ e.Takes service owner) : (r.run history).owner? service = some owner := by
  induction history generalizing r with
  | nil => exact found
  | cons e history ih =>
    rw [List.forall_mem_cons] at kept
    exact ih (owner?_step_of_not_takes found kept.1) kept.2

theorem lookup_eq_ok_iff : r.lookup service = .ok owner ↔ r.owner? service = some owner := by
  unfold lookup
  cases r.owner? service <;> simp

theorem lookup_of_unowned (unowned : ∀ owner, r.owner? service ≠ some owner) :
    r.lookup service = .error (.notFound service) := by
  rw [lookup, Option.eq_none_iff_forall_ne_some.mpr unowned]

/-- What a registry answers after a history. -/
structure Remembers (history : List RegistryEvent) (r : ProxyRegistry) : Prop where
  /-- The latest binding of a service counts, unless its proxy was withdrawn after it. -/
  bound : ∀ before e after service owner, history = before ++ e :: after → Binds service owner e →
    (∀ f ∈ after, ∀ other, ¬ Binds service other f) →
    r.lookup service =
      if .unregister owner ∈ after then .error (.notFound service) else .ok owner
  unbound : ∀ service, (∀ e ∈ history, ∀ owner, ¬ Binds service owner e) →
    r.lookup service = .error (.notFound service)
  services : r.services.Pairwise (· < ·) ∧
    ∀ service, service ∈ r.services ↔ ∃ owner, r.lookup service = .ok owner
  /-- The names that a proxy loses when it is withdrawn are its own, and all of them. -/
  removed : ∀ owner, (r.servicesOf owner).Pairwise (· < ·) ∧ ∀ service,
    (service ∈ r.servicesOf owner ↔ service ∈ r.services ∧ service ∉ (r.unregister owner).services) ∧
    (service ∈ r.servicesOf owner ↔ r.lookup service = .ok owner)
  /-- A record that cannot be read or that has a blank name changes nothing. -/
  refused : ∀ body owner, (∀ reg, Registration.said? body = some reg → ¬ reg.Named) →
    r.step (.record body owner) = r

/-- **A registry answers with the latest binding, whatever its history.** -/
theorem remembers_run (history : List RegistryEvent) : Remembers history (run {} history) where
  bound := by
    rintro before e after service owner rfl binds other
    have sorted : ((run {} before).step e).Sorted := sorted_step (sorted_run sorted_empty before) e
    have now : ((run {} before).step e).owner? service = some owner := owner?_step_of_binds binds
    have later (p : ProxyRef) : (run {} (before ++ e :: after)).owner? service = some p ↔
        p = owner ∧ .unregister p ∉ after := by
      have split : run {} (before ++ e :: after) = ((run {} before).step e).run after :=
        List.foldl_append
      rw [split, owner?_run_of_not_binds sorted other, now, Option.some.injEq, eq_comm]
    split
    next withdrawn =>
      refine lookup_of_unowned fun p found => ?_
      obtain ⟨rfl, stays⟩ := (later p).mp found
      exact stays withdrawn
    next stays => exact lookup_eq_ok_iff.mpr ((later owner).mpr ⟨rfl, stays⟩)
  unbound := by
    intro service other
    refine lookup_of_unowned fun p found => ?_
    have before := ((owner?_run_of_not_binds sorted_empty other).mp found).1
    cases before
  services := by
    refine ⟨sorted_run sorted_empty history, fun service => ?_⟩
    simp only [lookup_eq_ok_iff]
    exact mem_services_iff
  removed := by
    intro owner
    have sorted : (run {} history).Sorted := sorted_run sorted_empty history
    refine ⟨sorted_servicesOf sorted owner, fun service => ⟨?_, ?_⟩⟩
    · rw [mem_servicesOf_iff sorted, mem_services_iff, mem_services_iff]
      constructor
      · intro owned
        refine ⟨⟨owner, owned⟩, ?_⟩
        rintro ⟨p, stays⟩
        obtain ⟨owned', apart⟩ := (owner?_unregister sorted).mp stays
        exact apart (Option.some.inj (owned'.symm.trans owned))
      · rintro ⟨⟨p, owned⟩, lost⟩
        by_cases same : p = owner
        · exact same ▸ owned
        · exact absurd ⟨p, (owner?_unregister sorted).mpr ⟨owned, same⟩⟩ lost
    · rw [mem_servicesOf_iff sorted, lookup_eq_ok_iff]
  refused := by
    intro body owner refused
    obtain ⟨reg, said, named, -⟩ | ⟨-, step⟩ := (run {} history).step_record body owner
    · exact absurd named (refused reg said)
    · exact step

end ProxyRegistry

end ApiGateway
