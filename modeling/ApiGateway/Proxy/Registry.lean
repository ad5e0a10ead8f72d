import ApiGateway.Proxy.Error

/-
Which proxy owns which service.

* `ProxyRegistry` - services with their owners. A service has one owner, the latest to register it.
* `ProxyRegistry.register`, `ProxyRegistry.unregister` - bind a service, free all of an owner.
* `ProxyRegistry.lookup` - the owner of a service, or the error that nobody owns it.
* `ProxyRegistry.services` - the names bound, in ascending order.
-/

namespace ApiGateway

/-- The two ends of a connection. -/
inductive Side where
  | near
  | far
deriving DecidableEq, Repr

namespace Side

def other : Side → Side
  | .near => .far
  | .far => .near

end Side

/-- Where a proxy sits: the number of its connection, and the end. -/
structure ProxyRef where
  connection : Nat
  side : Side
deriving DecidableEq, Repr

/-- Services with their owners, in ascending order of the services. -/
structure ProxyRegistry where
  owners : List (String × ProxyRef) := []
deriving DecidableEq, Inhabited

namespace ProxyRegistry

/-- Puts an entry where its name belongs; an entry of the same name is replaced. -/
def insertOwner (service : String) (owner : ProxyRef) :
    List (String × ProxyRef) → List (String × ProxyRef)
  | [] => [(service, owner)]
  | (s, o) :: rest =>
    if service < s then (service, owner) :: (s, o) :: rest
    else if service = s then (service, owner) :: rest
    else (s, o) :: insertOwner service owner rest

/-- Binds a service to an owner. -/
def register (r : ProxyRegistry) (service : String) (owner : ProxyRef) : ProxyRegistry :=
  ⟨insertOwner service owner r.owners⟩

def registerAll (r : ProxyRegistry) (services : List String) (owner : ProxyRef) : ProxyRegistry :=
  services.foldl (fun r s => r.register s owner) r

/-- The owner of a service. -/
def owner? (r : ProxyRegistry) (service : String) : Option ProxyRef := r.owners.lookup service

/-- The owner of a service, which somebody must own. -/
def lookup (r : ProxyRegistry) (service : String) : Except ProxyError ProxyRef :=
  match r.owner? service with
  | some p => .ok p
  | none => .error (.notFound service)

def contains (r : ProxyRegistry) (service : String) : Bool := (r.owner? service).isSome

/-- The bound names in ascending order. -/
def services (r : ProxyRegistry) : List String := r.owners.map (·.1)

/-- The names that an owner has, in ascending order. -/
def servicesOf (r : ProxyRegistry) (owner : ProxyRef) : List String :=
  (r.owners.filter (·.2 = owner)).map (·.1)

/-- Frees every name of an owner. -/
def unregister (r : ProxyRegistry) (owner : ProxyRef) : ProxyRegistry :=
  ⟨r.owners.filter (·.2 ≠ owner)⟩

end ProxyRegistry

end ApiGateway
