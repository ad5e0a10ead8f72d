import ApiGateway.Proxy.Connection
import Mathlib.Logic.Function.Basic

/-
Connections with two ends of one kind.

What is said of an end depends on what is proved: that its reader and its writer work, or which
operations have begun there. What the connection has of it is its terminal.

* `Duplex` - two ends of one kind; `Duplex.set` - one of them changes.
* `Duplex.through` - the connection of the two.
-/

namespace ApiGateway

@[simp] theorem Side.other_other (side : Side) : side.other.other = side := by
  cases side <;> rfl

theorem Side.other_ne (side : Side) : side.other ≠ side := by
  cases side <;> simp [other]

theorem Side.eq_or_eq_other (side acting : Side) : side = acting ∨ side = acting.other := by
  cases side <;> cases acting <;> simp [other]

/-- The proxy at the other end. -/
def ProxyRef.peer (p : ProxyRef) : ProxyRef := ⟨p.connection, p.side.other⟩

/-- A connection of two ends of one kind. -/
structure Duplex (ε : Type) where
  /-- How many bytes an inbox holds. -/
  capacity : Nat
  ends : Side → ε

namespace Duplex

variable {ε : Type} {terminal : ε → Terminal}

def set (d : Duplex ε) (side : Side) (x : ε) : Duplex ε :=
  { d with ends := Function.update d.ends side x }

@[simp] theorem ends_set_self (d : Duplex ε) (side : Side) (x : ε) : (d.set side x).ends side = x :=
  Function.update_self _ _ _

theorem ends_set_of_ne (d : Duplex ε) {side other : Side} (x : ε) (apart : other ≠ side) :
    (d.set side x).ends other = d.ends other :=
  Function.update_of_ne apart _ _

@[simp] theorem ends_set_other (d : Duplex ε) (side : Side) (x : ε) :
    (d.set side x).ends side.other = d.ends side.other :=
  d.ends_set_of_ne x side.other_ne

theorem ext_ends {d e : Duplex ε} (capacity : d.capacity = e.capacity)
    (ends : ∀ side, d.ends side = e.ends side) : d = e := by
  obtain ⟨_, _⟩ := d
  obtain ⟨_, _⟩ := e
  cases capacity
  exact congrArg _ (funext ends)

/-- The connection of two ends, each with its terminal. -/
def through (terminal : ε → Terminal) (d : Duplex ε) : Connection :=
  ⟨d.capacity, terminal (d.ends .near), terminal (d.ends .far)⟩

theorem terminal_through (d : Duplex ε) (side : Side) :
    (d.through terminal).terminal side = terminal (d.ends side) := by
  cases side <;> rfl

theorem session?_through (d : Duplex ε) {side : Side} {s : Session}
    (seated : (terminal (d.ends side)).party = .session s) :
    (d.through terminal).session? side = some s := by
  rw [Connection.session?, terminal_through, seated]

theorem through_set (d : Duplex ε) (side : Side) (x : ε) :
    (d.set side x).through terminal = (d.through terminal).setTerminal side (terminal x) := by
  cases side <;> rfl

end Duplex

end ApiGateway
