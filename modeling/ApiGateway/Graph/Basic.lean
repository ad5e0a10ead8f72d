import ApiGateway.Schema.Forward
import ApiGateway.Text.Names

/-
The dependencies among the forwards of an endpoint.

* `dependencies` - for each forward, which forwards it waits for.
* `countdown` - how forwards are taken as they become ready, those that become ready together by
  name: for each the dependencies are counted that are not finished.
* `order` - the order in which they are taken; every forward comes after those it waits for.
* `levels` - the forwards by the length of the longest chain of dependencies below them.
* `ForwardGraph.build` - all of these, unless a dependency is unknown or runs in a circle.
-/

namespace ApiGateway

/-- For each forward, by name, the forwards it waits for. -/
abbrev Dependencies := List (String × List String)

namespace Dependencies

/-- What a forward waits for. -/
def of (ds : Dependencies) (name : String) : List String := (ds.lookup name).getD []

def names (ds : Dependencies) : List String := ds.map (·.1)

/-- The forwards that wait for a name, each as often as it lists the name. -/
def dependents (ds : Dependencies) (name : String) : List String :=
  ds.flatMap fun (n, deps) => List.replicate (deps.count name) n

/-- How far forwards are taken. -/
structure Countdown where
  /-- For each forward, how many of its dependencies are not finished. -/
  left : List (String × Nat)
  /-- The forwards with none left that are not taken yet. -/
  queue : List String
  finished : List String

namespace Countdown

/-- At first the forwards that wait for nothing are in the queue. -/
def start (ds : Dependencies) : Countdown :=
  let left := ds.map fun (n, deps) => (n, deps.length)
  { left, queue := (left.filter (·.2 == 0)).map (·.1), finished := [] }

/-- A forward has one dependency fewer left, and goes to the end of the queue if it was the last. -/
def lower (s : Countdown) (name : String) : Countdown :=
  match s.left.lookup name with
  | some (n + 1) =>
    { s with
      left := s.left.map fun entry => if entry.1 == name then (name, n) else entry
      queue := if n == 0 then s.queue ++ [name] else s.queue }
  | _ => s

/-- Takes forwards from the front of the queue. The fuel is at least the number of forwards not yet
finished. -/
def run (ds : Dependencies) : Nat → Countdown → Countdown
  | 0, s => s
  | fuel + 1, s =>
    match s.queue with
    | [] => s
    | name :: queue =>
      let taken := { s with queue, finished := s.finished ++ [name] }
      run ds fuel ((ds.dependents name).foldl lower taken)

/-- The forwards with dependencies left. -/
def stuck (s : Countdown) : List String := (s.left.filter (0 < ·.2)).map (·.1)

end Countdown

/-- All forwards are taken that become ready; those in a circle never do. -/
def countdown (ds : Dependencies) : Countdown := .run ds ds.length (.start ds)

/-- The forwards in the order in which they become ready. -/
def order (ds : Dependencies) : List String := ds.countdown.finished

/-- The greatest of some numbers plus one, zero if there are none. -/
def above (ns : List Nat) : Nat := ns.foldl (fun m n => max m (n + 1)) 0

/-- The depth of each forward, given an order in which dependencies come first: one more than the
deepest forward it waits for. -/
def depths (ds : Dependencies) (order : List String) : List (String × Nat) :=
  order.foldl
    (fun known name => (name, above ((ds.of name).filterMap fun d => known.lookup d)) :: known) []

/-- The forwards of an order by depth. -/
def levels (ds : Dependencies) (order : List String) : List (List String) :=
  let depth := ds.depths order
  (List.range (above (depth.map (·.2)))).map fun l =>
    order.filter fun name => depth.lookup name == some l

end Dependencies

inductive GraphError where
  | unknownDependency (node dep : String)
  /-- The forwards that wait for each other in a circle, or for one that does. -/
  | cyclicDependency (nodes : List String)
deriving DecidableEq

namespace GraphError

def message : GraphError → String
  | .unknownDependency node dep =>
    "forward '" ++ node ++ "' depends on unknown forward '" ++ dep ++ "'"
  | .cyclicDependency nodes => "cyclic dependency among forwards: " ++ ", ".intercalate nodes

end GraphError

/-- Dependencies with their levels and order. -/
structure ForwardGraph where
  dependsOn : Dependencies
  levels : List (List String)
  order : List String
deriving DecidableEq

namespace ForwardGraph

/-- The first dependency on a forward that does not exist. -/
def unknown? (forwards : List Forward) : Option (String × String) :=
  let names := forwards.map (·.name)
  forwards.findSome? fun f => (f.deps.find? fun d => !names.contains d).map (f.name, ·)

/-- The dependencies that forwards declare, each once. Forwards of one name wait for what either
waits for. -/
def dependencies (forwards : List Forward) : Dependencies :=
  (Text.sortNames (forwards.map (·.name))).map fun name =>
    (name, (forwards.filter (·.name == name)).flatMap fun f => Text.sortNames f.deps)

def build (forwards : List Forward) : Except GraphError ForwardGraph :=
  match unknown? forwards with
  | some (node, dep) => .error (.unknownDependency node dep)
  | none =>
    let ds := dependencies forwards
    let order := ds.order
    if order.length = ds.length then .ok ⟨ds, ds.levels order, order⟩
    else .error (.cyclicDependency ds.countdown.stuck)

def toJson (g : ForwardGraph) : Json :=
  .object [("depends_on", .object (g.dependsOn.map fun (n, ds) => (n, Json.strings ds))),
    ("levels", .array (g.levels.map Json.strings)), ("topo_order", Json.strings g.order)]

end ForwardGraph

end ApiGateway
