import ApiGateway.Yaml.Tree
import ApiGateway.Yaml.Token.Stream

/-
The nodes of a YAML text, whose aliases are followed as they are read.

An alias stands for the node that carries its anchor. Following aliases may never end, or grow
beyond all bounds, so that nesting and the number of aliases followed are limited. An alias that no
reader looks at is not followed and does not count.

* `Tree.number?` - the tree with its anchors numbered; an alias without an anchor before it is an
  error.
* `Node` - a place in a numbered tree; `Node.follow` is the tree there.
* `Node.parse?` - the node of a text.
-/

namespace ApiGateway.Yaml

namespace Tree

/-! ### Numbers for anchors -/

/-- The anchors seen with their numbers, in order of first appearance. -/
abbrev Numbers := List (String × Nat)

/-- Gives an anchor the number of anchors known before it. -/
def Numbers.assign (ns : Numbers) (name : String) : Numbers :=
  if ns.any (·.1 == name) then ns.map fun e => if e.1 == name then (name, ns.length) else e
  else ns ++ [(name, ns.length)]

/-- The properties of a node with its anchor numbered. -/
def Numbers.enter (ns : Numbers) (p : Properties String) : Properties Nat × Numbers :=
  match p.anchor with
  | none => (⟨none, p.tag⟩, ns)
  | some name => (⟨some ns.length, p.tag⟩, ns.assign name)

mutual
/-- The tree with its anchors numbered in order; a name that comes again gets a new number. -/
def number? (ns : Numbers) : Tree String → Option (Tree Nat × Numbers)
  | .alias name => (ns.lookup name).map fun n => (.alias n, ns)
  | .scalar p text style =>
    let (p, ns) := ns.enter p
    some (.scalar p text style, ns)
  | .sequence p items => do
    let (p, ns) := ns.enter p
    let (items, ns) ← numberItems? ns items
    return (.sequence p items, ns)
  | .mapping p entries => do
    let (p, ns) := ns.enter p
    let (entries, ns) ← numberEntries? ns entries
    return (.mapping p entries, ns)

def numberItems? (ns : Numbers) : List (Tree String) → Option (List (Tree Nat) × Numbers)
  | [] => some ([], ns)
  | t :: ts => do
    let (t, ns) ← number? ns t
    let (ts, ns) ← numberItems? ns ts
    return (t :: ts, ns)

def numberEntries? (ns : Numbers) :
    List (Tree String × Tree String) → Option (List (Tree Nat × Tree Nat) × Numbers)
  | [] => some ([], ns)
  | (k, t) :: ts => do
    let (k, ns) ← number? ns k
    let (t, ns) ← number? ns t
    let (ts, ns) ← numberEntries? ns ts
    return ((k, t) :: ts, ns)
end

/-- The properties of a node. -/
def properties? : Tree α → Option (Properties α)
  | .alias _ => none
  | .scalar p _ _ => some p
  | .sequence p _ => some p
  | .mapping p _ => some p

mutual
/-- All nodes, each before the nodes within it. -/
def nodes : Tree α → List (Tree α)
  | .alias a => [.alias a]
  | .scalar p text style => [.scalar p text style]
  | .sequence p items => .sequence p items :: nodesOfItems items
  | .mapping p entries => .mapping p entries :: nodesOfEntries entries

def nodesOfItems : List (Tree α) → List (Tree α)
  | [] => []
  | t :: ts => nodes t ++ nodesOfItems ts

def nodesOfEntries : List (Tree α × Tree α) → List (Tree α)
  | [] => []
  | (k, t) :: ts => nodes k ++ nodes t ++ nodesOfEntries ts
end

/-- The nodes under the numbers of their anchors, the last node first. -/
def carriers (t : Tree Nat) : List (Nat × Tree Nat) :=
  (t.nodes.filterMap fun n => do return (← (← n.properties?).anchor, n)).reverse

/-- A scalar or alias counts once, a collection twice. -/
def size (t : Tree α) : Nat :=
  t.nodes.length + (t.nodes.filter fun
    | .sequence _ _ => true
    | .mapping _ _ => true
    | _ => false).length

end Tree

/-! ### Nodes -/

/-- An action on nodes, which may fail. The state is the number of aliases that may still be
followed. -/
abbrev Visit := StateT Nat Option

/-- A node of a YAML text, seen through any alias of it. -/
structure Node where
  /-- The nodes that aliases stand for. -/
  anchors : List (Nat × Tree Nat)
  /-- How many collections may be entered on the way down. -/
  room : Nat
  /-- The node, if the text has a document at all. -/
  tree : Option (Tree Nat)

namespace Node

/-- The deepest nesting of collections. -/
def depthLimit : Nat := 128

/-- The node of a numbered tree. -/
def ofTree (t : Tree Nat) : Node := ⟨t.carriers, depthLimit, some t⟩

/-- A hundred aliases may be followed for each part of the text. -/
def allowance (v : Node) : Nat :=
  match v.tree with
  | some t => 100 * t.size
  | none => 0

/-- The node of a text with at most one document. -/
def parse? (cs : List Char) : Option Node := do
  match ← Tree.ofTokens? (← Token.ofText? cs) with
  | none => return ⟨[], depthLimit, none⟩
  | some t => return ofTree (← t.number? []).1

end Node

/-- The tree that an alias stands for, or a tree itself. -/
def Tree.follow (anchors : List (Nat × Tree Nat)) : Tree Nat → Visit (Tree Nat)
  | .alias n => do
    match ← get with
    | 0 => failure
    | left + 1 => do
      set left
      (anchors.lookup n).getM
  | t => pure t

namespace Node

/-- The tree at a node, its alias followed. -/
def follow (v : Node) : Visit (Option (Tree Nat)) :=
  match v.tree with
  | none => return none
  | some t => return some (← t.follow v.anchors)

/-- A node within a collection at this one; there must be room for the collection. -/
def within? (v : Node) : Visit (Tree Nat → Node) :=
  match v.room with
  | 0 => failure
  | room + 1 => return fun t => { v with room, tree := some t }

end Node

end ApiGateway.Yaml
