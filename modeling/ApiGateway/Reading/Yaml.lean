import ApiGateway.Reading.Basic
import ApiGateway.Yaml.Node
import ApiGateway.Yaml.Meaning

/-
Reading out of YAML. Every scalar is a text where a text is wanted; where the type is open, its tag
and style tell what it is. An empty place is an empty list, mapping or record. A tag of the text's
own names a fixed alternative.
-/

namespace ApiGateway.Yaml

/-- A tag with a name of the text's own. -/
def isOwnTag (tag : Option Tag) : Bool := (tag.bind Tag.own?).isSome

namespace Tree

/-- Nothing stands here. -/
def isVoid : Tree Nat → Bool
  | .scalar _ text .plain => text.isEmpty
  | _ => false

/-- The text of a scalar that is read as a number or truth value: a plain one, or a literal one with
the tag. -/
def bareText? (type : String) : Tree Nat → Option String
  | .scalar _ s .plain => some s
  | .scalar p s .literal => if p.tag == some (Tag.standard type) then some s else none
  | _ => none

/-- The scalar stands for an absent value; `none` when its tag says so and its text does not. -/
def isAbsent? : Tree Nat → Option Bool
  | .scalar p s .plain =>
    match p.tag with
    | none => some (s.isEmpty || Meaning.isNullWord s)
    | some t =>
      if t != Tag.standard "null" then some false
      else if Meaning.isNullWord s then some true
      else none
  | _ => some false

/-- The name of a fixed alternative: a scalar, or null under a tag that names it. -/
def choice? : Tree Nat → Option String
  | .scalar p s style =>
    match p.tag.bind Tag.own? with
    | none => some s
    | some name =>
      if style == .plain && (s.isEmpty || Meaning.isNullWord s) then some name else none
  | _ => none

def text? : Tree Nat → Option String
  | .scalar _ s _ => some s
  | _ => none

/-- The value of a scalar. The infinities and what is no number are null. -/
def scalarJson? (tag : Option Tag) (s : String) (style : Style) : Option Json := do
  match ← Meaning.ofScalar? tag s style with
  | .null => return .null
  | .bool b => return .bool b
  | .integer i => return Json.int i
  | .float (some x) => return .number (.float x)
  | .float none => return .null
  | .text s => return .string s

/-- The value of a tree whose collections may nest to a depth. -/
def json? (anchors : List (Nat × Tree Nat)) : Nat → Tree Nat → Visit Json
  | 0, t => do
    match ← t.follow anchors with
    | .scalar p s style => (scalarJson? p.tag s style).getM
    | _ => failure
  | room + 1, t => do
    match ← t.follow anchors with
    | .scalar p s style => (scalarJson? p.tag s style).getM
    | .sequence p items =>
      if isOwnTag p.tag then failure else return .array (← items.mapM (json? anchors room))
    | .mapping p entries =>
      if isOwnTag p.tag then failure
      else return Json.ofEntries (← entries.mapM fun (k, v) => do
        return (← (← k.follow anchors).text?.getM, ← json? anchors room v))
    | .alias _ => failure

open Reading (Content)

/-- What a scalar holds. -/
def scalarContent? (tag : Option Tag) (s : String) (style : Style) : Option Content := do
  let meaning ← Meaning.ofScalar? tag s style
  match meaning with
  | .null => return .null
  | .bool b => return .bool b
  | .integer (.ofNat n) =>
    return if Meaning.isMinusZero s meaning then .minusZero else .natural n
  | .integer _ => return .otherNumber
  | .float _ => return .otherNumber
  | .text s => return .text s

/-- What a tree holds whose collections may nest to a depth. -/
def content? (anchors : List (Nat × Tree Nat)) : Nat → Tree Nat → Visit Content
  | 0, t => do
    match ← t.follow anchors with
    | .scalar p s style => (scalarContent? p.tag s style).getM
    | _ => failure
  | room + 1, t => do
    match ← t.follow anchors with
    | .scalar p s style => (scalarContent? p.tag s style).getM
    | .sequence p items =>
      if isOwnTag p.tag then failure else return .sequence (← items.mapM (content? anchors room))
    | .mapping p entries =>
      if isOwnTag p.tag then failure
      else return .mapping (← entries.mapM fun (k, v) => do
        return (← content? anchors room k, ← content? anchors room v))
    | .alias _ => failure

end Tree

namespace Node

/-- What the tree at a node is seen as. -/
def view (see : Tree Nat → Option α) (v : Node) : Visit α := do
  match ← v.follow with
  | some t => (see t).getM
  | none => failure

/-- The items of a sequence. -/
def items? (v : Node) : Visit (List Node) := do
  match ← v.follow with
  | some (.sequence _ items) => return items.map (← v.within?)
  | some t => if t.isVoid then return [] else failure
  | none => return []

/-- The entries of a mapping. -/
def entries? (v : Node) : Visit (List (Node × Node)) := do
  match ← v.follow with
  | some (.mapping _ entries) =>
    let within ← v.within?
    return entries.map fun (k, v) => (within k, within v)
  | some t => if t.isVoid then return [] else failure
  | none => return []

/-- The node, unless it stands for an absent value. -/
def optional? (v : Node) : Visit (Option Node) := do
  match ← v.follow with
  | some t => return if ← t.isAbsent?.getM then none else some { v with tree := some t }
  | none => return none

end Node

end ApiGateway.Yaml

namespace ApiGateway.Reading

open Yaml (Node Meaning Visit Tree)

instance readableYaml : Readable Node Visit where
  text? := Node.view Tree.text?
  bool? := Node.view fun t => do Meaning.truth? (← t.bareText? "bool")
  natural? := Node.view fun t => do
    Meaning.natural? (Nat.pow 2 64) (← t.bareText? "int").toList
  optional? := Node.optional?
  choice? := Node.view Tree.choice?
  items? := Node.items?
  entries? := Node.entries?
  record? := fun v => do
    return .labelled (← (← v.entries?).mapM fun (k, v) => do
      return (.name (← k.view Tree.text?), v))
  json? := fun v => match v.tree with
    | some t => t.json? v.anchors v.room
    | none => return .null
  content? := fun v => match v.tree with
    | some t => t.content? v.anchors v.room
    | none => return .null

end ApiGateway.Reading
