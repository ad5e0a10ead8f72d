import ApiGateway.Reading.Content

/-
The declared type of a member: a type name, or a list around it for an array.

A list of any length can be written, but only a list of one entry is a type; the others are reported
by validation (`TypeExpr.baseName?` has no answer for them).
-/

namespace ApiGateway

/-- The type names that need no declaration. -/
def builtinTypes : List String := ["integer", "float", "boolean", "string"]

inductive TypeExpr where
  | named (name : String)
  | list (items : List TypeExpr)
deriving Inhabited

namespace TypeExpr

mutual
def beq : TypeExpr → TypeExpr → Bool
  | .named a, .named b => a == b
  | .list a, .list b => beqItems a b
  | _, _ => false

def beqItems : List TypeExpr → List TypeExpr → Bool
  | [], [] => true
  | a :: as, b :: bs => beq a b && beqItems as bs
  | _, _ => false
end

instance : BEq TypeExpr := ⟨beq⟩

/-- A list, of whatever length. -/
def isArray : TypeExpr → Bool
  | .named _ => false
  | .list _ => true

/-- The type of the items of an array. -/
def element? : TypeExpr → Option TypeExpr
  | .list [t] => some t
  | _ => none

/-- The type name inside any number of arrays. -/
def baseName? : TypeExpr → Option String
  | .named name => some name
  | .list [t] => t.baseName?
  | .list _ => none

/-- An array of arrays. -/
def isNestedArray (t : TypeExpr) : Bool := t.element?.any isArray

mutual
/-- The type as it is shown: a name, or items in brackets. -/
def display : TypeExpr → String
  | .named name => name
  | .list items => "[" ++ displayItems items ++ "]"

def displayItems : List TypeExpr → String
  | [] => ""
  | [t] => display t
  | t :: ts => display t ++ ", " ++ displayItems ts
end

mutual
def toJson : TypeExpr → Json
  | .named name => .string name
  | .list items => .array (toJsonItems items)

def toJsonItems : List TypeExpr → List Json
  | [] => []
  | t :: ts => toJson t :: toJsonItems ts
end

open Reading

mutual
/-- A text is a name, a sequence is a list. -/
def ofContent? : Content → Option TypeExpr
  | .text s => some (.named s)
  | .sequence items => (ofContentItems? items).map .list
  | _ => none

def ofContentItems? : List Content → Option (List TypeExpr)
  | [] => some []
  | v :: vs => do return (← ofContent? v) :: (← ofContentItems? vs)
end

variable {ν : Type} {m : Type → Type} [Attempt m] [Readable ν m]

def read? (v : ν) : m TypeExpr := do (ofContent? (← content? v)).getM

end TypeExpr

end ApiGateway
