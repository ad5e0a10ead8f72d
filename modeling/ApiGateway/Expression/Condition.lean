import ApiGateway.Json.Text
import ApiGateway.Text.Quoted

/-
Conditions on replies.

A condition is a list of clauses, each comparing a field of a reply with a literal. Only values of
one kind compare: an integer and a float are of two kinds.

* `Literal.ofJson?` - the values that can be compared.
* `Literal.compare?` - their order, which exists within a kind only.
* `Condition.ofTest` - the condition that a test declares.
* `Condition.holds` - the condition is true of a reply.
-/

namespace ApiGateway

inductive Comparison where
  | eq
  | neq
  | gt
  | gte
  | lt
  | lte
deriving DecidableEq, Repr

namespace Comparison

/-- The comparison that an operator's name stands for. -/
def ofOperator? (s : String) : Option Comparison :=
  match s with
  | "$eq" => some .eq
  | "$neq" => some .neq
  | "$ne" => some .neq
  | "$gt" => some .gt
  | "$gte" => some .gte
  | "$lt" => some .lt
  | "$lte" => some .lte
  | _ => none

def symbol : Comparison → String
  | .eq => "=="
  | .neq => "!="
  | .gt => ">"
  | .gte => ">="
  | .lt => "<"
  | .lte => "<="

def name : Comparison → String
  | .eq => "eq"
  | .neq => "neq"
  | .gt => "gt"
  | .gte => "gte"
  | .lt => "lt"
  | .lte => "lte"

/-- The comparison asks for an order, not only for equality. -/
def isOrdering : Comparison → Bool
  | .eq => false
  | .neq => false
  | _ => true

/-- The comparison is true of two values in this order. -/
def admits : Comparison → Ordering → Bool
  | .eq, o => o.isEq
  | .neq, o => o.isNe
  | .gt, o => o.isGT
  | .gte, o => o.isGE
  | .lt, o => o.isLT
  | .lte, o => o.isLE

end Comparison

/-- A value that can be compared; integers are those of 64 bits with a sign. -/
inductive Literal where
  | string (value : String)
  | int (value : Int)
  | float (value : Double)
  | bool (value : Bool)
deriving DecidableEq

namespace Literal

/-- The literal that a value is; null, lists, objects and larger integers are none. -/
def ofJson? : Json → Option Literal
  | .string s => some (.string s)
  | .bool b => some (.bool b)
  | .number (.int i) => if Json.Number.inSigned64 i then some (.int i) else none
  | .number (.float x) => some (.float x)
  | _ => none

/-- The order of two literals of one kind. Texts are in the order of their characters. -/
def compare? : Literal → Literal → Option Ordering
  | .string a, .string b => some (compareOfLessAndEq a b)
  | .int a, .int b => some (compareOfLessAndEq a b)
  | .float a, .float b => some (a.compare b)
  | .bool a, .bool b => some (compareOfLessAndEq a.toNat b.toNat)
  | _, _ => none

def isBool : Literal → Bool
  | .bool _ => true
  | _ => false

def display : Literal → String
  | .string s => Text.quoted s
  | .int i => String.ofList (Json.intChars i)
  | .float x => String.ofList x.plainText
  | .bool b => if b then "true" else "false"

def toJson : Literal → Json
  | .string s => .string s
  | .int i => Json.int i
  | .float x => .number (.float x)
  | .bool b => .bool b

end Literal

structure Clause where
  field : String
  comparison : Comparison
  literal : Literal
deriving DecidableEq

namespace Clause

/-- The clause is true of an object: the field is there, is of the literal's kind, and compares.
Truth values have no order. -/
def holds (c : Clause) (reply : Json) : Bool :=
  match (reply.field? c.field).bind Literal.ofJson? with
  | none => false
  | some actual =>
    !(c.comparison.isOrdering && actual.isBool) &&
      (actual.compare? c.literal).any c.comparison.admits

def display (c : Clause) : String :=
  c.field ++ " " ++ c.comparison.symbol ++ " " ++ c.literal.display

def toJson (c : Clause) : Json :=
  .object [("field", .string c.field), ("op", .string c.comparison.name),
    ("literal", c.literal.toJson)]

end Clause

/-- Clauses that must all be true. -/
structure Condition where
  clauses : List Clause
deriving DecidableEq

inductive ConditionError where
  | unknownOperator (operator : String)
  | expectedFieldMap (operator : String)
  | nonScalarLiteral (field : String)
deriving DecidableEq

namespace ConditionError

def message : ConditionError → String
  | .unknownOperator op => "unknown comparison operator '" ++ op ++ "'"
  | .expectedFieldMap op => "operator '" ++ op ++ "' expects a map of field to literal"
  | .nonScalarLiteral field =>
    "literal for field '" ++ field ++ "' must be a string, number or boolean"

end ConditionError

namespace Condition

def clause (field : String) (comparison : Comparison) (v : Json) : Except ConditionError Clause :=
  match Literal.ofJson? v with
  | some literal => .ok ⟨field, comparison, literal⟩
  | none => .error (.nonScalarLiteral field)

/-- The clauses of one entry: a field with its literal, or an operator with several fields. -/
def entryClauses (key : String) (v : Json) : Except ConditionError (List Clause) :=
  if key.toList.head? ≠ some '$' then do return [← clause key .eq v]
  else match Comparison.ofOperator? key with
    | none => .error (.unknownOperator key)
    | some op =>
      match v with
      | .object fields => fields.mapM fun (field, v) => clause field op v
      | _ => .error (.expectedFieldMap key)

/-- The condition that a test declares. -/
def ofTest (test : List (String × Json)) : Except ConditionError Condition := do
  return ⟨(← test.mapM fun (key, v) => entryClauses key v).flatten⟩

/-- The condition is true of a reply, which must be an object. -/
def holds (c : Condition) (reply : Json) : Bool :=
  reply.entries?.isSome && c.clauses.all (·.holds reply)

/-- The clauses as they are listed. -/
def lines (c : Condition) : List String := c.clauses.map Clause.display

def toJson (c : Condition) : Json :=
  .object [("clauses", .array (c.clauses.map Clause.toJson))]

end Condition

end ApiGateway
