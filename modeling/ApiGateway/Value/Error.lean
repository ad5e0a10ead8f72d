import ApiGateway.Json.Basic

/-
What is wrong with a value, and where.

* `ValueFault` - the fault itself.
* `ValueError` - a fault under the way to it; `ValueError.within` - seen from one member or item
  further out, which the way then begins with.
* `ValueError.fault`, `ValueError.path?` - the fault and the way to it, apart.
-/

namespace ApiGateway

inductive ValueFault where
  | requiredFieldMissing (field : String)
  | requiredValueEmpty
  | lengthNot (expected actual : Nat)
  | lengthBelow (least actual : Nat)
  | lengthAbove (greatest actual : Nat)
  | conversionFailed (expected found : String)
  | notAnArray (found : String)
  | nestedArray (type : String)
  | nilHoldsNothing
  | unknownType (name : String)
deriving DecidableEq

namespace ValueFault

def message : ValueFault → String
  | .requiredFieldMissing field => "required field '" ++ field ++ "' is missing"
  | .requiredValueEmpty => "required value is empty"
  | .lengthNot expected actual =>
    "length must be exactly " ++ toString expected ++ ", got " ++ toString actual
  | .lengthBelow least actual =>
    "length " ++ toString actual ++ " is below the minimum of " ++ toString least
  | .lengthAbove greatest actual =>
    "length " ++ toString actual ++ " exceeds the maximum of " ++ toString greatest
  | .conversionFailed expected found => "cannot convert " ++ found ++ " to " ++ expected
  | .notAnArray found => "expected an array, found " ++ found
  | .nestedArray type => "nested arrays are not supported (" ++ type ++ ")"
  | .nilHoldsNothing => "a nil variable cannot hold a value"
  | .unknownType name => "unknown type '" ++ name ++ "'"

end ValueFault

/-- A fault in the value itself, or an error further in, under the way to it as text. -/
inductive ValueError where
  | bare (fault : ValueFault)
  | inside (path : String) (source : ValueError)
deriving DecidableEq

namespace ValueError

/-- The error seen from outside a member. Before the way that it already has stands a point, unless
that opens with a bracket. -/
def within (e : ValueError) (segment : String) : ValueError :=
  match e with
  | .inside path source =>
    .inside (segment ++ (if path.toList.head? = some '[' then path else "." ++ path)) source
  | .bare fault => .inside segment (.bare fault)

/-- The segment of an index. -/
def indexSegment (i : Nat) : String := "[" ++ toString i ++ "]"

/-- The error seen from outside an item. -/
def atIndex (e : ValueError) (i : Nat) : ValueError := e.within (indexSegment i)

/-- The fault without the way to it. -/
def fault : ValueError → ValueFault
  | .bare fault => fault
  | .inside _ source => source.fault

@[simp] theorem fault_bare (fault : ValueFault) : (bare fault).fault = fault := rfl

@[simp] theorem fault_within (e : ValueError) (segment : String) :
    (e.within segment).fault = e.fault := by cases e <;> rfl

/-- The way to the fault; none when the fault is in the value itself. -/
def path? : ValueError → Option String
  | .bare _ => none
  | .inside path _ => some path

def message : ValueError → String
  | .bare fault => fault.message
  | .inside path source => path ++ ": " ++ source.message

end ValueError

end ApiGateway
