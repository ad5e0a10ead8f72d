import ApiGateway.Value.Convert
import ApiGateway.Value.Registry

/-
Typed values.

* `Variable` - a value with the member that declares it; `Variable.nil` is the value of an endpoint
  without parameters.
* `TypeRegistry.create` - the empty variable of a member.
* `Variable.fill` - the variable with a value from JSON; composite values fill their parts.
* `Variable.setValue` - the same in place, whether it fails or not; `Variable.setAll` - again and
  again.
* `Variable.validate` - the variable keeps its length bounds, its parts in the order of declaration.
* `Variable.toJson` - the value with its members in the order of declaration, `Variable.toValue`
  with them in ascending order.
-/

namespace ApiGateway

inductive Variable where
  | int (member : Member) (value : Int)
  | float (member : Member) (value : Double)
  | bool (member : Member) (value : Bool)
  | string (member : Member) (value : String)
  /-- A list whose items are built from the element. -/
  | array (member element : Member) (items : List Variable)
  /-- The members present of a type. -/
  | object (member : Member) (type : DataType) (members : List (String × Variable))
  | nil
deriving Inhabited

namespace TypeRegistry

/-- The empty variable of a type name. -/
def createNamed (r : TypeRegistry) (name : String) (m : Member) : Except ValueFault Variable :=
  match name with
  | "integer" => .ok (.int m 0)
  | "float" => .ok (.float m (Double.zero false))
  | "boolean" => .ok (.bool m false)
  | "string" => .ok (.string m "")
  | name =>
    match r.find? name with
    | some t => .ok (.object m t [])
    | none => .error (.unknownType name)

/-- The empty variable of a member. The element of an array must be a type that is known. -/
def create (r : TypeRegistry) (m : Member) : Except ValueFault Variable :=
  match m.type with
  | .named name => r.createNamed name m
  | .list items =>
    if m.type.isNestedArray then .error (.nestedArray m.type.display)
    else match items with
      | [.named name] => do
        let _ ← r.createNamed name { type := .named name }
        return .array m { type := .named name } []
      | _ => .error (.unknownType m.type.display)

end TypeRegistry

namespace Variable

def member? : Variable → Option Member
  | .int m _ => some m
  | .float m _ => some m
  | .bool m _ => some m
  | .string m _ => some m
  | .array m _ _ => some m
  | .object m _ _ => some m
  | .nil => none

def isNil : Variable → Bool
  | .nil => true
  | _ => false

/-! ### Filling -/

/-- What fills an empty variable. -/
abbrev Filler := Variable → Except ValueError Variable

/-- A fault in the value itself. -/
def faulty (fault : ValueFault) : ValueError := .bare fault

/-- Fills a new variable of a member. -/
def fillNew (r : TypeRegistry) (m : Member) (fill : Filler) : Except ValueError Variable := do
  fill (← (r.create m).mapError faulty)

/-- The items of an array from what fills each, the first at the given index. -/
def fillItems (r : TypeRegistry) (element : Member) (i : Nat) :
    List Filler → Except ValueError (List Variable)
  | [] => .ok []
  | fill :: fills => do
    let v ← (fillNew r element fill).mapError (·.atIndex i)
    return v :: (← fillItems r element (i + 1) fills)

/-- The members of a type from what fills each. One that is not there is left out, unless it is
required. -/
def fillMembers (r : TypeRegistry) (fills : List (String × Filler)) :
    Members → Except ValueError (List (String × Variable))
  | [] => .ok []
  | (name, m) :: ms =>
    match fills.lookup name with
    | none =>
      if m.required then .error (faulty (.requiredFieldMissing name)) else fillMembers r fills ms
    | some fill => do
      let v ← (fillNew r m fill).mapError (·.within name)
      return (name, v) :: (← fillMembers r fills ms)

/-- Fills a variable that holds no parts from a value; `items` and `members` fill from the parts of
the value. -/
def fillFrom (r : TypeRegistry) (v : Json) (items : List Filler)
    (members : List (String × Filler)) : Filler
  | .int m _ => (v.toInteger.mapError faulty).map (.int m)
  | .float m _ => (v.toFloat.mapError faulty).map (.float m)
  | .bool m _ => (v.toBool.mapError faulty).map (.bool m)
  | .string m _ => (v.toStringValue.mapError faulty).map (.string m)
  | .array m element _ =>
    match v with
    | .array _ => (fillItems r element 0 items).map (.array m element)
    | v => .error (faulty (.notAnArray v.kind))
  | .object m t _ =>
    match v with
    | .object _ => (fillMembers r members t.members).map (.object m t)
    | v => .error (faulty (.conversionFailed t.name v.kind))
  | .nil => .error (faulty .nilHoldsNothing)

mutual
/-- Fills a variable from a value. On an error the variable is as it was. -/
def fill (r : TypeRegistry) : Json → Filler
  | .array items => fillFrom r (.array items) (itemFillers r items) []
  | .object entries => fillFrom r (.object entries) [] (entryFillers r entries)
  | .null => fillFrom r .null [] []
  | .bool b => fillFrom r (.bool b) [] []
  | .number n => fillFrom r (.number n) [] []
  | .string s => fillFrom r (.string s) [] []

def itemFillers (r : TypeRegistry) : List Json → List Filler
  | [] => []
  | v :: vs => fill r v :: itemFillers r vs

/-- What fills from the entries of an object; null stands for an entry that is not there. -/
def entryFillers (r : TypeRegistry) : List (String × Json) → List (String × Filler)
  | [] => []
  | (k, v) :: es => if v.isNull then entryFillers r es else (k, fill r v) :: entryFillers r es
end

/-! ### Setting in place -/

/-- A change of a variable in place. If it fails, what it changed before stays changed. -/
abbrev Setter := ExceptT ValueError (StateM Variable) Unit

/-- Sets a variable from a value. The parts are variables of their own, filled before the variable
holds any of them. -/
def setter (r : TypeRegistry) (v : Json) : Setter := do
  match ← get with
  | .int m _ => set (Variable.int m (← v.toInteger.mapError faulty))
  | .float m _ => set (Variable.float m (← v.toFloat.mapError faulty))
  | .bool m _ => set (Variable.bool m (← v.toBool.mapError faulty))
  | .string m _ => set (Variable.string m (← v.toStringValue.mapError faulty))
  | .array m element _ =>
    match v with
    | .array items =>
      set (Variable.array m element (← fillItems r element 0 (itemFillers r items)))
    | v => throw (faulty (.notAnArray v.kind))
  | .object m t _ =>
    match v with
    | .object entries =>
      set (Variable.object m t (← fillMembers r (entryFillers r entries) t.members))
    | v => throw (faulty (.conversionFailed t.name v.kind))
  | .nil => throw (faulty .nilHoldsNothing)

/-- What setting a variable from a value comes to, and the variable after it. -/
def setValue (r : TypeRegistry) (v : Json) (x : Variable) : Except ValueError Unit × Variable :=
  (setter r v).run.run x

/-- Several values set one after another, each from the types of its own registry: what each comes
to, and the variable after all of them. -/
def setAll : List (TypeRegistry × Json) → Variable → List (Except ValueError Unit) × Variable
  | [], x => ([], x)
  | (r, v) :: calls, x =>
    let (result, x) := setValue r v x
    let (results, x) := setAll calls x
    (result :: results, x)

/-! ### Length bounds -/

/-- The length keeps the bounds of a member; a required value must not be empty. -/
def checkLength (m : Member) (length : Nat) : Except ValueFault Unit := do
  if m.required && length == 0 then .error .requiredValueEmpty
  match m.length with
  | some n => if length ≠ n then .error (.lengthNot n length)
  | none => pure ()
  match m.minLength with
  | some n => if length < n then .error (.lengthBelow n length)
  | none => pure ()
  match m.maxLength with
  | some n => if n < length then .error (.lengthAbove n length)
  | none => pure ()

/-- What validates an object: the members in the order of their declaration, those not there passed
over. -/
def checkMembers (results : List (String × Except ValueError Unit)) :
    Members → Except ValueError Unit
  | [] => .ok ()
  | (name, _) :: ms => do
    match results.lookup name with
    | some result => result.mapError (·.within name)
    | none => pure ()
    checkMembers results ms

mutual
/-- The variable keeps its length bounds. The first fault counts. -/
def validate : Variable → Except ValueError Unit
  | .string m s => (checkLength m s.length).mapError faulty
  | .array m _ items => do
    (checkLength m items.length).mapError faulty
    validateItems 0 items
  | .object _ t members => checkMembers (validateMembers members) t.members
  | .int _ _ => .ok ()
  | .float _ _ => .ok ()
  | .bool _ _ => .ok ()
  | .nil => .ok ()

def validateItems (i : Nat) : List Variable → Except ValueError Unit
  | [] => .ok ()
  | v :: vs => do
    (validate v).mapError (·.atIndex i)
    validateItems (i + 1) vs

def validateMembers : List (String × Variable) → List (String × Except ValueError Unit)
  | [] => []
  | (name, v) :: vs => (name, validate v) :: validateMembers vs
end

/-! ### As JSON -/

mutual
/-- The value, members in the order of declaration. -/
def toJson : Variable → Json
  | .int _ i => Json.int i
  | .float _ x => .number (.float x)
  | .bool _ b => .bool b
  | .string _ s => .string s
  | .array _ _ items => .array (itemsToJson items)
  | .object _ _ members => .object (membersToJson members)
  | .nil => .null

def itemsToJson : List Variable → List Json
  | [] => []
  | v :: vs => toJson v :: itemsToJson vs

def membersToJson : List (String × Variable) → List (String × Json)
  | [] => []
  | (name, v) :: vs => (name, toJson v) :: membersToJson vs
end

mutual
/-- The value as an outgoing parameter: members in ascending order. -/
def toValue : Variable → Json
  | .int _ i => Json.int i
  | .float _ x => .number (.float x)
  | .bool _ b => .bool b
  | .string _ s => .string s
  | .array _ _ items => .array (itemsToValue items)
  | .object _ _ members => Json.ofEntries (membersToValue members)
  | .nil => .null

def itemsToValue : List Variable → List Json
  | [] => []
  | v :: vs => toValue v :: itemsToValue vs

def membersToValue : List (String × Variable) → List (String × Json)
  | [] => []
  | (name, v) :: vs => (name, toValue v) :: membersToValue vs
end

end Variable

end ApiGateway
