import ApiGateway.Double.Basic

/-
JSON values as the gateway computes with them.

* `Json.Number` - an integer of at most 64 bits, or a finite binary64 number.
* `Json` - values; `Json.object` holds its entries in the order in which they print. A value read
  from a request has its keys in ascending order and none twice (`Json.ofEntries`).
* `Json.field?` - the member of an object under a key.
* `Json.kind` - the name of a value's kind in error texts.
-/

namespace ApiGateway

namespace Json

/-- A number: integers keep their exact value, everything else is a binary64 number. -/
inductive Number where
  | int (value : Int)
  | float (value : Double)
deriving DecidableEq, Inhabited

namespace Number

/-- The integers a 64-bit signed word can hold. -/
def inSigned64 (i : Int) : Bool := -0x8000000000000000 ≤ i && i < 0x8000000000000000

/-- The integers a 64-bit unsigned word can hold. -/
def inUnsigned64 (i : Int) : Bool := 0 ≤ i && i < 0x10000000000000000

/-- The value as a signed 64-bit integer, for integers in that range. -/
def signed64? : Number → Option Int
  | .int i => if inSigned64 i then some i else none
  | .float _ => none

/-- The number as a binary64 number, rounded for large integers. -/
def toDouble : Number → Double
  | .int i => Double.ofInt i
  | .float x => x

end Number

end Json

/-- A JSON value. -/
inductive Json where
  | null
  | bool (value : Bool)
  | number (value : Json.Number)
  | string (value : String)
  | array (items : List Json)
  | object (entries : List (String × Json))
deriving Inhabited

namespace Json

mutual
/-- Equality of values, entry by entry and in order. -/
def beq : Json → Json → Bool
  | .null, .null => true
  | .bool a, .bool b => a == b
  | .number a, .number b => a == b
  | .string a, .string b => a == b
  | .array a, .array b => beqItems a b
  | .object a, .object b => beqEntries a b
  | _, _ => false

def beqItems : List Json → List Json → Bool
  | [], [] => true
  | a :: as, b :: bs => beq a b && beqItems as bs
  | _, _ => false

def beqEntries : List (String × Json) → List (String × Json) → Bool
  | [], [] => true
  | (k, a) :: as, (l, b) :: bs => k == l && beq a b && beqEntries as bs
  | _, _ => false
end

instance : BEq Json := ⟨beq⟩

/-- The integer as a value. -/
def int (i : Int) : Json := .number (.int i)

/-- The natural number as a value. -/
def nat (n : Nat) : Json := .number (.int n)

/-- A list of texts as a value. -/
def strings (xs : List String) : Json := .array (xs.map .string)

/-- Puts an entry into a list of entries in ascending key order; an entry with the same key is
replaced. -/
def insertEntry (key : String) (value : α) : List (String × α) → List (String × α)
  | [] => [(key, value)]
  | (k, v) :: rest =>
    if key < k then (key, value) :: (k, v) :: rest
    else if key = k then (key, value) :: rest
    else (k, v) :: insertEntry key value rest

/-- Entries in ascending key order, the last of several with one key. -/
def sortEntries (entries : List (String × α)) : List (String × α) :=
  entries.foldl (fun acc (k, v) => insertEntry k v acc) []

/-- The object with these entries, in ascending key order, the last of several with one key. -/
def ofEntries (entries : List (String × Json)) : Json := .object (sortEntries entries)

/-- The entry of an optional member: none when it is absent. -/
def optionalEntry (key : String) (value : Option Json) : List (String × Json) :=
  match value with
  | some v => [(key, v)]
  | none => []

/-- The entries of an object. -/
def entries? : Json → Option (List (String × Json))
  | .object es => some es
  | _ => none

/-- The member of an object under a key. -/
def field? (v : Json) (key : String) : Option Json :=
  match v with
  | .object es => es.lookup key
  | _ => none

/-- The text, of a text. -/
def string? : Json → Option String
  | .string s => some s
  | _ => none

/-- The value is null. -/
def isNull : Json → Bool
  | .null => true
  | _ => false

/-- The name of a value's kind. -/
def kind : Json → String
  | .null => "null"
  | .bool _ => "boolean"
  | .number _ => "number"
  | .string _ => "string"
  | .array _ => "array"
  | .object _ => "object"

end Json

end ApiGateway
