import ApiGateway.Reading.Basic
import ApiGateway.Json.Node

/-
Reading out of JSON. Null is an absent value, a record is an object or a list of its members in
order, and a fixed alternative is its name or an object with the name as key of null.
-/

namespace ApiGateway.Reading

mutual
/-- The content of a node, unless it holds something that has no value. -/
def contentOfJson? : Json.Node → Option Content
  | .null => some .null
  | .bool b => some (.bool b)
  | .number (some (.int (.ofNat n))) => some (.natural n)
  | .number (some _) => some .otherNumber
  | .number none => none
  | .string s => s.map .text
  | .array items => (contentOfJsonItems? items).map .sequence
  | .object entries => (contentOfJsonEntries? entries).map .mapping
  | .tooDeep => none

def contentOfJsonItems? : List Json.Node → Option (List Content)
  | [] => some []
  | v :: vs => do return (← contentOfJson? v) :: (← contentOfJsonItems? vs)

def contentOfJsonEntries? : List (Option String × Json.Node) → Option (List (Content × Content))
  | [] => some []
  | (k, v) :: es => do
    return (.text (← k), ← contentOfJson? v) :: (← contentOfJsonEntries? es)
end

/-- The members of a record: a list in their order, or an object. -/
def recordOfJson? : Json.Node → Option (Record Json.Node)
  | .array vs => some (.positional vs)
  | .object es => do return .labelled (← es.mapM fun (k, v) => do return (.name (← k), v))
  | _ => none

instance readableJson : Readable Json.Node Option where
  text? := fun
    | .string s => s
    | _ => none
  bool? := fun
    | .bool b => some b
    | _ => none
  natural? := fun
    | .number (some (.int (.ofNat n))) => some n
    | _ => none
  optional? := fun
    | .null => some none
    | v => some (some v)
  choice? := fun
    | .string s => s
    | .object [(some s, .null)] => some s
    | _ => none
  items? := fun
    | .array vs => some vs
    | _ => none
  entries? := fun
    | .object es => some (es.map fun (k, v) => (.string k, v))
    | _ => none
  record? := recordOfJson?
  json? := Json.Node.value?
  content? := contentOfJson?

end ApiGateway.Reading
