import ApiGateway.Reading.Basic

/-
Reading out of content: what a value of several possible shapes is read from.

A number as a key points to a member of a record by its position, unless it has a minus sign.
-/

namespace ApiGateway.Reading

namespace Content

/-- The label that a key of a record is. -/
def label? : Content → Option Label
  | .text s => some (.name s)
  | .natural n => some (.position n)
  | _ => none

/-- The members of a record: a list in their order, or a mapping. -/
def record? : Content → Option (Record Content)
  | .sequence vs => some (.positional vs)
  | .mapping es => do return .labelled (← es.mapM fun (k, v) => do return (← k.label?, v))
  | _ => none

def natural? : Content → Option Nat
  | .natural n => some n
  | .minusZero => some 0
  | _ => none

def text? : Content → Option String
  | .text s => some s
  | _ => none

end Content

instance readableContent : Readable Content Option where
  text? := Content.text?
  bool? := fun
    | .bool b => some b
    | _ => none
  natural? := Content.natural?
  optional? := fun
    | .null => some none
    | v => some (some v)
  choice? := fun
    | .text s => some s
    | .mapping [(.text s, .null)] => some s
    | _ => none
  items? := fun
    | .sequence vs => some vs
    | _ => none
  entries? := fun
    | .mapping es => some es
    | _ => none
  record? := Content.record?
  json? := fun _ => none
  content? := some

end ApiGateway.Reading
