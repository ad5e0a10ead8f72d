import ApiGateway.Schema.TypeExpr

/-
Members and the types they make up.

* `Member` - the declared type of a value with its requirement and length bounds.
* `Members` - members under their names, in the order of declaration.
* `DataType` - a named type made of members.
-/

namespace ApiGateway

/-- What is declared of a member. Length bounds concern texts and arrays. -/
structure Member where
  type : TypeExpr
  required : Bool := false
  description : Option String := none
  length : Option Nat := none
  minLength : Option Nat := none
  maxLength : Option Nat := none
deriving Inhabited

/-- Members under their names, in the order of declaration. -/
abbrev Members := List (String × Member)

namespace Member

open Reading

def hasLengthBounds (m : Member) : Bool :=
  m.length.isSome || m.minLength.isSome || m.maxLength.isSome

def toJson (m : Member) : Json :=
  .object ([("type", m.type.toJson), ("required", .bool m.required)] ++
    Json.optionalEntry "description" (m.description.map .string) ++
    Json.optionalEntry "length" (m.length.map Json.nat) ++
    Json.optionalEntry "minLength" (m.minLength.map Json.nat) ++
    Json.optionalEntry "maxLength" (m.maxLength.map Json.nat))

variable {ν : Type} {m : Type → Type} [Attempt m] [Readable ν m]

def read? (v : ν) : m Member := do
  let ms ← members?
    [["type"], ["required"], ["description"], ["length"], ["minLength"], ["maxLength"]] v
  return {
    type := ← member? ms 0 TypeExpr.read?
    required := ← memberD ms 1 bool? false
    description := ← optionalMember ms 2 text?
    length := ← optionalMember ms 3 natural?
    minLength := ← optionalMember ms 4 natural?
    maxLength := ← optionalMember ms 5 natural? }

end Member

namespace Members

open Reading

def toJson (ms : Members) : Json := .object (ms.map fun (name, m) => (name, m.toJson))

variable {ν : Type} {m : Type → Type} [Attempt m] [Readable ν m]

def read? (v : ν) : m Members := mapOf? text? Member.read? v

end Members

/-- A named type made of members. -/
structure DataType where
  name : String := ""
  description : Option String := none
  members : Members := []
deriving Inhabited

namespace DataType

open Reading

def toJson (t : DataType) : Json :=
  .object ([("name", .string t.name)] ++
    Json.optionalEntry "description" (t.description.map .string) ++
    [("members", t.members.toJson)])

variable {ν : Type} {m : Type → Type} [Attempt m] [Readable ν m]

def read? (v : ν) : m DataType := do
  let ms ← members? [["name"], ["description"], ["members"]] v
  return {
    name := ← memberD ms 0 text? ""
    description := ← optionalMember ms 1 text?
    members := ← memberD ms 2 Members.read? [] }

end DataType

end ApiGateway
