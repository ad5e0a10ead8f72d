import ApiGateway.Schema.Member
import ApiGateway.Text.Blank

/-
The declared types of a document, in the order of declaration.

* `TypeRegistry.register` - adds a type; its name must be new and not builtin, and none of its
  members' names blank.
-/

namespace ApiGateway

inductive SchemaError where
  | missingTypeName
  | duplicateTypeName (name : String)
  | builtinRedefined (name : String)
  | missingMemberName (type : String)
deriving DecidableEq

namespace SchemaError

def message : SchemaError → String
  | .missingTypeName => "type name is missing"
  | .duplicateTypeName name => "duplicate type name '" ++ name ++ "'"
  | .builtinRedefined name => "type '" ++ name ++ "' redefines a builtin type"
  | .missingMemberName type => "type '" ++ type ++ "' has a member with an empty name"

end SchemaError

structure TypeRegistry where
  types : List DataType := []
deriving Inhabited

namespace TypeRegistry

/-- The type of a name. -/
def find? (r : TypeRegistry) (name : String) : Option DataType := r.types.find? (·.name == name)

def names (r : TypeRegistry) : List String := r.types.map (·.name)

def register (r : TypeRegistry) (t : DataType) : Except SchemaError TypeRegistry :=
  if Text.isBlankText t.name then .error .missingTypeName
  else if builtinTypes.contains t.name then .error (.builtinRedefined t.name)
  else if (r.find? t.name).isSome then .error (.duplicateTypeName t.name)
  else if t.members.any fun (name, _) => Text.isBlankText name then
    .error (.missingMemberName t.name)
  else .ok ⟨r.types ++ [t]⟩

def ofTypes (ts : List DataType) : Except SchemaError TypeRegistry :=
  ts.foldlM register {}

end TypeRegistry

end ApiGateway
