import ApiGateway.Expression.FieldExpr
import ApiGateway.Schema.Forward

/-
The field expressions of a forward.

* `Forward.expressions` - the fields whose expression can be read, with it.
* `Forward.expressionErrors` - the other fields, with what is wrong.
-/

namespace ApiGateway.Forward

/-- The fields whose expression can be read, in the order of declaration. -/
def expressions (f : Forward) : Mapping :=
  f.mapping.filterMap fun (dest, text) => (FieldExpr.parse text).toOption.map (dest, ·)

/-- The fields whose expression cannot be read, with what is wrong. -/
def expressionErrors (f : Forward) : List (String × FieldExprError) :=
  f.mapping.filterMap fun (dest, text) =>
    match FieldExpr.parse text with
    | .ok _ => none
    | .error e => some (dest, e)

end ApiGateway.Forward
