import ApiGateway.Expression.Condition
import ApiGateway.Expression.FieldExpr
import ApiGateway.Proxy.Error

/-
What goes wrong with a forward, when it is compiled or when it is run.
-/

namespace ApiGateway

inductive ForwardFault where
  | unknownDependency (dep : String)
  | cyclicDependency
  | missingTarget
  | invalidExpression (field : String) (cause : FieldExprError)
  | invalidTest (cause : ConditionError)
  /-- A field of a reply that is not there. -/
  | unresolvedReference (reference : String)
  /-- The reply does not meet the forward's test. -/
  | testFailed
  | transport (cause : ProxyError)
  | httpStatus (status : Nat)
  | http (reason : String)
  | encode (reason : String)
deriving DecidableEq

/-- A fault and the forward it is laid to. -/
structure ForwardError where
  node : String
  fault : ForwardFault
deriving DecidableEq

namespace ForwardError

def message (e : ForwardError) : String :=
  let forward := "forward '" ++ e.node ++ "'"
  match e.fault with
  | .unknownDependency dep => forward ++ " depends on unknown forward '" ++ dep ++ "'"
  | .cyclicDependency => "cyclic dependency through " ++ forward
  | .missingTarget => forward ++ " declares no target"
  | .invalidExpression field cause =>
    forward ++ ": invalid source expression for '" ++ field ++ "': " ++ cause.message
  | .invalidTest cause => forward ++ ": invalid test: " ++ cause.message
  | .unresolvedReference reference =>
    forward ++ ": unresolved source reference '" ++ reference ++ "'"
  | .testFailed => forward ++ " failed its result test"
  | .transport cause => forward ++ ": " ++ cause.message
  | .httpStatus status => forward ++ ": http " ++ toString status
  | .http reason => forward ++ ": http request failed: " ++ reason
  | .encode reason => forward ++ ": cannot encode parameters: " ++ reason

end ForwardError

end ApiGateway
