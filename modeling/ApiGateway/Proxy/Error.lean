/-
What goes wrong between a gateway and its backends.

The reasons that a JSON text or an operating system gives are not part of a message.
-/

namespace ApiGateway

/-- Why a body is no service call. -/
inductive CallFault where
  | containsNul
  | missingParts
  /-- The named part is not UTF-8. -/
  | notUtf8 (part : String)
  /-- The parameters are not the JSON that was asked for. -/
  | notJson
deriving DecidableEq, Repr

namespace CallFault

def message : CallFault → String
  | .containsNul => "service and method names must not contain NUL"
  | .missingParts => "expected service\\0method\\0params"
  | .notUtf8 part => part ++ " is not valid UTF-8"
  | .notJson => "..."

end CallFault

/-- Why a body is no registration. -/
inductive RegistrationFault where
  | blankName
  | notJson
deriving DecidableEq, Repr

namespace RegistrationFault

def message : RegistrationFault → String
  | .blankName => "service names must not be empty"
  | .notJson => "..."

end RegistrationFault

inductive ProxyError where
  | notFound (service : String)
  | streamClosed
  | malformedFrame (reason : String)
  | timedOut (id : UInt64) (milliseconds : Nat)
  | malformedCall (fault : CallFault)
  | registration (fault : RegistrationFault)
  | handler (reason : String)
  | launch (path reason : String)
  | io (reason : String)
deriving DecidableEq, Repr

namespace ProxyError

def message : ProxyError → String
  | .notFound service => "no proxy registered for service '" ++ service ++ "'"
  | .streamClosed => "proxy stream closed"
  | .malformedFrame reason => "malformed frame: " ++ reason
  | .timedOut id ms => "call " ++ toString id.toNat ++ " timed out after " ++ toString ms ++ "ms"
  | .malformedCall fault => "malformed service call: " ++ fault.message
  | .registration fault => "invalid registration: " ++ fault.message
  | .handler reason => "service handler failed: " ++ reason
  | .launch path reason => "failed to launch " ++ path ++ ": " ++ reason
  | .io reason => "io error: " ++ reason

end ProxyError

end ApiGateway
