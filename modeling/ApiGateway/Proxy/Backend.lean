import ApiGateway.Proxy.Basic
import ApiGateway.Proxy.Registration
import ApiGateway.Proxy.ServiceCall

/-
What answers the calls at the two ends of a connection.

* `ServiceHandler`, `CallHandler.ofService` - a backend that answers decoded service calls.
* `CallHandler.registration` - the gateway's end: binds the announced services to the proxy through
  which the announcement came, and sends the announcement back.
* `ServiceHandler.echo` - a backend that sends back what it is asked.
-/

namespace ApiGateway

/-- Answers service calls. -/
abbrev ServiceHandler := ServiceCall → CallResult

namespace CallHandler

/-- Decodes each call for a service handler. -/
def ofService (h : ServiceHandler) : CallHandler := fun _ body r =>
  match ServiceCall.decode body with
  | .ok c => (h c, r)
  | .error e => (.error e, r)

/-- Binds announced services to the proxy that they came through. -/
def registration : CallHandler := fun self body r =>
  match Registration.decode body with
  | .ok reg => (.ok reg.encode, r.registerAll reg.services self)
  | .error e => (.error e, r)

end CallHandler

namespace ServiceHandler

/-- Sends back service, method and parameters; no parameters are null. -/
def echo : ServiceHandler := fun c => do
  let params ← if c.params.isEmpty then pure Json.null else c.paramsJson
  return Text.encode (Json.object
    [("method", .string c.method), ("params", params), ("service", .string c.service)]).text

end ServiceHandler

end ApiGateway
