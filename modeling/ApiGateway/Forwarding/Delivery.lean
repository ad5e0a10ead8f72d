import ApiGateway.Forwarding.Engine
import ApiGateway.Proxy.Network

/-
Delivery of forwards to their backends: calls and look-ups go to services through proxies, the rest
over HTTP.

* `Request`, `Destination.request` - what a forward asks of its backend.
* `HttpTransport` - what makes calls over HTTP; `HttpFault` - what such a call fails with.
* `deliver` - the forwarder of a gateway with a network of proxies.
-/

namespace ApiGateway

/-- What a forward asks of its backend. -/
inductive Request where
  | service (method : String) (params : Json)
  | http (url : Url) (method : Method) (params : Json)

/-- Why a call over HTTP fails. -/
inductive HttpFault where
  /-- The answer has a status that is no success. -/
  | status (status : Nat)
  /-- There is no answer, or it cannot be read. -/
  | http (reason : String)

def HttpFault.toForward : HttpFault → ForwardFault
  | .status code => .httpStatus code
  | .http reason => .http reason

/-- Makes calls over HTTP. -/
abbrev HttpTransport := Url → Method → Json → Except HttpFault Bytes

/-- The request to a destination. A look-up has no method, and a null key if none is mapped. -/
def Destination.request (fields : CallFields) : Destination → Request
  | .grpc method => .service method (Json.ofEntries fields)
  | .redis valueType =>
    .service ""
      (.object [("key", (fields.lookup "key").getD .null), ("valType", .string valueType)])
  | .http url method => .http url method (Json.ofEntries fields)

/-- Delivers a forward. A call that is never answered counts as a stream that ended. -/
def deliver (http : HttpTransport) : Forwarder Network := fun node fields n =>
  match node.destination.request fields with
  | .http url method params =>
    ((http url method params).mapError fun fault => ⟨node.name, fault.toForward⟩, n)
  | .service method params =>
    let (result, n) := n.callService ⟨node.service, method, Text.encode params.text⟩
    ((result.getD (.error .streamClosed)).mapError fun e => ⟨node.name, .transport e⟩, n)

end ApiGateway
