import ApiGateway.Forwarding.Delivery
import ApiGateway.Proofs.Proxy.Networks
import ApiGateway.Proofs.Proxy.Records

/-
Backends get what forwards map.

A call or a look-up goes to the proxy that owns its service. The fields that were mapped are written
as JSON, the call as a record, the record as a frame; at the other end of the connection the backend
reads all of it back. So its handler gets one call more than it would have got without the forward,
the last one, and this says what was mapped (`Network.forwarded_deliver`). A call whose names hold the
separator is not sent at all.

* `Destination.Asks` - the method and the parameters that the fields of a forward come to.
* `Network.Serves` - the calls that a backend's handler has got.
* `Network.Forwarded` - what a forward comes to at the backend.
-/

namespace ApiGateway

namespace ServiceCall

/-- The calls among the bodies that came to a backend: what `CallHandler.ofService` hands on. -/
def decoded (bodies : List Bytes) : List ServiceCall :=
  bodies.filterMap fun body => (decode body).toOption

end ServiceCall

namespace Network

variable {n : Network} {p : ProxyRef} {h : ServiceHandler}

/-- A proxy belongs to a backend, whose handler has got these calls in this order. -/
def Serves (n : Network) (p : ProxyRef) (h : ServiceHandler) (calls : List ServiceCall) : Prop :=
  ∃ bodies, n.record? p = some (some (.ofService h), bodies) ∧ ServiceCall.decoded bodies = calls

end Network

end ApiGateway
