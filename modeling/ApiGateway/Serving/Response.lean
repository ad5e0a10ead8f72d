import ApiGateway.Json.Node
import ApiGateway.Json.Text

/-
Responses, and an exchange: a request's view of the world while it is served.

* `Response` - a status, a content type and a body.
* `Exchange.write` - writes a response and gives its status.
* `Exchange.response` - the response as it is kept in memory: the last that was written.
-/

namespace ApiGateway

structure Response where
  status : Nat
  contentType : String := "application/json"
  body : Bytes := []
deriving DecidableEq

namespace Response

/-- The request was met: the status is in the two hundreds. -/
def isSuccess (r : Response) : Bool := 200 ≤ r.status && r.status < 300

/-- The body as JSON, if it is. -/
def json? (r : Response) : Option Json := Json.parseBytes? r.body

/-- A response that tells of a failure. -/
def failure (status : Nat) (message : String) : Response where
  status := status
  body := Text.encode
    (Json.object [("error", .string message), ("success", .bool false)]).text

end Response

/-- The responses written so far, and the world that forwards change. -/
structure Exchange (ω : Type) where
  written : List Response := []
  world : ω

namespace Exchange

variable {ω : Type}

/-- Writes a response and gives its status. -/
def write (x : Exchange ω) (r : Response) : Nat × Exchange ω :=
  (r.status, { x with written := x.written ++ [r] })

/-- Writes a response that tells of a failure. -/
def fail (x : Exchange ω) (status : Nat) (message : String) : Nat × Exchange ω :=
  x.write (.failure status message)

/-- The last response, and before the first an empty one. -/
def response (x : Exchange ω) : Response :=
  x.written.getLast?.getD { status := 0, contentType := "" }

end Exchange

end ApiGateway
