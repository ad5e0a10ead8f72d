import ApiGateway.Proxy.Error
import ApiGateway.Reading.Json
import ApiGateway.Json.Text
import ApiGateway.Text.Blank

/-
Registrations: a backend's announcement of the services it owns, none of which has a blank name.
-/

namespace ApiGateway

structure Registration where
  services : List String
deriving DecidableEq

namespace Registration

def encode (r : Registration) : Bytes :=
  Text.encode (Json.object [("serviceNames", Json.strings r.services)]).text

open Reading

variable {ν : Type} {m : Type → Type} [Attempt m] [Readable ν m]

def read? (v : ν) : m Registration := do
  let ms ← members? [["serviceNames"]] v
  return ⟨← member? ms 0 (listOf? text?)⟩

def decode (bs : Bytes) : Except ProxyError Registration :=
  match (do read? (← Json.Node.parseBytes? bs) : Option Registration) with
  | none => .error (.registration .notJson)
  | some r => if r.services.any Text.isBlankText then .error (.registration .blankName) else .ok r

/-- What an announcement comes to when its call has come to a result. Any reply acknowledges it, be
it a record or not. -/
def acknowledged (r : Registration) (result : Except ProxyError Bytes) :
    Except ProxyError Registration :=
  result.map fun _ => r

end Registration

end ApiGateway
