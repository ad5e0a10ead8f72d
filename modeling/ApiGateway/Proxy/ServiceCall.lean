import ApiGateway.Proxy.Error
import ApiGateway.Json.Node

/-
Service calls: the bodies of the calls that a gateway makes.

A body is a service, a method and parameters with a zero byte after each of the first two; the
parameters take the rest, zero bytes included.
-/

namespace ApiGateway

structure ServiceCall where
  service : String
  method : String
  params : Bytes
deriving DecidableEq

namespace ServiceCall

/-- The bytes of a call; names must not hold the separator. -/
def encode (c : ServiceCall) : Except ProxyError Bytes :=
  let service := Text.encode c.service
  let method := Text.encode c.method
  if service.contains 0 || method.contains 0 then .error (.malformedCall .containsNul)
  else .ok (service ++ 0 :: method ++ 0 :: c.params)

/-- The bytes before and after the first zero byte. -/
def cut? (bs : Bytes) : Option (Bytes × Bytes) :=
  match bs.dropWhile (· ≠ 0) with
  | [] => none
  | _ :: rest => some (bs.takeWhile (· ≠ 0), rest)

/-- The name that bytes stand for; the part is named in the error. -/
def name (part : String) (bs : Bytes) : Except ProxyError String :=
  match Text.decode? bs with
  | some s => .ok s
  | none => .error (.malformedCall (.notUtf8 part))

/-- The service and method bytes and the parameters of a body. -/
def parts? (bs : Bytes) : Option (Bytes × Bytes × Bytes) := do
  let (service, rest) ← cut? bs
  let (method, params) ← cut? rest
  return (service, method, params)

def decode (bs : Bytes) : Except ProxyError ServiceCall :=
  match parts? bs with
  | none => .error (.malformedCall .missingParts)
  | some (service, method, params) => do
    return ⟨← name "service" service, ← name "method" method, params⟩

/-- The parameters as JSON. -/
def paramsJson (c : ServiceCall) : Except ProxyError Json :=
  match Json.parseBytes? c.params with
  | some v => .ok v
  | none => .error (.malformedCall .notJson)

end ServiceCall

end ApiGateway
