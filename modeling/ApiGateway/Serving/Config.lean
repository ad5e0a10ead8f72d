import ApiGateway.Proxy.Config
import ApiGateway.Reading.Format

/-
Settings of a gateway, read from JSON or YAML; what is not set has a default.
-/

namespace ApiGateway

structure GatewayConfig where
  /-- The address to listen on. -/
  bindAddress : String := "127.0.0.1:8080"
  /-- The limit of a call over HTTP in milliseconds. -/
  httpTimeoutMs : Nat := 30000
  proxy : ProxyConfig := {}
deriving DecidableEq

namespace GatewayConfig

def toJson (c : GatewayConfig) : Json :=
  .object [("bind_addr", .string c.bindAddress), ("http_timeout_ms", Json.nat c.httpTimeoutMs),
    ("proxy", c.proxy.toJson)]

open Reading

variable {ν : Type} {m : Type → Type} [Attempt m] [Readable ν m]

def read? (v : ν) : m GatewayConfig := do
  let ms ← members? [["bind_addr"], ["http_timeout_ms"], ["proxy"]] v
  let d : GatewayConfig := {}
  return {
    bindAddress := ← memberD ms 0 text? d.bindAddress
    httpTimeoutMs := ← memberD ms 1 natural? d.httpTimeoutMs
    proxy := ← memberD ms 2 ProxyConfig.read? d.proxy }

/-- The settings of a text; a blank one sets nothing. -/
def parse (text : String) : Except ParseError GatewayConfig :=
  if Text.isBlankText text then .ok {} else parseEither read? text

end GatewayConfig

end ApiGateway
