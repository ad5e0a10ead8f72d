import ApiGateway.Reading.Basic

/-
Settings of the proxies of a gateway.
-/

namespace ApiGateway

structure ProxyConfig where
  /-- The limit of a call in milliseconds, zero for none. -/
  callTimeoutMs : Nat := 30000
  maxFrameLength : Nat := 16 * 1024 * 1024
  /-- The directory that holds the backends. -/
  directory : String := "."
  /-- How the names of backends end. -/
  suffix : String := "-proxy"
deriving DecidableEq

namespace ProxyConfig

/-- The limit of a call in milliseconds, if there is one. -/
def callTimeout (c : ProxyConfig) : Option Nat :=
  if 0 < c.callTimeoutMs then some c.callTimeoutMs else none

def toJson (c : ProxyConfig) : Json :=
  .object [("call_timeout_ms", Json.nat c.callTimeoutMs),
    ("max_frame_len", Json.nat c.maxFrameLength), ("proxy_dir", .string c.directory),
    ("proxy_suffix", .string c.suffix)]

open Reading

variable {ν : Type} {m : Type → Type} [Attempt m] [Readable ν m]

def read? (v : ν) : m ProxyConfig := do
  let ms ← members? [["call_timeout_ms"], ["max_frame_len"], ["proxy_dir"], ["proxy_suffix"]] v
  let d : ProxyConfig := {}
  return {
    callTimeoutMs := ← memberD ms 0 natural? d.callTimeoutMs
    maxFrameLength := ← memberD ms 1 natural? d.maxFrameLength
    directory := ← memberD ms 2 text? d.directory
    suffix := ← memberD ms 3 text? d.suffix }

end ProxyConfig

end ApiGateway
