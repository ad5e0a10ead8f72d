import ApiGateway.Launching.Files
import ApiGateway.Proxy.Config
import ApiGateway.Proxy.Network
import ApiGateway.Text.Split
import ApiGateway.Text.Names

/-
Starting backends and waiting for their services.

* `discover` - the backends of a directory: executable files whose names end in the suffix.
* `Network.launch` - starts a program and connects to it. It announces its services as soon as
  time passes.
* `Network.waitForServices` - lets time pass until some services are there.
-/

namespace ApiGateway

/-- The name is longer than the suffix and ends in it. -/
def hasSuffix (suffix name : String) : Bool :=
  suffix.toList.length < name.toList.length && suffix.toList.isSuffixOf name.toList

/-- The names of the backends in the directory of the settings, in ascending order. -/
def discover (fs : Files) (c : ProxyConfig) : Except ProxyError (List String) := do
  let entries ← (fs.list c.directory).mapError fun e => .io e.message
  return Text.sortNames
    ((entries.filter fun e => hasSuffix c.suffix e.name && e.isExecutable).map (·.name))

namespace Network

/-- Connects to a program that runs. It sends its announcement at once. -/
def attach (n : Network) (c : ProxyConfig) (name : String) (program : Program) :
    ProxyRef × Network :=
  let near : Proxy := {
    name := name
    callTimeout := c.callTimeout
    maxFrameLength := c.maxFrameLength
    handler := some CallHandler.registration }
  let d : ProxyConfig := {}
  let far : Proxy := {
    name := name
    callTimeout := d.callTimeout
    maxFrameLength := d.maxFrameLength
    handler := some (CallHandler.ofService program.handler) }
  let (number, n) := n.connect (.session { proxy := near }) (.session { proxy := far })
    defaultCapacity
  let (_, n) := n.startCall ⟨number, .far⟩ (Registration.mk program.services).encode
  (⟨number, .near⟩, n)

/-- The name of a file: the last part of its path. -/
def fileName (path : String) : String :=
  String.ofList (((Text.splitAt '/' path.toList).getLast?).getD [])

/-- Starts the program at a path. -/
def launch (n : Network) (fs : Files) (c : ProxyConfig) (path : String) :
    Except ProxyError (ProxyRef × Network) := do
  let program ← (fs.program path).mapError fun e => .launch path e.message
  return n.attach c (fileName path) program

/-- Starts every backend of the directory; those that cannot be started are passed over. -/
def launchAll (n : Network) (fs : Files) (c : ProxyConfig) : Except ProxyError Network := do
  return (← discover fs c).foldl (fun n name =>
    match n.launch fs c (c.directory ++ "/" ++ name) with
    | .ok (_, n) => n
    | .error _ => n) n

/-- Lets time pass, at most a number of milliseconds, until somebody owns each of the services. The
error names the first that nobody owns. -/
def waitForServices (n : Network) (services : List String) (milliseconds : Nat) :
    Except ProxyError Unit × Network :=
  let n := if (n.missing? services).isNone || milliseconds = 0 then n else n.settle
  match n.missing? services with
  | none => (.ok (), n)
  | some service => (.error (.notFound service), n)

end Network

end ApiGateway
