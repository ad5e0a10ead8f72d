import ApiGateway.Proxy.Config
import ApiGateway.Text.Split

/-
The command line: which command, on what, with which options.

* `Command` - the commands with their operands.
* `Invocation.parse?` - the command of an argument list; none when the arguments are not as they
  should be.
-/

namespace ApiGateway.Cli

/-- How results are printed. Only plans have graphs to draw. -/
inductive OutputFormat where
  | text
  | json
  | dot
deriving DecidableEq, Repr

structure OutputOptions where
  format : OutputFormat := .text
  quiet : Bool := false
deriving DecidableEq

/-- Settings of the gateway; they override those of the settings file. -/
structure GatewayOptions where
  config : Option String := none
  proxyDir : Option String := none
  proxySuffix : Option String := none
  callTimeoutMs : Option Nat := none
  httpTimeoutMs : Option Nat := none
  registerTimeoutMs : Nat := 5000
deriving DecidableEq

inductive Command where
  | validate (path : String)
  | plan (path : String)
  | endpoints (path : String)
  | invoke (path method url : String) (params : Option String) (gateway : GatewayOptions)
  | call (proxy service method : String) (params : Option String) (gateway : GatewayOptions)
deriving DecidableEq

structure Invocation where
  command : Command
  output : OutputOptions
deriving DecidableEq

/-! ### Arguments -/

/-- Arguments sorted into options, flags and operands. -/
structure Arguments where
  options : List (String × String) := []
  flags : List String := []
  operands : List String := []

namespace Arguments

/-- The value of an option. -/
def option? (as : Arguments) (name : String) : Option String := as.options.lookup name

/-- Adds an option, which may be given once. -/
def addOption (as : Arguments) (name value : String) : Option Arguments :=
  if (as.option? name).isSome then none
  else some { as with options := as.options ++ [(name, value)] }

/-- Adds a flag, which may be given once. -/
def addFlag (as : Arguments) (name : String) : Option Arguments :=
  if as.flags.contains name then none else some { as with flags := as.flags ++ [name] }

/-- The argument cannot be a value: it looks like an option. -/
def looksLikeOption (s : String) : Bool :=
  match s.toList with
  | '-' :: _ :: _ => true
  | _ => false

/-- Adds an argument that takes no further one: an option with its value, a flag or an operand. -/
def addSingle (as : Arguments) (valued : List String) (arg : String) : Option Arguments :=
  match arg.toList with
  | ['-', '-'] => some as
  | '-' :: '-' :: cs =>
    match Text.splitOnce? '=' cs with
    | some (name, value) =>
      if valued.contains (String.ofList name) then
        as.addOption (String.ofList name) (String.ofList value)
      else none
    | none => if String.ofList cs = "quiet" then as.addFlag "quiet" else none
  | ['-', 'q'] => as.addFlag "quiet"
  | '-' :: _ :: _ => none
  | _ => some { as with operands := as.operands ++ [arg] }

/-- Sorts arguments, when these options take a value. Two hyphens end the options. -/
def sort (valued : List String) : Arguments → List String → Option Arguments
  | as, [] => some as
  | as, [arg] => as.addSingle valued arg
  | as, arg :: next :: rest =>
    if arg = "--" then some { as with operands := as.operands ++ next :: rest }
    else if arg.startsWith "--" && valued.contains (arg.drop 2).toString then
      if looksLikeOption next then none
      else do sort valued (← as.addOption (arg.drop 2).toString next) rest
    else do sort valued (← as.addSingle valued arg) (next :: rest)

/-- The option is given by none, or by a value that is read. -/
def read (as : Arguments) (name : String) (f : String → Option α) : Option (Option α) :=
  match as.option? name with
  | none => some none
  | some s => (f s).map some

/-- A path, which must not be empty. -/
def path? (s : String) : Option String := if s.isEmpty then none else some s

/-- A natural number below `2 ^ 64` in decimal digits, with or without a plus sign. -/
def natural? (s : String) : Option Nat := do
  let digits := match s.toList with
    | '+' :: cs => cs
    | cs => cs
  if digits.isEmpty || !digits.all Char.isDigit then none
  else
    let n := digits.foldl (fun n c => 10 * n + (c.toNat - 48)) 0
    if n < Nat.pow 2 64 then some n else none

def format? (s : String) : Option OutputFormat :=
  match s with
  | "text" => some .text
  | "json" => some .json
  | "dot" => some .dot
  | _ => none

def output? (as : Arguments) : Option OutputOptions := do
  return {
    format := (← as.read "format" format?).getD .text
    quiet := as.flags.contains "quiet" }

def gateway? (as : Arguments) : Option GatewayOptions := do
  return {
    config := ← as.read "config" path?
    proxyDir := ← as.read "proxy-dir" path?
    proxySuffix := as.option? "proxy-suffix"
    callTimeoutMs := ← as.read "call-timeout-ms" natural?
    httpTimeoutMs := ← as.read "http-timeout-ms" natural?
    registerTimeoutMs := (← as.read "register-timeout-ms" natural?).getD 5000 }

/-- The only operand, a path. -/
def onlyPath? (as : Arguments) : Option String :=
  match as.operands with
  | [path] => path? path
  | _ => none

end Arguments

namespace Invocation

/-- The options with a value that every command takes. -/
def outputOptions : List String := ["format", "log-level"]

def gatewayOptions : List String :=
  ["config", "proxy-dir", "proxy-suffix", "call-timeout-ms", "http-timeout-ms",
    "register-timeout-ms"]

/-- A command that takes a document and nothing else. -/
def parseSimple? (command : String → Command) (args : List String) : Option Invocation := do
  let as ← Arguments.sort outputOptions {} args
  return { command := command (← as.onlyPath?), output := ← as.output? }

def parseInvoke? (args : List String) : Option Invocation := do
  let as ← Arguments.sort (outputOptions ++ gatewayOptions ++ ["method", "url", "params"]) {} args
  let params ← as.read "params" Arguments.path?
  return {
    command := .invoke (← as.onlyPath?) ((as.option? "method").getD "GET") (← as.option? "url")
      params (← as.gateway?)
    output := ← as.output? }

def parseCall? (args : List String) : Option Invocation := do
  let as ← Arguments.sort
    (outputOptions ++ gatewayOptions ++ ["proxy", "service", "method", "params"]) {} args
  if as.operands.isEmpty then
    return {
      command := .call (← Arguments.path? (← as.option? "proxy")) (← as.option? "service")
        ((as.option? "method").getD "") (as.option? "params") (← as.gateway?)
      output := ← as.output? }
  else none

/-- The command of an argument list. -/
def parseCommand? : List String → Option Invocation
  | "validate" :: args => parseSimple? .validate args
  | "plan" :: args => parseSimple? .plan args
  | "endpoints" :: args => parseSimple? .endpoints args
  | "invoke" :: args => parseInvoke? args
  | "call" :: args => parseCall? args
  | _ => none

/-- The command of an argument list. A filter of the log may stand before it. -/
def parse? : List String → Option Invocation
  | "--log-level" :: _ :: args => parseCommand? args
  | arg :: args =>
    if "--log-level=".toList.isPrefixOf arg.toList then parseCommand? args
    else parseCommand? (arg :: args)
  | [] => none

end Invocation

end ApiGateway.Cli
