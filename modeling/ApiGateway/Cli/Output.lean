import ApiGateway.Cli.Options
import ApiGateway.Json.Node
import ApiGateway.Json.Text

/-
What a command prints and the code it exits with.

* `Outcome` - an exit code and the text on both output streams.
* `Outcome.result`, `Outcome.failure` - a result and an error in the format asked for.
-/

namespace ApiGateway.Cli

/-- How a command ended. -/
inductive ExitCode where
  | success
  | validationFailed
  /-- The request or the call failed. -/
  | runFailed
  /-- The command could not do its work. -/
  | runtimeError
deriving DecidableEq, Repr

namespace ExitCode

def toNat : ExitCode → Nat
  | .success => 0
  | .validationFailed => 2
  | .runFailed => 3
  | .runtimeError => 4

end ExitCode

structure Outcome where
  code : ExitCode
  stdout : String := ""
  stderr : String := ""
deriving DecidableEq

namespace Outcome

/-- Each line with its end. -/
def ofLines (lines : List String) : String := String.join (lines.map (· ++ "\n"))

/-- Lines on the output. -/
def print (code : ExitCode) (lines : List String) : Outcome := { code, stdout := ofLines lines }

/-- Lines on the error output. -/
def complain (code : ExitCode) (lines : List String) : Outcome := { code, stderr := ofLines lines }

/-- A result as JSON, indented unless JSON is asked for. -/
def result (o : OutputOptions) (code : ExitCode) (v : Json) : Outcome :=
  if o.quiet then { code }
  else match o.format with
    | .json => print code [v.text]
    | _ => print code [v.prettyText]

/-- Lines where text is asked for, otherwise a result as JSON. -/
def resultOr (o : OutputOptions) (code : ExitCode) (v : Json) (lines : List String) : Outcome :=
  if o.format = .text && !o.quiet then print code lines else result o code v

/-- An error. -/
def failure (o : OutputOptions) (code : ExitCode) (message : String) : Outcome :=
  if o.quiet then { code }
  else match o.format with
    | .json => complain code [(Json.object [("error", .string message)]).text]
    | _ => complain code ["error: " ++ message]

end Outcome

/-- A body as a value: JSON if it is, else its text. -/
def bodyValue (body : Bytes) : Json :=
  if body.isEmpty then .null
  else (Json.parseBytes? body).getD (.string (Text.decodeLossy body))

end ApiGateway.Cli
