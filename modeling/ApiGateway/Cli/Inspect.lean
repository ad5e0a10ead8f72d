import ApiGateway.Cli.Output
import ApiGateway.Graph.Dot
import ApiGateway.Graph.Plan
import ApiGateway.Launching.Files
import ApiGateway.Serving.Api

/-
The commands that look at a document: `validate`, `plan` and `endpoints`.
-/

namespace ApiGateway.Cli

/-- What a command does, or how it ended before it was done. -/
abbrev Action (α : Type) := Except Outcome α

/-- The outcome of an action that ends in one. -/
def Action.outcome : Action Outcome → Outcome
  | .ok o => o
  | .error o => o

/-- The text of the document at a path. -/
def readDocument (fs : Files) (o : OutputOptions) (path : String) : Action String :=
  (fs.readText path).mapError fun e =>
    .failure o .runtimeError ("failed to read " ++ path ++ ": " ++ e.message)

/-- The name of a format in results. -/
def formatName : Reading.Format → String
  | .json => "Json"
  | .yaml => "Yaml"

/-! ### Validation -/

/-- The entry of a list, unless it is empty. -/
def listEntry (key : String) (lines : List String) : List (String × Json) :=
  if lines.isEmpty then [] else [(key, Json.strings lines)]

def validationResult (format : Reading.Format) (errors warnings : List String) : Json :=
  .object ([("valid", .bool errors.isEmpty), ("format", .string (formatName format))] ++
    listEntry "errors" errors ++ listEntry "warnings" warnings)

def validate (fs : Files) (o : OutputOptions) (path : String) : Action Outcome := do
  let text ← readDocument fs o path
  let (d, format) ← (Document.parse .either text).mapError fun e =>
    Outcome.failure o .validationFailed e.message
  let warnings := d.warnings.map Violation.line
  match d.validate with
  | .ok () =>
    return .resultOr o .success (validationResult format [] warnings)
      (("ok: valid api document (" ++ formatName format ++ ")") ::
        warnings.map ("warning: " ++ ·))
  | .error e =>
    if o.format = .text && !o.quiet then
      return .complain .validationFailed ("error: validation failed" :: e.lines.map ("- " ++ ·))
    else return .result o .validationFailed (validationResult format e.lines warnings)

/-! ### Plans -/

def paramLine (p : PlannedParam) : String :=
  "  param " ++ p.source.name ++ "." ++ p.name ++ ": " ++ p.type ++
    (if p.required then " (required)" else "")

/-- A line for each level of a graph. -/
def levelLines (g : ForwardGraph) : List String :=
  g.levels.zipIdx.map fun (names, i) =>
    "  level " ++ toString i ++ ": " ++ ", ".intercalate names

def forwardLines (f : PlannedForward) : List String :=
  ("  - forward: " ++ f.name ++ " (" ++ f.target ++ " -> " ++ f.service ++ ")") ::
    (if f.dependsOn.isEmpty then [] else ["    deps: " ++ ", ".intercalate f.dependsOn]) ++
    f.mapping.lines.map ("    " ++ ·) ++
    (if f.test.isEmpty then []
      else ["    test: " ++ " && ".intercalate f.test, "    onfail: " ++ f.onFail.name])

def endpointLines (e : EndpointPlan) : List String :=
  ["", e.label] ++ e.params.map paramLine ++ levelLines e.graph ++ e.forwards.flatMap forwardLines

def planLines (warnings : List String) (p : Plan) : List String :=
  ["validation: valid"] ++ warnings.map ("warning: " ++ ·) ++
    ["version: " ++ p.version ++ "  endpoints: " ++ toString p.endpoints.length ++
      "  forwards: " ++ toString p.forwardCount] ++
    p.endpoints.flatMap endpointLines

def invalidLines (errors : List String) : List String :=
  ["validation: invalid", "errors: " ++ toString errors.length] ++ errors.map ("- " ++ ·)

def plan (fs : Files) (o : OutputOptions) (path : String) : Action Outcome := do
  let text ← readDocument fs o path
  let (d, _) ← (Document.parse .either text).mapError fun e =>
    Outcome.failure o .validationFailed e.message
  let planned ← d.plan.mapError fun e => Outcome.failure o .validationFailed e.message
  let code : ExitCode := if planned.plan.isSome then .success else .validationFailed
  if o.quiet then return { code }
  match o.format, planned.plan with
  | .json, _ => return .print code [planned.toJson.prettyText]
  | .text, some p => return .print code (planLines planned.validation.warnings p)
  | .text, none => return .print code (invalidLines planned.validation.errors)
  | .dot, some p => return .print code (p.endpoints.map fun e => e.graph.toDot e.label)
  | .dot, none => return .complain code ["error: cannot generate DOT graph for invalid document"]

/-! ### Endpoints -/

/-- The text with blanks after it up to a width. -/
def padTo (width : Nat) (s : String) : String :=
  String.ofList (s.toList ++ List.replicate (width - s.toList.length) ' ')

def forwardNames (r : Route) : List String := r.chain.nodes.map (·.name)

def routeJson (r : Route) : Json :=
  .object [("method", .string r.method.name), ("url", .string r.url),
    ("params", Json.nat r.binder.declared.length), ("forwards", Json.strings (forwardNames r))]

def routeLine (r : Route) : String :=
  padTo 7 r.method.name ++ " " ++ r.url ++ "  [" ++ ", ".intercalate (forwardNames r) ++ "]"

def endpoints (fs : Files) (o : OutputOptions) (path : String) : Action Outcome := do
  let text ← readDocument fs o path
  let api ← (Api.parse text).mapError fun e => Outcome.failure o .validationFailed e.message
  return .resultOr o .success (.array (api.routes.map routeJson)) (api.routes.map routeLine)

end ApiGateway.Cli
