import ApiGateway.Schema.Member
import ApiGateway.Schema.Method
import ApiGateway.Schema.Forward

/-
Endpoints: what a request may bring, which forwards it sets off and what it returns.

* `ParamSource`, `ParamGroups` - where parameters come from and which are declared there.
* `Return` - what is declared of a reply with a given status.
* `Endpoint` - a route with its parameters, forwards and returns.
-/

namespace ApiGateway

/-- Where a group of parameters is taken from. -/
inductive ParamSource where
  | body
  | path
  | header
  | queries
deriving DecidableEq, Repr

namespace ParamSource

def name : ParamSource → String
  | .body => "body"
  | .path => "path"
  | .header => "header"
  | .queries => "queries"

def all : List ParamSource := [.body, .path, .header, .queries]

/-- The source that a name stands for; `query` is another name of the queries. -/
def ofName? (s : String) : Option ParamSource :=
  if s == "query" then some .queries else all.find? (·.name == s)

end ParamSource

/-- The declared parameters of each source, in the order of declaration. -/
abbrev ParamGroups := List (ParamSource × Members)

/-- What a reply carries. -/
inductive ReturnKind where
  | json
  | file
  | noContent
deriving DecidableEq

/-- The data of a reply: a type's name, or members. -/
inductive ReturnData where
  | typeName (name : String)
  | members (ms : Members)
deriving Inhabited

structure Return where
  type : Option String := none
  data : Option ReturnData := none
  description : Option String := none
deriving Inhabited

structure Endpoint where
  url : String := ""
  method : Option String := none
  description : Option String := none
  params : ParamGroups := []
  forwards : List Forward := []
  returns : List (String × Return) := []
deriving Inhabited

namespace ParamGroups

open Reading

def toJson (gs : ParamGroups) : Json := .object (gs.map fun (s, ms) => (s.name, ms.toJson))

variable {ν : Type} {m : Type → Type} [Attempt m] [Readable ν m]

def read? (v : ν) : m ParamGroups :=
  mapOf? (fun k => do (ParamSource.ofName? (← choice? k)).getM) Members.read? v

end ParamGroups

namespace ReturnData

open Reading

def toJson : ReturnData → Json
  | .typeName name => .string name
  | .members ms => ms.toJson

variable {ν : Type} {m : Type → Type} [Attempt m] [Readable ν m]

/-- A text is a type's name, a mapping has members. -/
def read? (v : ν) : m ReturnData := do
  match ← content? v with
  | .text s => return .typeName s
  | c => return .members (← (Members.read? c).getM)

end ReturnData

namespace Return

open Reading

/-- The kind of reply that is declared, JSON by default; otherwise the unknown word. -/
def kind (r : Return) : Except String ReturnKind :=
  match r.type with
  | none => .ok .json
  | some "json" => .ok .json
  | some "file" => .ok .file
  | some "nocontent" => .ok .noContent
  | some other => .error other

def toJson (r : Return) : Json :=
  .object (Json.optionalEntry "type" (r.type.map .string) ++
    Json.optionalEntry "data" (r.data.map ReturnData.toJson) ++
    Json.optionalEntry "description" (r.description.map .string))

variable {ν : Type} {m : Type → Type} [Attempt m] [Readable ν m]

def read? (v : ν) : m Return := do
  let ms ← members? [["type"], ["data"], ["description"]] v
  return {
    type := ← optionalMember ms 0 text?
    data := ← optionalMember ms 1 ReturnData.read?
    description := ← optionalMember ms 2 text? }

end Return

namespace Endpoint

open Reading

/-- The declared method, `GET` by default. -/
def httpMethod (e : Endpoint) : Except InvalidMethod Method :=
  match e.method with
  | none => .ok .get
  | some m => Method.parse m

/-- The names of all declared parameters. -/
def paramNames (e : Endpoint) : List String := e.params.flatMap fun (_, ms) => ms.map (·.1)

def toJson (e : Endpoint) : Json :=
  .object ([("url", .string e.url)] ++
    Json.optionalEntry "method" (e.method.map .string) ++
    Json.optionalEntry "description" (e.description.map .string) ++
    [("params", e.params.toJson), ("forwards", .array (e.forwards.map Forward.toJson)),
      ("returns", .object (e.returns.map fun (s, r) => (s, r.toJson)))])

variable {ν : Type} {m : Type → Type} [Attempt m] [Readable ν m]

def read? (v : ν) : m Endpoint := do
  let ms ← members? [["url"], ["method"], ["description"], ["params"], ["forwards"], ["returns"]] v
  return {
    url := ← memberD ms 0 text? ""
    method := ← optionalMember ms 1 text?
    description := ← optionalMember ms 2 text?
    params := ← memberD ms 3 ParamGroups.read? []
    forwards := ← memberD ms 4 (listOf? Forward.read?) []
    returns := ← memberD ms 5 (mapOf? text? Return.read?) [] }

end Endpoint

end ApiGateway
