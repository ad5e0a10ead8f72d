import ApiGateway.Reading.Basic

/-
Forwards: the calls that an endpoint makes to other services.

* `GrpcTarget`, `RedisTarget`, `HttpTarget` - what a forward calls and with which fields.
* `Forward` - a named call with its dependencies, its test and its policy on failure. Any number of
  targets can be written; a well-formed forward has one, and `Forward.target?` is the first.
* `Forward.mapping` - the fields sent, each with the expression that gives its value.
-/

namespace ApiGateway

/-- What becomes of a request when a forward fails. -/
inductive OnFail where
  | proceed
  | reject
deriving DecidableEq, Repr

namespace OnFail

def name : OnFail → String
  | .proceed => "continue"
  | .reject => "reject"

def ofName? (s : String) : Option OnFail :=
  if s == "continue" then some .proceed else if s == "reject" then some .reject else none

end OnFail

/-- Fields with the texts of their expressions, in the order of declaration. -/
abbrev FieldTexts := List (String × String)

structure GrpcTarget where
  method : String := ""
  fields : FieldTexts := []
deriving DecidableEq

/-- A look-up by key; the kind of value is `string` or `hash`. -/
structure RedisTarget where
  key : String := ""
  valueType : String := "string"
deriving DecidableEq

structure HttpTarget where
  url : String := ""
  method : Option String := none
  fields : FieldTexts := []
deriving DecidableEq

inductive Target where
  | grpc (target : GrpcTarget)
  | redis (target : RedisTarget)
  | http (target : HttpTarget)
deriving DecidableEq

/-- The name of a target's kind. -/
def Target.kind : Target → String
  | .grpc _ => "grpc"
  | .redis _ => "redis"
  | .http _ => "http"

/-- The conditions on a reply: fields or operators with their operands, in the order written. -/
abbrev Test := List (String × Json)

structure Forward where
  name : String := ""
  service : String := ""
  grpc : Option GrpcTarget := none
  redis : Option RedisTarget := none
  http : Option HttpTarget := none
  deps : List String := []
  test : Option Test := none
  onFail : OnFail := .proceed
deriving Inhabited

namespace Forward

/-- The targets written. -/
def targets (f : Forward) : List Target :=
  (f.grpc.map Target.grpc).toList ++ (f.redis.map Target.redis).toList ++
    (f.http.map Target.http).toList

/-- The target called. -/
def target? (f : Forward) : Option Target := f.targets.head?

/-- The fields sent with their expressions: a look-up sends its key. -/
def mapping (f : Forward) : FieldTexts :=
  match f.target? with
  | some (.grpc t) => t.fields
  | some (.redis t) => [("key", t.key)]
  | some (.http t) => t.fields
  | none => []

/-! ### As JSON -/

def fieldsToJson (fs : FieldTexts) : Json := .object (fs.map fun (k, v) => (k, .string v))

def grpcToJson (t : GrpcTarget) : Json :=
  .object [("method", .string t.method), ("paramMapper", fieldsToJson t.fields)]

def redisToJson (t : RedisTarget) : Json :=
  .object [("key", .string t.key), ("type", .string t.valueType)]

def httpToJson (t : HttpTarget) : Json :=
  .object ([("url", .string t.url)] ++ Json.optionalEntry "method" (t.method.map .string) ++
    [("paramMapper", fieldsToJson t.fields)])

def toJson (f : Forward) : Json :=
  .object ([("name", .string f.name), ("service", .string f.service)] ++
    Json.optionalEntry "grpc" (f.grpc.map grpcToJson) ++
    Json.optionalEntry "redis" (f.redis.map redisToJson) ++
    Json.optionalEntry "http" (f.http.map httpToJson) ++
    (if f.deps.isEmpty then [] else [("deps", Json.strings f.deps)]) ++
    Json.optionalEntry "test" (f.test.map .object) ++
    [("onfail", .string f.onFail.name)])

/-! ### Reading -/

open Reading

variable {ν : Type} {m : Type → Type} [Attempt m] [Readable ν m]

def readFields? (v : ν) : m FieldTexts := mapOf? text? text? v

def readGrpc? (v : ν) : m GrpcTarget := do
  let ms ← members? [["method"], ["paramMapper"]] v
  return { method := ← memberD ms 0 text? "", fields := ← memberD ms 1 readFields? [] }

def readRedis? (v : ν) : m RedisTarget := do
  let ms ← members? [["key"], ["type"]] v
  return { key := ← memberD ms 0 text? "", valueType := ← memberD ms 1 text? "string" }

def readHttp? (v : ν) : m HttpTarget := do
  let ms ← members? [["url"], ["method"], ["paramMapper"]] v
  return {
    url := ← memberD ms 0 text? ""
    method := ← optionalMember ms 1 text?
    fields := ← memberD ms 2 readFields? [] }

def readTest? (v : ν) : m Test := mapOf? text? json? v

def readOnFail? (v : ν) : m OnFail := do (OnFail.ofName? (← choice? v)).getM

def read? (v : ν) : m Forward := do
  let ms ← members? [["name"], ["service"], ["grpc"], ["redis"], ["http"], ["deps"], ["test"],
    ["onfail", "onFail"]] v
  return {
    name := ← memberD ms 0 text? ""
    service := ← memberD ms 1 text? ""
    grpc := ← optionalMember ms 2 readGrpc?
    redis := ← optionalMember ms 3 readRedis?
    http := ← optionalMember ms 4 readHttp?
    deps := ← memberD ms 5 (listOf? text?) []
    test := ← optionalMember ms 6 readTest?
    onFail := ← memberD ms 7 readOnFail? .proceed }

end Forward

end ApiGateway
