import ApiGateway.Proofs.Reading.Mirrors
import ApiGateway.Proofs.Schema.WellFormed

/-
Documents written as JSON and read back.

Each record is written under the names and in the order that its reader declares, less what is
absent, and its reader gives back the record: absent members are read as absent, defaults are written
out, and mappings keep their order because their keys differ. So a well-formed document is read from
its own text (`Document.parse_text`), whichever format it was first read from.

* `DataType.slots` and the like - the members of a record as they are written.
* `Document.operands` - what the tests of a document compare with.
-/

namespace ApiGateway

open Json (present)
open Reading (Mirrors Readable memberTrees contentOf mirrors_ofJson mirrors_contentOf)

section

variable {ν : Type} [Readable ν Option] {of : Json → ν} (mirrors : Mirrors of)

/-! ### Types -/

mutual
theorem TypeExpr.ofContent?_toJson (t : TypeExpr) :
    TypeExpr.ofContent? (contentOf t.toJson) = some t := by
  cases t with
  | named name => rfl
  | list items =>
    rw [toJson, contentOf, ofContent?, ofContentItems?_toJsonItems items, Option.map_some]

theorem TypeExpr.ofContentItems?_toJsonItems (ts : List TypeExpr) :
    TypeExpr.ofContentItems? (Reading.contentOfItems (TypeExpr.toJsonItems ts)) = some ts := by
  cases ts with
  | nil => rfl
  | cons t ts =>
    rw [toJsonItems, Reading.contentOfItems, ofContentItems?, ofContent?_toJson t,
      ofContentItems?_toJsonItems ts]
    rfl
end

include mirrors in
theorem TypeExpr.read?_toJson (t : TypeExpr) : TypeExpr.read? (of t.toJson) = some t := by
  rw [TypeExpr.read?, mirrors.content]
  simp only [Option.bind_eq_bind, Option.bind_some, TypeExpr.ofContent?_toJson]
  rfl

def Member.slots (member : Member) : List (String × Option Json) :=
  [("type", some member.type.toJson), ("required", some (.bool member.required)),
    ("description", member.description.map .string), ("length", member.length.map Json.nat),
    ("minLength", member.minLength.map Json.nat), ("maxLength", member.maxLength.map Json.nat)]

theorem Member.toJson_eq (member : Member) : member.toJson = .object (present member.slots) := by
  simp [toJson, slots, present, Json.optionalEntry]

include mirrors in
theorem Member.read?_toJson (member : Member) : Member.read? (of member.toJson) = some member := by
  have natural : ∀ n : Nat, Reading.natural? (of (Json.nat n)) = some n := mirrors.natural
  have type : Reading.member? (memberTrees of member.slots) 0 TypeExpr.read? = some member.type :=
    TypeExpr.read?_toJson mirrors member.type
  have required : Reading.memberD (memberTrees of member.slots) 1 Reading.bool? false =
      some member.required := mirrors.bool member.required
  have description : Reading.optionalMember (memberTrees of member.slots) 2 Reading.text? =
      some member.description := mirrors.optionalMember rfl (fun s _ => mirrors.text s) fun _ _ => rfl
  have length : Reading.optionalMember (memberTrees of member.slots) 3 Reading.natural? =
      some member.length := mirrors.optionalMember rfl (fun n _ => natural n) fun _ _ => rfl
  have minLength : Reading.optionalMember (memberTrees of member.slots) 4 Reading.natural? =
      some member.minLength := mirrors.optionalMember rfl (fun n _ => natural n) fun _ _ => rfl
  have maxLength : Reading.optionalMember (memberTrees of member.slots) 5 Reading.natural? =
      some member.maxLength := mirrors.optionalMember rfl (fun n _ => natural n) fun _ _ => rfl
  rw [Member.toJson_eq, Member.read?, mirrors.members? (by rfl)]
  simp only [Option.bind_eq_bind, Option.bind_some, type, required, description, length, minLength,
    maxLength, Option.pure_def]

include mirrors in
theorem Members.read?_toJson {members : Members} (wellFormed : members.WellFormed) :
    Members.read? (of members.toJson) = some members :=
  mirrors.mapOf? id Member.toJson wellFormed.names (fun e _ => mirrors.text e.1)
    fun e _ => Member.read?_toJson mirrors e.2

def DataType.slots (type : DataType) : List (String × Option Json) :=
  [("name", some (.string type.name)), ("description", type.description.map .string),
    ("members", some type.members.toJson)]

theorem DataType.toJson_eq (type : DataType) : type.toJson = .object (present type.slots) := by
  simp [toJson, slots, present, Json.optionalEntry]

include mirrors in
theorem DataType.read?_toJson {type : DataType} (wellFormed : type.WellFormed) :
    DataType.read? (of type.toJson) = some type := by
  have name : Reading.memberD (memberTrees of type.slots) 0 Reading.text? "" = some type.name :=
    mirrors.text type.name
  have description : Reading.optionalMember (memberTrees of type.slots) 1 Reading.text? =
      some type.description := mirrors.optionalMember rfl (fun s _ => mirrors.text s) fun _ _ => rfl
  have members : Reading.memberD (memberTrees of type.slots) 2 Members.read? [] =
      some type.members := Members.read?_toJson mirrors wellFormed
  rw [DataType.toJson_eq, DataType.read?, mirrors.members? (by rfl)]
  simp only [Option.bind_eq_bind, Option.bind_some, name, description, members, Option.pure_def]

/-! ### Forwards -/

open Forward (readFields? fieldsToJson)

include mirrors in
theorem Forward.readFields?_toJson {fields : FieldTexts} (differ : (fields.map (·.1)).Nodup) :
    readFields? (of (fieldsToJson fields)) = some fields :=
  mirrors.mapOf? id Json.string differ (fun e _ => mirrors.text e.1) fun e _ => mirrors.text e.2

def GrpcTarget.slots (target : GrpcTarget) : List (String × Option Json) :=
  [("method", some (.string target.method)), ("paramMapper", some (fieldsToJson target.fields))]

include mirrors in
theorem Forward.readGrpc?_toJson {target : GrpcTarget} (differ : (target.fields.map (·.1)).Nodup) :
    Forward.readGrpc? (of (Forward.grpcToJson target)) = some target := by
  have method : Reading.memberD (memberTrees of target.slots) 0 Reading.text? "" =
      some target.method := mirrors.text target.method
  have fields : Reading.memberD (memberTrees of target.slots) 1 readFields? [] =
      some target.fields := Forward.readFields?_toJson mirrors differ
  have written : Forward.grpcToJson target = .object (present target.slots) := rfl
  rw [written, Forward.readGrpc?, mirrors.members? (by rfl)]
  simp only [Option.bind_eq_bind, Option.bind_some, method, fields, Option.pure_def]

def RedisTarget.slots (target : RedisTarget) : List (String × Option Json) :=
  [("key", some (.string target.key)), ("type", some (.string target.valueType))]

include mirrors in
theorem Forward.readRedis?_toJson (target : RedisTarget) :
    Forward.readRedis? (of (Forward.redisToJson target)) = some target := by
  have key : Reading.memberD (memberTrees of target.slots) 0 Reading.text? "" = some target.key :=
    mirrors.text target.key
  have type : Reading.memberD (memberTrees of target.slots) 1 Reading.text? "string" =
      some target.valueType := mirrors.text target.valueType
  have written : Forward.redisToJson target = .object (present target.slots) := rfl
  rw [written, Forward.readRedis?, mirrors.members? (by rfl)]
  simp only [Option.bind_eq_bind, Option.bind_some, key, type, Option.pure_def]

def HttpTarget.slots (target : HttpTarget) : List (String × Option Json) :=
  [("url", some (.string target.url)), ("method", target.method.map .string),
    ("paramMapper", some (fieldsToJson target.fields))]

theorem Forward.httpToJson_eq (target : HttpTarget) :
    Forward.httpToJson target = .object (present target.slots) := by
  simp [Forward.httpToJson, HttpTarget.slots, present, Json.optionalEntry]

include mirrors in
theorem Forward.readHttp?_toJson {target : HttpTarget} (differ : (target.fields.map (·.1)).Nodup) :
    Forward.readHttp? (of (Forward.httpToJson target)) = some target := by
  have url : Reading.memberD (memberTrees of target.slots) 0 Reading.text? "" = some target.url :=
    mirrors.text target.url
  have method : Reading.optionalMember (memberTrees of target.slots) 1 Reading.text? =
      some target.method := mirrors.optionalMember rfl (fun s _ => mirrors.text s) fun _ _ => rfl
  have fields : Reading.memberD (memberTrees of target.slots) 2 readFields? [] =
      some target.fields := Forward.readFields?_toJson mirrors differ
  rw [Forward.httpToJson_eq, Forward.readHttp?, mirrors.members? (by rfl)]
  simp only [Option.bind_eq_bind, Option.bind_some, url, method, fields, Option.pure_def]

include mirrors in
theorem Forward.readOnFail?_name (onFail : OnFail) :
    Forward.readOnFail? (of (.string onFail.name)) = some onFail := by
  rw [Forward.readOnFail?, mirrors.choice]
  cases onFail <;> rfl

def Forward.slots (forward : Forward) : List (String × Option Json) :=
  [("name", some (.string forward.name)), ("service", some (.string forward.service)),
    ("grpc", forward.grpc.map Forward.grpcToJson), ("redis", forward.redis.map Forward.redisToJson),
    ("http", forward.http.map Forward.httpToJson),
    ("deps", if forward.deps.isEmpty then none else some (Json.strings forward.deps)),
    ("test", forward.test.map .object), ("onfail", some (.string forward.onFail.name))]

theorem Forward.toJson_eq (forward : Forward) :
    forward.toJson = .object (present forward.slots) := by
  by_cases none : forward.deps = [] <;>
    simp [toJson, slots, present, Json.optionalEntry, none]

include mirrors in
/-- The operands of a test must be read back; this depends on the tree. -/
theorem Forward.read?_toJson {forward : Forward} (wellFormed : forward.WellFormed)
    (tests : ∀ test ∈ forward.test, ∀ e ∈ test, Reading.json? (of e.2) = some e.2) :
    Forward.read? (of forward.toJson) = some forward := by
  have name : Reading.memberD (memberTrees of forward.slots) 0 Reading.text? "" =
      some forward.name := mirrors.text forward.name
  have service : Reading.memberD (memberTrees of forward.slots) 1 Reading.text? "" =
      some forward.service := mirrors.text forward.service
  have grpc : Reading.optionalMember (memberTrees of forward.slots) 2 Forward.readGrpc? =
      some forward.grpc := mirrors.optionalMember rfl
    (fun target there => Forward.readGrpc?_toJson mirrors (wellFormed.grpc target there))
    fun _ _ => rfl
  have redis : Reading.optionalMember (memberTrees of forward.slots) 3 Forward.readRedis? =
      some forward.redis := mirrors.optionalMember rfl
    (fun target _ => Forward.readRedis?_toJson mirrors target) fun _ _ => rfl
  have http : Reading.optionalMember (memberTrees of forward.slots) 4 Forward.readHttp? =
      some forward.http := mirrors.optionalMember rfl
    (fun target there => Forward.readHttp?_toJson mirrors (wellFormed.http target there))
    fun _ _ => rfl
  have deps : Reading.memberD (memberTrees of forward.slots) 5 (Reading.listOf? Reading.text?) [] =
      some forward.deps := by
    have given : Reading.listOf? Reading.text? (of (Json.strings forward.deps)) =
        some forward.deps := mirrors.listOf? fun s _ => mirrors.text s
    have slot : (memberTrees of forward.slots)[5]? =
        some ((if forward.deps.isEmpty then none else some (Json.strings forward.deps)).map of) := rfl
    rw [Reading.memberD, slot]
    by_cases none : forward.deps = []
    · simp [none]
    · simpa [none] using given
  have test : Reading.optionalMember (memberTrees of forward.slots) 6 Forward.readTest? =
      some forward.test := by
    refine mirrors.optionalMember rfl (fun test there => ?_) fun _ _ => rfl
    have read := mirrors.mapOf? id id (wellFormed.test test there).names
      (fun e _ => mirrors.text e.1) (tests test there)
    have kept : test.map (fun e => (id e.1, id e.2)) = test := List.map_id test
    rwa [kept] at read
  have onFail : Reading.memberD (memberTrees of forward.slots) 7 Forward.readOnFail? .proceed =
      some forward.onFail := Forward.readOnFail?_name mirrors forward.onFail
  rw [Forward.toJson_eq, Forward.read?, mirrors.members? (by rfl)]
  simp only [Option.bind_eq_bind, Option.bind_some, name, service, grpc, redis, http, deps, test,
    onFail, Option.pure_def]

/-! ### Endpoints -/

theorem ParamSource.ofName?_name (source : ParamSource) :
    ParamSource.ofName? source.name = some source := by
  cases source <;> decide

include mirrors in
theorem ParamGroups.read?_toJson {groups : ParamGroups} (differ : (groups.map (·.1)).Nodup)
    (each : ∀ e ∈ groups, e.2.WellFormed) :
    ParamGroups.read? (of groups.toJson) = some groups := by
  refine mirrors.mapOf? ParamSource.name Members.toJson differ (fun e _ => ?_)
    fun e there => Members.read?_toJson mirrors (each e there)
  rw [mirrors.choice]
  simp only [Option.bind_eq_bind, Option.bind_some, ParamSource.ofName?_name]
  rfl

include mirrors in
/-- Members are never written as a text, so that they are not taken for a type's name. -/
theorem ReturnData.read?_toJson {data : ReturnData} (wellFormed : data.WellFormed) :
    ReturnData.read? (of data.toJson) = some data := by
  rw [ReturnData.read?, mirrors.content]
  simp only [Option.bind_eq_bind, Option.bind_some]
  cases data with
  | typeName name => rfl
  | members ms =>
    have read := Members.read?_toJson mirrors_contentOf wellFormed
    have shown : contentOf (ReturnData.members ms).toJson =
        .mapping (Reading.contentOfEntries (ms.map fun e => (e.1, e.2.toJson))) := rfl
    have same : contentOf ms.toJson =
        .mapping (Reading.contentOfEntries (ms.map fun e => (e.1, e.2.toJson))) := rfl
    rw [same] at read
    rw [shown]
    simp only [read]
    rfl

def Return.slots (r : Return) : List (String × Option Json) :=
  [("type", r.type.map .string), ("data", r.data.map ReturnData.toJson),
    ("description", r.description.map .string)]

theorem Return.toJson_eq (r : Return) : r.toJson = .object (present r.slots) := by
  simp [toJson, slots, present]

include mirrors in
theorem Return.read?_toJson {r : Return} (wellFormed : r.WellFormed) :
    Return.read? (of r.toJson) = some r := by
  have type : Reading.optionalMember (memberTrees of r.slots) 0 Reading.text? = some r.type :=
    mirrors.optionalMember rfl (fun s _ => mirrors.text s) fun _ _ => rfl
  have data : Reading.optionalMember (memberTrees of r.slots) 1 ReturnData.read? = some r.data :=
    mirrors.optionalMember rfl
      (fun data there => ReturnData.read?_toJson mirrors (wellFormed data there))
      fun data _ => by cases data <;> rfl
  have description : Reading.optionalMember (memberTrees of r.slots) 2 Reading.text? =
      some r.description := mirrors.optionalMember rfl (fun s _ => mirrors.text s) fun _ _ => rfl
  rw [Return.toJson_eq, Return.read?, mirrors.members? (by rfl)]
  simp only [Option.bind_eq_bind, Option.bind_some, type, data, description, Option.pure_def]

def Endpoint.slots (endpoint : Endpoint) : List (String × Option Json) :=
  [("url", some (.string endpoint.url)), ("method", endpoint.method.map .string),
    ("description", endpoint.description.map .string), ("params", some endpoint.params.toJson),
    ("forwards", some (.array (endpoint.forwards.map Forward.toJson))),
    ("returns", some (.object (endpoint.returns.map fun e => (e.1, e.2.toJson))))]

theorem Endpoint.toJson_eq (endpoint : Endpoint) :
    endpoint.toJson = .object (present endpoint.slots) := by
  simp [toJson, slots, present, Json.optionalEntry]

/-- What the tests of an endpoint compare with. -/
def Endpoint.operands (endpoint : Endpoint) : List Json :=
  endpoint.forwards.flatMap fun forward => (forward.test.getD []).map (·.2)

theorem Endpoint.mem_operands {endpoint : Endpoint} {forward : Forward} {test : Test}
    {e : String × Json} (there : forward ∈ endpoint.forwards) (tested : test ∈ forward.test)
    (inside : e ∈ test) : e.2 ∈ endpoint.operands := by
  refine List.mem_flatMap.mpr ⟨forward, there, List.mem_map.mpr ⟨e, ?_, rfl⟩⟩
  rw [Option.mem_def.mp tested]
  exact inside

include mirrors in
theorem Endpoint.read?_toJson {endpoint : Endpoint} (wellFormed : endpoint.WellFormed)
    (operands : ∀ v ∈ endpoint.operands, Reading.json? (of v) = some v) :
    Endpoint.read? (of endpoint.toJson) = some endpoint := by
  have url : Reading.memberD (memberTrees of endpoint.slots) 0 Reading.text? "" =
      some endpoint.url := mirrors.text endpoint.url
  have method : Reading.optionalMember (memberTrees of endpoint.slots) 1 Reading.text? =
      some endpoint.method := mirrors.optionalMember rfl (fun s _ => mirrors.text s) fun _ _ => rfl
  have description : Reading.optionalMember (memberTrees of endpoint.slots) 2 Reading.text? =
      some endpoint.description :=
    mirrors.optionalMember rfl (fun s _ => mirrors.text s) fun _ _ => rfl
  have params : Reading.memberD (memberTrees of endpoint.slots) 3 ParamGroups.read? [] =
      some endpoint.params :=
    ParamGroups.read?_toJson mirrors wellFormed.sources wellFormed.params
  have forwards : Reading.memberD (memberTrees of endpoint.slots) 4
      (Reading.listOf? Forward.read?) [] = some endpoint.forwards :=
    mirrors.listOf? fun forward there => Forward.read?_toJson mirrors
      (wellFormed.forwards forward there) fun test tested e inside =>
        operands e.2 (Endpoint.mem_operands there tested inside)
  have returns : Reading.memberD (memberTrees of endpoint.slots) 5
      (Reading.mapOf? Reading.text? Return.read?) [] = some endpoint.returns :=
    mirrors.mapOf? id Return.toJson wellFormed.statuses (fun e _ => mirrors.text e.1)
      fun e there => Return.read?_toJson mirrors (wellFormed.returns e there)
  rw [Endpoint.toJson_eq, Endpoint.read?, mirrors.members? (by rfl)]
  simp only [Option.bind_eq_bind, Option.bind_some, url, method, description, params, forwards,
    returns, Option.pure_def]

/-! ### Documents -/

def Document.slots (document : Document) : List (String × Option Json) :=
  [("version", some (.string document.version)), ("baseUrl", some (.string document.baseUrl)),
    ("description", document.description.map .string),
    ("types", some (.array (document.types.map DataType.toJson))),
    ("apis", some (.array (document.endpoints.map Endpoint.toJson)))]

theorem Document.toJson_eq (document : Document) :
    document.toJson = .object (present document.slots) := by
  simp [toJson, slots, present, Json.optionalEntry]

/-- What the tests of a document compare with. -/
def Document.operands (document : Document) : List Json :=
  document.endpoints.flatMap Endpoint.operands

include mirrors in
theorem Document.read?_toJson {document : Document} (wellFormed : document.WellFormed)
    (operands : ∀ v ∈ document.operands, Reading.json? (of v) = some v) :
    Document.read? (of document.toJson) = some document := by
  have version : Reading.memberD (memberTrees of document.slots) 0 Reading.text? "" =
      some document.version := mirrors.text document.version
  have baseUrl : Reading.memberD (memberTrees of document.slots) 1 Reading.text? "" =
      some document.baseUrl := mirrors.text document.baseUrl
  have description : Reading.optionalMember (memberTrees of document.slots) 2 Reading.text? =
      some document.description :=
    mirrors.optionalMember rfl (fun s _ => mirrors.text s) fun _ _ => rfl
  have types : Reading.memberD (memberTrees of document.slots) 3
      (Reading.listOf? DataType.read?) [] = some document.types :=
    mirrors.listOf? fun type there => DataType.read?_toJson mirrors (wellFormed.types type there)
  have endpoints : Reading.memberD (memberTrees of document.slots) 4
      (Reading.listOf? Endpoint.read?) [] = some document.endpoints :=
    mirrors.listOf? fun endpoint there => Endpoint.read?_toJson mirrors
      (wellFormed.endpoints endpoint there) fun v inside =>
        operands v (List.mem_flatMap.mpr ⟨endpoint, there, inside⟩)
  rw [Document.toJson_eq, Document.read?, mirrors.members? (by rfl)]
  simp only [Option.bind_eq_bind, Option.bind_some, version, baseUrl, description, types, endpoints,
    Option.pure_def]

end

/-! ### Numbers -/

namespace Json

theorem integral_of_some {v : Json} (integral : v.Integral) : ∀ w ∈ some v, w.Integral := by
  rintro w ⟨⟩
  exact integral

theorem integral_of_map {α : Type} {a : Option α} {write : α → Json}
    (each : ∀ a' ∈ a, (write a').Integral) : ∀ v ∈ a.map write, v.Integral := by
  intro v there
  obtain ⟨a', given, rfl⟩ := Option.map_eq_some_iff.mp there
  exact each a' given

theorem integral_of_texts (text : Option String) : ∀ v ∈ text.map Json.string, v.Integral :=
  integral_of_map fun s _ => integral_string s

end Json

open Json (integral_present integral_of_some integral_of_map integral_of_texts)

mutual
theorem TypeExpr.integral_toJson (t : TypeExpr) : t.toJson.Integral := by
  cases t with
  | named name => exact Json.integral_string name
  | list items =>
    rw [toJson, Json.integral_array]
    exact integral_toJsonItems items

theorem TypeExpr.integral_toJsonItems (ts : List TypeExpr) :
    ∀ v ∈ TypeExpr.toJsonItems ts, v.Integral := by
  cases ts with
  | nil => exact nofun
  | cons t ts =>
    rw [toJsonItems, List.forall_mem_cons]
    exact ⟨integral_toJson t, integral_toJsonItems ts⟩
end

/-- The members of a record, one after another. -/
theorem Member.integral_toJson {member : Member} (wellFormed : member.WellFormed) :
    member.toJson.Integral := by
  have natural : ∀ {n : Option Nat}, (∀ n' ∈ n, n' < 2 ^ 64) → ∀ v ∈ n.map Json.nat, v.Integral :=
    fun bounded => integral_of_map fun n' given => Json.integral_nat.mpr (bounded n' given)
  rw [Member.toJson_eq, integral_present]
  simp only [slots, List.forall_mem_cons]
  exact ⟨integral_of_some (TypeExpr.integral_toJson member.type),
    integral_of_some (Json.integral_bool member.required), integral_of_texts member.description,
    natural wellFormed.length, natural wellFormed.minLength, natural wellFormed.maxLength, nofun⟩

theorem Members.integral_toJson {members : Members} (wellFormed : members.WellFormed) :
    members.toJson.Integral :=
  Json.integral_object.mpr (List.forall_mem_map.mpr fun e there =>
    Member.integral_toJson (wellFormed.each e there))

theorem DataType.integral_toJson {type : DataType} (wellFormed : type.WellFormed) :
    type.toJson.Integral := by
  rw [DataType.toJson_eq, integral_present]
  simp only [slots, List.forall_mem_cons]
  exact ⟨integral_of_some (Json.integral_string _), integral_of_texts type.description,
    integral_of_some (Members.integral_toJson wellFormed), nofun⟩

theorem Forward.integral_fieldsToJson (fields : FieldTexts) : (fieldsToJson fields).Integral :=
  Json.integral_object.mpr (List.forall_mem_map.mpr fun e _ => Json.integral_string e.2)

theorem Forward.integral_toJson {forward : Forward}
    (tests : ∀ test ∈ forward.test, ∀ e ∈ test, e.2.Integral) : forward.toJson.Integral := by
  have grpc : ∀ v ∈ forward.grpc.map Forward.grpcToJson, v.Integral :=
    integral_of_map fun target _ => by
      simp [Forward.grpcToJson, integral_fieldsToJson]
  have redis : ∀ v ∈ forward.redis.map Forward.redisToJson, v.Integral :=
    integral_of_map fun target _ => by simp [Forward.redisToJson]
  have http : ∀ v ∈ forward.http.map Forward.httpToJson, v.Integral :=
    integral_of_map fun target _ => by
      rw [Forward.httpToJson_eq, integral_present]
      simp only [HttpTarget.slots, List.forall_mem_cons]
      exact ⟨integral_of_some (Json.integral_string _), integral_of_texts target.method,
        integral_of_some (integral_fieldsToJson target.fields), nofun⟩
  have deps : ∀ v ∈ (if forward.deps.isEmpty then none else some (Json.strings forward.deps)),
      v.Integral := by
    split
    · exact nofun
    · exact integral_of_some (by simp [Json.strings])
  rw [Forward.toJson_eq, integral_present]
  simp only [slots, List.forall_mem_cons]
  exact ⟨integral_of_some (Json.integral_string _), integral_of_some (Json.integral_string _), grpc,
    redis, http, deps, integral_of_map fun test given => Json.integral_object.mpr (tests test given),
    integral_of_some (Json.integral_string _), nofun⟩

theorem Return.integral_toJson {r : Return} (wellFormed : r.WellFormed) : r.toJson.Integral := by
  have data : ∀ v ∈ r.data.map ReturnData.toJson, v.Integral :=
    integral_of_map fun data given => by
      have kept := wellFormed data given
      cases data with
      | typeName name => exact Json.integral_string name
      | members ms => exact Members.integral_toJson kept
  rw [Return.toJson_eq, integral_present]
  simp only [slots, List.forall_mem_cons]
  exact ⟨integral_of_texts r.type, data, integral_of_texts r.description, nofun⟩

theorem Endpoint.integral_toJson {endpoint : Endpoint} (wellFormed : endpoint.WellFormed)
    (operands : ∀ v ∈ endpoint.operands, v.Integral) : endpoint.toJson.Integral := by
  have params : endpoint.params.toJson.Integral :=
    Json.integral_object.mpr (List.forall_mem_map.mpr fun e there =>
      Members.integral_toJson (wellFormed.params e there))
  have forwards : (Json.array (endpoint.forwards.map Forward.toJson)).Integral :=
    Json.integral_array.mpr (List.forall_mem_map.mpr fun forward there =>
      Forward.integral_toJson fun test tested e inside =>
        operands e.2 (Endpoint.mem_operands there tested inside))
  have returns : (Json.object (endpoint.returns.map fun e => (e.1, e.2.toJson))).Integral :=
    Json.integral_object.mpr (List.forall_mem_map.mpr fun e there =>
      Return.integral_toJson (wellFormed.returns e there))
  rw [Endpoint.toJson_eq, integral_present]
  simp only [slots, List.forall_mem_cons]
  exact ⟨integral_of_some (Json.integral_string _), integral_of_texts endpoint.method,
    integral_of_texts endpoint.description, integral_of_some params, integral_of_some forwards,
    integral_of_some returns, nofun⟩

theorem Document.integral_toJson {document : Document} (wellFormed : document.WellFormed)
    (operands : ∀ v ∈ document.operands, v.Integral) : document.toJson.Integral := by
  have types : (Json.array (document.types.map DataType.toJson)).Integral :=
    Json.integral_array.mpr (List.forall_mem_map.mpr fun type there =>
      DataType.integral_toJson (wellFormed.types type there))
  have endpoints : (Json.array (document.endpoints.map Endpoint.toJson)).Integral :=
    Json.integral_array.mpr (List.forall_mem_map.mpr fun endpoint there =>
      Endpoint.integral_toJson (wellFormed.endpoints endpoint there) fun v inside =>
        operands v (List.mem_flatMap.mpr ⟨endpoint, there, inside⟩))
  rw [Document.toJson_eq, integral_present]
  simp only [slots, List.forall_mem_cons]
  exact ⟨integral_of_some (Json.integral_string _), integral_of_some (Json.integral_string _),
    integral_of_texts document.description, integral_of_some types, integral_of_some endpoints,
    nofun⟩

/-! ### Texts -/

theorem Endpoint.operands_wellFormed {endpoint : Endpoint} (wellFormed : endpoint.WellFormed) :
    ∀ v ∈ endpoint.operands, v.Sorted ∧ v.Measured := by
  intro v inside
  obtain ⟨forward, there, inside⟩ := List.mem_flatMap.mp inside
  obtain ⟨e, member, rfl⟩ := List.mem_map.mp inside
  cases tested : forward.test with
  | none =>
    rw [tested] at member
    cases member
  | some test =>
    rw [tested] at member
    have kept := (wellFormed.forwards forward there).test test tested
    exact ⟨kept.sorted e member, kept.measured e member⟩

theorem Document.operands_wellFormed {document : Document} (wellFormed : document.WellFormed) :
    ∀ v ∈ document.operands, v.Sorted ∧ v.Measured := by
  intro v inside
  obtain ⟨endpoint, there, inside⟩ := List.mem_flatMap.mp inside
  exact Endpoint.operands_wellFormed (wellFormed.endpoints endpoint there) v inside

/-- What a reader gives for the text of a value is what it gives for the tree of the value. -/
theorem Reading.parseAs?_text {α : Type} (read : Reading.Reader α) {v : Json}
    (integral : v.Integral) (shallow : v.depth ≤ Json.Node.depthLimit) :
    Reading.parseAs? read v.text .json = read (Json.Node.ofJson v) := by
  rw [Reading.parseAs?, Json.text, String.toList_ofList, Json.Node.parse?_chars integral shallow]
  rfl

/-- The text of a record opens with a brace. -/
theorem Json.text_object {k : String} {v : Json} {es : List (String × Json)} :
    ∃ cs, (Json.object ((k, v) :: es)).text.toList = '{' :: cs := by
  rw [Json.text, String.toList_ofList, Json.chars]
  exact ⟨_, rfl⟩

theorem Text.not_blank_of_brace {text : String} {cs : List Char} (opens : text.toList = '{' :: cs) :
    Text.isBlankText text = false := by
  have visible : Text.isBlank '{' = false := by decide
  rw [Text.isBlankText, opens, List.all_cons, visible, Bool.false_and]

/-- A document that was read, written as JSON, is read back: the same document, with everything in
the same order. -/
theorem Document.parse_text {wanted : Reading.Wanted} {text : String} {document : Document}
    {format : Reading.Format} (parsed : Document.parse wanted text = .ok (document, format))
    (floatless : ∀ v ∈ document.operands, v.Floatless)
    (shallow : document.toJson.depth ≤ Json.Node.depthLimit) :
    Document.parse (.only .json) document.toJson.text = .ok (document, .json) := by
  have wellFormed := Document.parse_wellFormed parsed
  have operands := Document.operands_wellFormed wellFormed
  have integral : document.toJson.Integral := Document.integral_toJson wellFormed fun v inside =>
    (operands v inside).2.integral (floatless v inside)
  have read : Document.read? (Json.Node.ofJson document.toJson) = some document :=
    Document.read?_toJson mirrors_ofJson wellFormed fun v inside =>
      Json.Node.value?_ofJson v (operands v inside).1
  have visible : Text.isBlankText document.toJson.text = false := by
    obtain ⟨cs, opens⟩ := Json.text_object
    rw [Document.toJson_eq, slots, Json.present_cons_some]
    exact Text.not_blank_of_brace opens
  rw [Document.parse, Reading.parseDocument, visible, if_neg Bool.false_ne_true, Reading.parse,
    Reading.parseAs?_text Document.read? integral shallow, read]

/-- A document as it may be written: with another name of the queries and of the policy on failure,
less what has its default. -/
def Document.usersSource : Json :=
  .object [("version", .string "1"), ("apis", .array [.object [
    ("url", .string "/users"),
    ("params", .object [("query", .object [("id", .object [
      ("type", .array [.string "integer"]), ("maxLength", .int 3)])])]),
    ("forwards", .array [.object [("name", .string "find"),
      ("test", .object [("state", .object [("in", .array [.int 1, .int (-2)])])]),
      ("onFail", .string "reject")]]),
    ("returns", .object [("200", .object [("data", .object [
      ("name", .object [("type", .string "string")])])])])]])]

/-- The document that is read from this. -/
def Document.users : Document where
  version := "1"
  endpoints := [{
    url := "/users"
    params := [(.queries, [("id", { type := .list [.named "integer"], maxLength := some 3 })])]
    forwards := [{
      name := "find"
      test := some [("state", .object [("in", .array [.int 1, .int (-2)])])]
      onFail := .reject }]
    returns := [("200", { data := some (.members [("name", { type := .named "string" })]) })] }]

theorem Document.parse_text_users :
    Document.parse .either usersSource.text = .ok (users, .json) ∧
      (∀ v ∈ users.operands, v.Floatless) ∧ users.toJson.depth ≤ Json.Node.depthLimit ∧
      Document.parse (.only .json) users.toJson.text = .ok (users, .json) := by
  have integral : usersSource.Integral := by
    simp [usersSource]
    decide
  have read : Document.read? (Json.Node.ofJson usersSource) = some users := rfl
  have parsed : Document.parse .either usersSource.text = .ok (users, .json) := by
    obtain ⟨cs, opens⟩ : ∃ cs, usersSource.text.toList = '{' :: cs := Json.text_object
    have likely : Reading.likelyFormat usersSource.text = .json := by
      rw [Reading.likelyFormat, opens]
      rfl
    rw [Document.parse, Reading.parseDocument, Text.not_blank_of_brace opens,
      if_neg Bool.false_ne_true, Reading.parse, likely,
      Reading.parseAs?_text Document.read? integral (by decide), read]
  have floatless : ∀ v ∈ users.operands, v.Floatless := by
    intro v there
    cases List.mem_singleton.mp there
    intro x inside
    simp [Json.parts, Json.partsOfEntries, Json.partsOfItems, Json.int] at inside
  have shallow : users.toJson.depth ≤ Json.Node.depthLimit := by decide
  exact ⟨parsed, floatless, shallow, Document.parse_text parsed floatless shallow⟩

end ApiGateway
