import ApiGateway.Value.Variable
import ApiGateway.Schema.Endpoint

/-
The parameters of a request.

* `ParamReader` - gives the raw value of a parameter of a source.
* `RawParams` - the raw values of each source, `RawParams.get?` - their reader; header names are in
  any case.
* `ParamBinder.bind` - the typed parameters of an endpoint. The groups are bound in the order of
  their declaration, and a name in two groups has the value of the later one.
-/

namespace ApiGateway

/-- The raw value of a parameter of a source, if a request has it. -/
abbrev ParamReader := ParamSource → String → Option Json

/-- The raw values of each source, in ascending order of their names. -/
structure RawParams where
  groups : List (ParamSource × List (String × Json)) := []
deriving Inhabited

inductive RawParamsError where
  | notAnObject
  | unknownGroup (name : String)
  | groupNotAnObject (name : String)
deriving DecidableEq

namespace RawParamsError

def message : RawParamsError → String
  | .notAnObject => "parameters must be a JSON object keyed by group"
  | .unknownGroup name => "unknown parameter group '" ++ name ++ "'"
  | .groupNotAnObject name => "parameter group '" ++ name ++ "' must be an object"

end RawParamsError

namespace RawParams

/-- The values of a source. -/
def group? (ps : RawParams) (source : ParamSource) : Option (List (String × Json)) :=
  ps.groups.lookup source

/-- The values with those of a source replaced. -/
def putGroup (ps : RawParams) (source : ParamSource) (values : List (String × Json)) : RawParams :=
  ⟨Reading.putEntry ps.groups source values⟩

/-- The values with one of them set. -/
def set (ps : RawParams) (source : ParamSource) (name : String) (v : Json) : RawParams :=
  ps.putGroup source (Json.insertEntry name v ((ps.group? source).getD []))

/-- One group of an object. -/
def readGroup (ps : RawParams) (key : String) (v : Json) : Except RawParamsError RawParams :=
  match ParamSource.ofName? key with
  | none => .error (.unknownGroup key)
  | some source =>
    match v with
    | .object values => .ok (ps.putGroup source values)
    | _ => .error (.groupNotAnObject key)

/-- The values of an object of groups. Of two names of one source the later group counts. -/
def ofJson (v : Json) : Except RawParamsError RawParams :=
  match v with
  | .object groups => groups.foldlM (fun ps (key, v) => ps.readGroup key v) {}
  | _ => .error .notAnObject

/-- The raw value of a parameter. Of several headers whose names differ in case the first counts. -/
def get? (ps : RawParams) : ParamReader := fun source name => do
  let values ← ps.group? source
  match source with
  | .header => (values.find? fun (k, _) => Text.eqIgnoringCase k name).map (·.2)
  | _ => values.lookup name

instance : Coe RawParams ParamReader := ⟨get?⟩

end RawParams

/-- The parameters that an endpoint declares, with the types they may have. -/
structure ParamBinder where
  types : TypeRegistry
  groups : ParamGroups
deriving Inhabited

namespace ParamBinder

/-- No parameter is declared. -/
def isEmpty (b : ParamBinder) : Bool := b.groups.all fun (_, ms) => ms.isEmpty

/-- The declared members of all groups as one type. -/
def root (b : ParamBinder) : DataType :=
  { name := "params"
    members := (b.groups.flatMap (·.2)).foldl (fun ms (name, m) => Reading.putEntry ms name m) [] }

/-- The declaration of the parameters as a whole. -/
def rootMember : Member := { type := .named "params", required := true }

/-- Binds one declared parameter to what was bound before. An absent optional one is not bound, even
if an earlier group bound it. -/
def bindOne (b : ParamBinder) (reader : ParamReader) (bound : List (String × Variable))
    (source : ParamSource) (name : String) (m : Member) :
    Except ValueError (List (String × Variable)) :=
  match (reader source name).filter fun v => !v.isNull with
  | none =>
    if m.required then .error (Variable.faulty (.requiredFieldMissing name))
    else .ok (bound.filter (·.1 ≠ name))
  | some v => do
    let x ← (Variable.fillNew b.types m (Variable.fill b.types v)).mapError (·.within name)
    x.validate.mapError (·.within name)
    return Reading.putEntry bound name x

/-- The declared parameters with their sources, in the order of declaration. -/
def declared (b : ParamBinder) : List (ParamSource × String × Member) :=
  b.groups.flatMap fun (source, ms) => ms.map fun (name, m) => (source, name, m)

/-- The typed parameters of a request; nil when none is declared. -/
def bind (b : ParamBinder) (reader : ParamReader) : Except ValueError Variable :=
  if b.isEmpty then .ok .nil
  else do
    let bound ← b.declared.foldlM
      (fun bound (source, name, m) => b.bindOne reader bound source name m) []
    return .object rootMember b.root bound

end ParamBinder

end ApiGateway
