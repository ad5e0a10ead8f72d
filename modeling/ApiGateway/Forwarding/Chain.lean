import ApiGateway.Forwarding.Error
import ApiGateway.Graph.Basic
import ApiGateway.Schema.Method
import ApiGateway.Url.Basic

/-
Compiled forwards: everything that can be read in advance is.

* `ForwardNode.compile` - a forward with its target, expressions and test read.
* `Chain.compile` - the forwards of an endpoint, whose dependencies exist and run in no circle.
* `Chain.find?` - the forward of a name; of several the last.
-/

namespace ApiGateway

/-- What a compiled forward calls. -/
inductive Destination where
  | grpc (method : String)
  | redis (valueType : String)
  | http (url : Url) (method : Method)

/-- The name of a destination's kind. -/
def Destination.kind : Destination → String
  | .grpc _ => "grpc"
  | .redis _ => "redis"
  | .http _ _ => "http"

structure ForwardNode where
  name : String
  service : String
  destination : Destination
  deps : List String
  mapping : Mapping
  condition : Option Condition
  onFail : OnFail

namespace ForwardNode

/-- The destination of a target; a call over HTTP posts by default. -/
def destination? (node : String) : Target → Except ForwardError Destination
  | .grpc t => .ok (.grpc t.method)
  | .redis t => .ok (.redis t.valueType)
  | .http t => do
    let url ← (Url.parse t.url).mapError fun e =>
      ⟨node, .http ("invalid url '" ++ t.url ++ "': " ++ e.message)⟩
    let method ← match t.method with
      | none => pure Method.post
      | some m => (Method.parse m).mapError fun e => ⟨node, .http e.message⟩
    return .http url method

/-- The fields sent with their expressions read. -/
def readMapping (node : String) : FieldTexts → Except ForwardError Mapping
  | [] => .ok []
  | (field, text) :: fields => do
    let e ← (FieldExpr.parse text).mapError fun e => ⟨node, .invalidExpression field e⟩
    return (field, e) :: (← readMapping node fields)

def compile (f : Forward) : Except ForwardError ForwardNode := do
  let destination ← match f.target? with
    | some t => destination? f.name t
    | none => .error ⟨f.name, .missingTarget⟩
  let mapping ← readMapping f.name f.mapping
  let condition ← match f.test with
    | none => pure none
    | some t => ((Condition.ofTest t).map some).mapError fun e => ⟨f.name, .invalidTest e⟩
  return { name := f.name, service := f.service, destination, deps := f.deps, mapping, condition
           onFail := f.onFail }

end ForwardNode

/-- The forwards of an endpoint, in the order of declaration. -/
structure Chain where
  nodes : List ForwardNode := []
deriving Inhabited

namespace Chain

/-- The forward of a name; of several the last. -/
def find? (c : Chain) (name : String) : Option ForwardNode := c.nodes.reverse.find? (·.name == name)

/-- A defect of a graph, laid to a forward. -/
def graphError : GraphError → ForwardError
  | .unknownDependency node dep => ⟨node, .unknownDependency dep⟩
  | .cyclicDependency nodes => ⟨", ".intercalate nodes, .cyclicDependency⟩

/-- The chain of the forwards of an endpoint. Its graph is looked at before its forwards. -/
def compile (fs : List Forward) : Except ForwardError Chain := do
  let _ ← (ForwardGraph.build fs).mapError graphError
  return ⟨← fs.mapM ForwardNode.compile⟩

end Chain

end ApiGateway
