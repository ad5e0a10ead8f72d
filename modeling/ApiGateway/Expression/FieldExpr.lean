import ApiGateway.Expression.Template
import ApiGateway.Text.Blank
import ApiGateway.Text.Split
import ApiGateway.Text.Quoted

/-
Field expressions: what value a field of an outgoing call takes.

An expression is one reference, whose value is taken as it is, or several parts between bars, of
which the last is a template for the references before it. A reference is a parameter, or a field of
another forward's reply.

* `FieldExpr.parse` - the expression of a text.
* `FieldExpr.combine` - the value of the field from the values of the references.
-/

namespace ApiGateway

/-- What an expression refers to. -/
inductive FieldRef where
  /-- A parameter of the request. -/
  | param (field : String)
  /-- A field of the reply to a forward. -/
  | reply (node field : String)
deriving DecidableEq, Repr

structure FieldExpr where
  refs : List FieldRef
  template : Option Template
deriving DecidableEq, Repr

inductive FieldExprError where
  | empty
  | emptyReference (index : Nat)
  | invalidReference (text : String)
  | template (cause : TemplateError)
  /-- The template has another number of placeholders than there are references. -/
  | arity (placeholders refs : Nat)
deriving DecidableEq

namespace FieldExprError

def message : FieldExprError → String
  | .empty => "source expression is empty"
  | .emptyReference i => "field reference #" ++ toString i ++ " is empty"
  | .invalidReference s =>
    "invalid field reference '" ++ s ++ "' (expected \x60field\x60 or \x60node.field\x60)"
  | .template (.unsupportedVerb c) => "unsupported format verb '%" ++ c.toString ++ "'"
  | .template .trailingPercent => "format string ends with a lone '%'"
  | .arity placeholders refs =>
    "format has " ++ toString placeholders ++ " placeholders but " ++ toString refs ++
      " field references"

end FieldExprError

namespace FieldRef

/-- The reference as it is written. -/
def display : FieldRef → String
  | .param field => field
  | .reply node field => node ++ "." ++ field

def toJson : FieldRef → Json
  | .param field => .object [("kind", .string "param"), ("field", .string field)]
  | .reply node field =>
    .object [("kind", .string "node"), ("node", .string node), ("field", .string field)]

/-- The reference of the part at an index: a name, or two names with a point between them. -/
def parse (index : Nat) (part : List Char) : Except FieldExprError FieldRef :=
  let part := Text.trim part
  if part.isEmpty then .error (.emptyReference index)
  else match Text.splitOnce? '.' part with
    | none => .ok (.param (String.ofList part))
    | some (node, field) =>
      if node.isEmpty || field.isEmpty || field.contains '.' then
        .error (.invalidReference (String.ofList part))
      else .ok (.reply (String.ofList node) (String.ofList field))

/-- The references of parts, the first at the given index. -/
def parseAll (index : Nat) : List (List Char) → Except FieldExprError (List FieldRef)
  | [] => .ok []
  | part :: parts => do return (← parse index part) :: (← parseAll (index + 1) parts)

end FieldRef

namespace FieldExpr

/-- The expression of a text. Faults of the template are found before faults of references. -/
def parse (text : String) : Except FieldExprError FieldExpr :=
  if Text.isBlankText text then .error .empty
  else
    let parts := Text.splitAt '|' text.toList
    match parts.dropLast, parts.getLast? with
    | first :: rest, some last => do
      let template ← (Template.parse last).mapError .template
      let refs ← FieldRef.parseAll 0 (first :: rest)
      if template.arity = refs.length then return ⟨refs, some template⟩
      else .error (.arity template.arity refs.length)
    | _, _ => do return ⟨← FieldRef.parseAll 0 parts, none⟩

/-- The value of the field: the template filled, or the last value as it is. -/
def combine (e : FieldExpr) (vs : List Json) : Json :=
  match e.template with
  | some t => .string (t.render vs)
  | none => vs.getLast?.getD .null

/-- The forwards referred to, with the field of each reference. -/
def nodeRefs (e : FieldExpr) : List (String × String) :=
  e.refs.filterMap fun
    | .reply node field => some (node, field)
    | .param _ => none

/-- The parameters referred to. -/
def paramRefs (e : FieldExpr) : List String :=
  e.refs.filterMap fun
    | .param field => some field
    | .reply _ _ => none

/-- The expression as it is listed, its template in quotes. -/
def display (e : FieldExpr) : String :=
  " | ".intercalate (e.refs.map FieldRef.display ++ (e.template.map (Text.quoted ·.raw)).toList)

def toJson (e : FieldExpr) : Json :=
  .object ([("refs", .array (e.refs.map FieldRef.toJson))] ++
    Json.optionalEntry "format" (e.template.map fun t => .object [("raw", .string t.raw)]))

end FieldExpr

/-- Fields with their expressions, in the order of declaration. -/
abbrev Mapping := List (String × FieldExpr)

/-- The fields as they are listed, a line each. -/
def Mapping.lines (m : Mapping) : List String := m.map fun (dest, e) => dest ++ " <- " ++ e.display

end ApiGateway
