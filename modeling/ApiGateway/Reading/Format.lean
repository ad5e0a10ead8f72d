import ApiGateway.Reading.Json
import ApiGateway.Reading.Yaml
import ApiGateway.Text.Blank

/-
The formats of a document.

* `Format` - JSON and YAML; `Wanted` - what a caller asks for, which may be either of them.
* `ParseError` - why a text is no document.
* `parse` - a typed value from a text. Either format is tried first by the look of the text, and the
  error of the first is the one reported.
-/

namespace ApiGateway.Reading

inductive Format where
  | json
  | yaml
deriving DecidableEq, Repr

/-- The format a caller asks for. -/
inductive Wanted where
  | only (format : Format)
  | either
deriving DecidableEq

inductive ParseError where
  /-- The text is no such value in this format. -/
  | malformed (format : Format)
  /-- Nothing but blanks. -/
  | empty
deriving DecidableEq

namespace ParseError

/-- The error text. The reasons of a format are not part of it. -/
def message : ParseError → String
  | .malformed .json => "failed to parse as JSON: ..."
  | .malformed .yaml => "failed to parse as YAML: ..."
  | .empty => "document is empty"

end ParseError

/-- A reader for the trees of every format. -/
abbrev Reader (α : Type) :=
  ∀ {ν : Type} {m : Type → Type} [Attempt m] [Readable ν m], ν → m α

variable {α : Type}

/-- The value of a text in one format. -/
def parseAs? (read : Reader α) (text : String) : Format → Option α
  | .json => do read (← Json.Node.parse? text.toList)
  | .yaml => do
    let v ← Yaml.Node.parse? text.toList
    (read v).run' v.allowance

/-- The format that a text looks like: a JSON document opens with a brace or bracket. -/
def likelyFormat (text : String) : Format :=
  match (Text.trimStart text.toList).head? with
  | some '{' => .json
  | some '[' => .json
  | _ => .yaml

/-- The other of the two formats. -/
def Format.other : Format → Format
  | .json => .yaml
  | .yaml => .json

/-- The value of a text, and the format in which it was found. -/
def parse (read : Reader α) (wanted : Wanted) (text : String) : Except ParseError (α × Format) :=
  match wanted with
  | .only f =>
    match parseAs? read text f with
    | some v => .ok (v, f)
    | none => .error (.malformed f)
  | .either =>
    let f := likelyFormat text
    match parseAs? read text f with
    | some v => .ok (v, f)
    | none =>
      match parseAs? read text f.other with
      | some v => .ok (v, f.other)
      | none => .error (.malformed f)

/-- A value in either format. -/
def parseEither (read : Reader α) (text : String) : Except ParseError α :=
  (parse read .either text).map (·.1)

/-- A document, which must not be blank. -/
def parseDocument (read : Reader α) (wanted : Wanted) (text : String) :
    Except ParseError (α × Format) :=
  if Text.isBlankText text then .error .empty else parse read wanted text

end ApiGateway.Reading
