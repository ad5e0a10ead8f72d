import ApiGateway.Value.Error
import ApiGateway.Json.Text
import ApiGateway.Double.Reading
import ApiGateway.Text.Blank

/-
Values from JSON. Parameters of paths, headers and queries arrive as texts, so that numbers and
truth values are also read from their text.
-/

namespace ApiGateway.Json

/-- The fault of a value that cannot be converted. A text or number is shown. -/
def conversionFault (expected : String) (v : Json) : ValueFault :=
  .conversionFailed expected <|
    match v with
    | .string s => "string '" ++ s ++ "'"
    | .number n => "number " ++ n.text
    | v => v.kind

/-- The natural number of a text of at least one digit. -/
def digits? (ds : List Char) : Option Nat :=
  if ds.isEmpty || !ds.all Char.isDigit then none else some (Double.digitsValue ds)

/-- The signed 64-bit integer that a text denotes: an optional sign and digits. -/
def integerText? (cs : List Char) : Option Int := do
  let i : Int ← match cs with
    | '-' :: ds => (digits? ds).map fun n => -(n : Int)
    | '+' :: ds => (digits? ds).map fun n => (n : Int)
    | ds => (digits? ds).map fun n => (n : Int)
  if Number.inSigned64 i then some i else none

/-- The signed 64-bit integer that a number is. -/
def integerNumber? : Number → Option Int
  | .int i => if Number.inSigned64 i then some i else none
  | .float x =>
    if x.isIntegral && Number.inSigned64 x.truncate then some x.truncate else none

def integerValue? : Json → Option Int
  | .number n => integerNumber? n
  | .string s => integerText? (Text.trim s.toList)
  | _ => none

def floatValue? : Json → Option Double
  | .number n => some n.toDouble
  | .string s => Double.parse? (Text.trim s.toList)
  | _ => none

def boolValue? : Json → Option Bool
  | .bool b => some b
  | .string s =>
    let word := Text.trimmed s
    if word == "true" || word == "1" then some true
    else if word == "false" || word == "0" then some false
    else none
  | _ => none

/-- Numbers and truth values have a text too. -/
def stringValue? : Json → Option String
  | .string s => some s
  | .number n => some n.text
  | .bool b => some (if b then "true" else "false")
  | _ => none

/-- A conversion or its fault. -/
def convert (v : Json) (expected : String) : Option α → Except ValueFault α
  | some x => .ok x
  | none => .error (conversionFault expected v)

def toInteger (v : Json) : Except ValueFault Int := v.convert "integer" v.integerValue?

def toFloat (v : Json) : Except ValueFault Double := v.convert "float" v.floatValue?

def toBool (v : Json) : Except ValueFault Bool := v.convert "boolean" v.boolValue?

def toStringValue (v : Json) : Except ValueFault String := v.convert "string" v.stringValue?

end ApiGateway.Json
