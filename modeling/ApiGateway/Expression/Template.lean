import ApiGateway.Json.Text

/-
Templates: texts with placeholders that values are put into.

A placeholder is a percent sign and a verb; a doubled percent sign stands for itself.

* `Template.parse` - the template of a text.
* `Template.render` - the text with values in its placeholders, in order.
-/

namespace ApiGateway

/-- How a value is written into a template. -/
inductive Verb where
  | string
  | value
  | decimal
  | fixed
deriving DecidableEq, Repr

namespace Verb

def letter : Verb → Char
  | .string => 's'
  | .value => 'v'
  | .decimal => 'd'
  | .fixed => 'f'

def ofLetter? (c : Char) : Option Verb :=
  [Verb.string, .value, .decimal, .fixed].find? (·.letter == c)

/-- The nearest signed 64-bit integer. -/
def clampSigned64 (i : Int) : Int := max (-0x8000000000000000) (min i 0x7FFFFFFFFFFFFFFF)

/-- The integer part of a number, cut to 64 bits. -/
def integerPart (n : Json.Number) : Int :=
  match n.signed64? with
  | some i => i
  | none => clampSigned64 n.toDouble.truncate

/-- The text of a value: a text is itself, numbers go by the verb, all else is JSON. -/
def write (verb : Verb) (v : Json) : List Char :=
  match verb, v with
  | _, .string s => s.toList
  | .decimal, .number n => Json.intChars (integerPart n)
  | .fixed, .number n => n.toDouble.fixedText 6
  | _, v => v.chars

end Verb

inductive Segment where
  | literal (text : String)
  | placeholder (verb : Verb)
deriving DecidableEq, Repr

/-- A text cut at its placeholders. -/
structure Template where
  raw : String
  segments : List Segment
deriving DecidableEq, Repr

inductive TemplateError where
  | unsupportedVerb (verb : Char)
  | trailingPercent
deriving DecidableEq

namespace Template

/-- The literal before a placeholder; an empty one is left out. -/
def literal (cs : List Char) : List Segment :=
  if cs.isEmpty then [] else [.literal (String.ofList cs)]

/-- The segments of a text, with the characters of the current literal. -/
def scan (pending : List Char) : List Char → Except TemplateError (List Segment)
  | [] => .ok (literal pending)
  | '%' :: c :: cs =>
    if c = '%' then scan (pending ++ ['%']) cs
    else match Verb.ofLetter? c with
      | some v => do return literal pending ++ .placeholder v :: (← scan [] cs)
      | none => .error (.unsupportedVerb c)
  | c :: cs => if c = '%' then .error .trailingPercent else scan (pending ++ [c]) cs

def parse (raw : List Char) : Except TemplateError Template := do
  return ⟨String.ofList raw, ← scan [] raw⟩

/-- The number of placeholders. -/
def arity (t : Template) : Nat :=
  t.segments.countP fun
    | .placeholder _ => true
    | .literal _ => false

/-- Fills placeholders in order; one without a value is left empty. -/
def fill : List Segment → List Json → List Char
  | [], _ => []
  | .literal s :: rest, vs => s.toList ++ fill rest vs
  | .placeholder _ :: rest, [] => fill rest []
  | .placeholder verb :: rest, v :: vs => verb.write v ++ fill rest vs

/-- The text with values in its placeholders. -/
def render (t : Template) (vs : List Json) : String := String.ofList (fill t.segments vs)

end Template

end ApiGateway
