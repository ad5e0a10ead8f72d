import ApiGateway.Yaml.Token
import ApiGateway.Yaml.Tag
import ApiGateway.Double.Reading

/-
What a scalar stands for.

* `Meaning` - null, a truth value, an integer, a binary64 number or a text.
* `Meaning.ofPlain?` - the meaning of a plain scalar, told from its text.
* `Meaning.ofScalar?` - the meaning of any scalar: its tag comes first, then its style.
-/

namespace ApiGateway.Yaml

/-- What a scalar stands for. -/
inductive Meaning where
  | null
  | bool (value : Bool)
  | integer (value : Int)
  /-- A binary64 number; `none` for the infinities and what is no number. -/
  | float (value : Option Double)
  | text (value : String)
deriving DecidableEq

namespace Meaning

/-- The words for null. -/
def isNullWord (s : String) : Bool := s == "null" || s == "Null" || s == "NULL" || s == "~"

/-- The words for truth values. -/
def truth? (s : String) : Option Bool :=
  if s == "true" || s == "True" || s == "TRUE" then some true
  else if s == "false" || s == "False" || s == "FALSE" then some false
  else none

/-- The value of a digit in a base of at most sixteen. -/
def digit? (base : Nat) (c : Char) : Option Nat :=
  let d := if c.isDigit then c.toNat - 48
    else if 'a' ≤ c && c ≤ 'f' then c.toNat - 87
    else if 'A' ≤ c && c ≤ 'F' then c.toNat - 55
    else base
  if d < base then some d else none

/-- A number of at least one digit, below a bound. -/
def digits? (base bound : Nat) (cs : List Char) : Option Nat :=
  if cs.isEmpty then none else do
    let n ← cs.foldlM (fun n c => do return n * base + (← digit? base c)) 0
    if n < bound then some n else none

/-- A sign, a zero and at least one more digit, nothing else: a text, not a number. -/
def isPadded (cs : List Char) : Bool :=
  let cs := match cs with
    | '-' :: cs => cs
    | '+' :: cs => cs
    | cs => cs
  match cs with
  | '0' :: c :: cs => (c :: cs).all Char.isDigit
  | _ => false

/-- A number with its base mark, or in base ten. -/
def magnitude? (bound : Nat) (padded : Bool) (cs : List Char) : Option Nat :=
  let marked := match cs with
    | '0' :: 'x' :: ds => digits? 16 bound ds
    | '0' :: 'o' :: ds => digits? 8 bound ds
    | '0' :: 'b' :: ds => digits? 2 bound ds
    | _ => none
  match marked with
  | some n => some n
  | none => if padded then none else digits? 10 bound cs

/-- A natural number below a bound, with a plus sign or without. -/
def natural? (bound : Nat) (cs : List Char) : Option Nat :=
  match cs with
  | '+' :: ds => magnitude? bound (isPadded cs) ds
  | _ => magnitude? bound (isPadded cs) cs

/-- A number with a minus sign, of a magnitude up to a bound. -/
def minus? (bound : Nat) : List Char → Option Nat
  | '-' :: ds => magnitude? (bound + 1) (isPadded ('-' :: ds)) ds
  | _ => none

/-- An integer that a scalar denotes. The outer option is for texts that are no integer; an
integer that takes more than 64 bits but not more than 128 has no value. -/
def integer? (cs : List Char) : Option (Option Int) :=
  match natural? (Nat.pow 2 64) cs, minus? (Nat.pow 2 63) cs with
  | some n, _ => some (some n)
  | none, some n => some (some (-(n : Int)))
  | none, none =>
    if (natural? (Nat.pow 2 128) cs).isSome || (minus? (Nat.pow 2 127) cs).isSome then some none
    else none

/-- A binary64 number that a scalar denotes; the inner option is empty for the infinities and what
is no number. -/
def float? (cs : List Char) : Option (Option Double) :=
  let s := String.ofList cs
  let unsigned := match cs with
    | '+' :: ds => String.ofList ds
    | _ => s
  let special := [".inf", ".Inf", ".INF"].contains unsigned ||
    ["-.inf", "-.Inf", "-.INF", ".nan", ".NaN", ".NAN"].contains s
  if special then some none
  else match cs with
    | '+' :: '+' :: _ => none
    | '+' :: '-' :: _ => none
    | cs => (Double.parse? cs).map some

/-- The meaning of a plain scalar. -/
def ofPlain? (s : String) : Option Meaning :=
  if s.isEmpty || isNullWord s then some .null
  else match truth? s with
    | some b => some (.bool b)
    | none =>
      match integer? s.toList with
      | some (some i) => some (.integer i)
      | some none => none
      | none =>
        if isPadded s.toList then some (.text s)
        else match float? s.toList with
          | some x => some (.float x)
          | none => some (.text s)

/-- The meaning of a scalar told from its style. -/
def ofStyle? (s : String) (style : Style) : Option Meaning :=
  if style == .plain then ofPlain? s else some (.text s)

/-- The meaning of a scalar with its tag; `none` when it has none, as under a name of the text's
own. -/
def ofScalar? (tag : Option Tag) (s : String) (style : Style) : Option Meaning :=
  match tag with
  | none => ofStyle? s style
  | some t =>
    if t == Tag.standard "bool" then (truth? s).map .bool
    else if t == Tag.standard "int" then do return .integer (← ← integer? s.toList)
    else if t == Tag.standard "float" then (float? s.toList).map .float
    else if t == Tag.standard "null" then (if isNullWord s then some .null else none)
    else if t.own?.isSome then none
    else if t.isOwn then ofStyle? s style
    else some (.text s)

/-- A zero with a minus sign. -/
def isMinusZero (s : String) (meaning : Meaning) : Bool :=
  meaning == .integer 0 && s.startsWith "-"

end Meaning

end ApiGateway.Yaml
