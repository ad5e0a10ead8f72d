import ApiGateway.Json.Basic
import ApiGateway.Double.Reading
import ApiGateway.Text.Utf8

/-
What a JSON text says before it is read at a type.

A text is first read into a `Node`, which keeps order and repeated keys. A number out of range, a
text with a lone surrogate and a nesting beyond the limit are no errors of the text: they are
errors only for a reader that wants the value, and members that no reader asks for may hold them.

* `Json.Node.parse?`, `Json.Node.parseBytes?` - the node of a text or of its UTF-8 bytes, which is
  one value between blanks.
* `Json.Node.value?` - the value of a node.
* `Json.parse?`, `Json.parseBytes?` - the value of a text or of its UTF-8 bytes.
-/

namespace ApiGateway.Json

/-- A JSON text as a tree. -/
inductive Node where
  | null
  | bool (value : Bool)
  /-- A number; `none` when it has no value in range. -/
  | number (value : Option Number)
  /-- A text; `none` when it holds a lone surrogate or broken bytes. -/
  | string (value : Option String)
  | array (items : List Node)
  | object (entries : List (Option String × Node))
  /-- A list or object nested deeper than a reader follows. -/
  | tooDeep
deriving Inhabited

namespace Node

/-- Blanks between the tokens of a JSON text. -/
def isSpace (c : Char) : Bool := c == ' ' || c == '\n' || c == '\t' || c == '\r'

def skipSpace (cs : List Char) : List Char := cs.dropWhile isSpace

/-! ### Numbers -/

/-- Reads digits into a significand of at most 64 bits. Returns the significand and the number of
digits that did not fit. -/
def accumulate (significand : Nat) : List Char → Nat × Nat
  | [] => (significand, 0)
  | c :: cs =>
    let next := significand * 10 + Double.digitValue c
    if next < Nat.pow 2 64 then accumulate next cs else (significand, cs.length + 1)

/-- The value of a number with an exponent; an exponent beyond 31 bits is zero or out of range. -/
def scaledNumber (negative : Bool) (significand : Nat) (shift exponent : Int) : Option Number :=
  if Nat.pow 2 31 ≤ exponent.natAbs then
    if significand != 0 && 0 < exponent then none else some (.float (Double.zero negative))
  else (Double.ofScaled? negative significand (shift + exponent)).map .float

/-- The value of a number from its digits. Without point and exponent it is an integer if it fits
64 bits, a negative one in the signed range; minus zero is the binary64 number. -/
def numberValue (negative : Bool) (whole : List Char) (fraction : Option (List Char))
    (exponent : Option Int) : Option Number :=
  let (significand, excess) := accumulate 0 whole
  match fraction, exponent with
  | none, none =>
    if excess != 0 then scaledNumber negative significand excess 0
    else if !negative then some (.int significand)
    else if 0 < significand && significand ≤ Nat.pow 2 63 then some (.int (-(significand : Int)))
    else some (.float { Double.ofInt significand with negative := true })
  | fraction, exponent =>
    let fraction := fraction.getD []
    let (significand, left) := accumulate significand fraction
    scaledNumber negative significand (excess - (fraction.length - left : Nat)) (exponent.getD 0)

/-- The exponent part of a number, if one follows. -/
def scanExponent : List Char → Option (Option Int × List Char)
  | [] => some (none, [])
  | c :: cs =>
    if c == 'e' || c == 'E' then
      let (negative, ds) := match cs with
        | '-' :: ds => (true, ds)
        | '+' :: ds => (false, ds)
        | ds => (false, ds)
      let digits := ds.takeWhile Char.isDigit
      if digits.isEmpty then none
      else
        let e : Int := Double.digitsValue digits
        some (some (if negative then -e else e), ds.dropWhile Char.isDigit)
    else some (none, c :: cs)

/-- The part of a number after the point, if one follows. -/
def scanFraction : List Char → Option (Option (List Char) × List Char)
  | '.' :: cs =>
    let digits := cs.takeWhile Char.isDigit
    if digits.isEmpty then none else some (some digits, cs.dropWhile Char.isDigit)
  | cs => some (none, cs)

/-- A number: no leading zero, a digit on both sides of a point, a digit in an exponent. -/
def scanNumber (cs : List Char) : Option (Node × List Char) := do
  let (negative, cs) := match cs with
    | '-' :: cs => (true, cs)
    | cs => (false, cs)
  let digits := cs.takeWhile Char.isDigit
  if digits.isEmpty || (digits.head? == some '0' && 1 < digits.length) then none else
    let (fraction, rest) ← scanFraction (cs.dropWhile Char.isDigit)
    let (exponent, rest) ← scanExponent rest
    return (.number (numberValue negative digits fraction exponent), rest)

/-! ### Texts -/

/-- The value of a hexadecimal digit. -/
def hexValue? (c : Char) : Option Nat :=
  if c.isDigit then some (c.toNat - 48)
  else if 'a' ≤ c && c ≤ 'f' then some (c.toNat - 87)
  else if 'A' ≤ c && c ≤ 'F' then some (c.toNat - 55)
  else none

/-- The code unit of four hexadecimal digits. -/
def codeUnit? (a b c d : Char) : Option Nat := do
  return ((((← hexValue? a) * 16 + (← hexValue? b)) * 16 + (← hexValue? c)) * 16 + (← hexValue? d))

/-- The character of a short escape. -/
def shortEscape? (c : Char) : Option Nat :=
  match c with
  | '"' => some 34
  | '\\' => some 92
  | '/' => some 47
  | 'b' => some 8
  | 'f' => some 12
  | 'n' => some 10
  | 'r' => some 13
  | 't' => some 9
  | _ => none

/-- The code units of a text up to its closing quote, and what follows the quote. -/
def scanUnits : List Char → Option (List Nat × List Char)
  | [] => none
  | '"' :: cs => some ([], cs)
  | '\\' :: 'u' :: a :: b :: c :: d :: cs => do
    let u ← codeUnit? a b c d
    let (us, rest) ← scanUnits cs
    return (u :: us, rest)
  | '\\' :: c :: cs => do
    let u ← shortEscape? c
    let (us, rest) ← scanUnits cs
    return (u :: us, rest)
  | c :: cs => do
    if c.toNat < 32 || c == '\\' then none else
      let (us, rest) ← scanUnits cs
      return (c.toNat :: us, rest)

/-- Joins escaped surrogates in pairs; `none` when one stands alone. -/
def joinUnits : List Nat → Option (List Char)
  | [] => some []
  | u :: us =>
    if 0xD800 ≤ u && u < 0xDC00 then
      match us with
      | v :: us =>
        if 0xDC00 ≤ v && v < 0xE000 then
          (joinUnits us).map (Char.ofNat (0x10000 + (u - 0xD800) * 1024 + (v - 0xDC00)) :: ·)
        else none
      | [] => none
    else if 0xDC00 ≤ u && u < 0xE000 then none
    else (joinUnits us).map (Char.ofNat u :: ·)

/-- The text after an opening quote. -/
def scanString (cs : List Char) : Option (Option String × List Char) := do
  let (us, rest) ← scanUnits cs
  return ((joinUnits us).map String.ofList, rest)

/-! ### Values -/

/-- The rest of a text after a keyword. -/
def afterWord (word : List Char) (cs : List Char) : Option (List Char) :=
  if word.isPrefixOf cs then some (cs.drop word.length) else none

mutual
/-- One value. The fuel is at least the length of the text, and every step consumes a
character. -/
def scanValue : Nat → List Char → Option (Node × List Char)
  | 0, _ => none
  | fuel + 1, cs =>
    match skipSpace cs with
    | [] => none
    | c :: cs =>
      if c == '"' then (scanString cs).map fun (s, rest) => (.string s, rest)
      else if c == '[' then
        match skipSpace cs with
        | ']' :: rest => some (.array [], rest)
        | cs => do
          let (items, rest) ← scanItems fuel cs
          return (.array items, rest)
      else if c == '{' then
        match skipSpace cs with
        | '}' :: rest => some (.object [], rest)
        | cs => do
          let (entries, rest) ← scanEntries fuel cs
          return (.object entries, rest)
      else if c == 'n' then (afterWord ['u', 'l', 'l'] cs).map fun rest => (.null, rest)
      else if c == 't' then (afterWord ['r', 'u', 'e'] cs).map fun rest => (.bool true, rest)
      else if c == 'f' then (afterWord ['a', 'l', 's', 'e'] cs).map fun rest => (.bool false, rest)
      else scanNumber (c :: cs)

/-- The items of a list, up to and including its closing bracket. -/
def scanItems : Nat → List Char → Option (List Node × List Char)
  | 0, _ => none
  | fuel + 1, cs => do
    let (v, rest) ← scanValue fuel cs
    match skipSpace rest with
    | ',' :: rest =>
      let (vs, rest) ← scanItems fuel rest
      return (v :: vs, rest)
    | ']' :: rest => return ([v], rest)
    | _ => none

/-- The entries of an object, up to and including its closing brace. -/
def scanEntries : Nat → List Char → Option (List (Option String × Node) × List Char)
  | 0, _ => none
  | fuel + 1, cs => do
    match skipSpace cs with
    | '"' :: cs =>
      let (key, rest) ← scanString cs
      match skipSpace rest with
      | ':' :: rest =>
        let (v, rest) ← scanValue fuel rest
        match skipSpace rest with
        | ',' :: rest =>
          let (es, rest) ← scanEntries fuel rest
          return ((key, v) :: es, rest)
        | '}' :: rest => return ([(key, v)], rest)
        | _ => none
      | _ => none
    | _ => none
end

mutual
/-- Cuts lists and objects nested deeper than a level. -/
def cut : Nat → Node → Node
  | 0, .array _ => .tooDeep
  | 0, .object _ => .tooDeep
  | level + 1, .array items => .array (cutItems level items)
  | level + 1, .object entries => .object (cutEntries level entries)
  | _, node => node

def cutItems (level : Nat) : List Node → List Node
  | [] => []
  | v :: vs => cut level v :: cutItems level vs

def cutEntries (level : Nat) : List (Option String × Node) → List (Option String × Node)
  | [] => []
  | (k, v) :: es => (k, cut level v) :: cutEntries level es
end

/-- The deepest nesting of lists and objects that a reader follows. -/
def depthLimit : Nat := 127

/-- The node of a text: one value between blanks. -/
def parse? (cs : List Char) : Option Node := do
  let (node, rest) ← scanValue (cs.length + 1) cs
  if (skipSpace rest).isEmpty then some (node.cut depthLimit) else none

/-- What stands for bytes that are no characters: no value outside quotes, no escape after a
backslash, and a text with a lone surrogate wherever characters may stand. -/
def brokenChars : List Char := ['x', '\\', 'u', 'd', 'c', '0', '0', '\\', 'u', 'd', 'c', '0', '0']

/-- The characters of a text in UTF-8. -/
def charsOfBytes (bs : Bytes) : List Char :=
  (Text.sequences bs.length bs).flatMap fun s =>
    match Text.decode? s with
    | some text => text.toList
    | none => brokenChars

/-- The node of a text in UTF-8. A text within it whose bytes are no characters has no value, and is
an error only where the value is wanted. -/
def parseBytes? (bs : Bytes) : Option Node := parse? (charsOfBytes bs)

mutual
/-- The value of a node: object keys in ascending order, the last of equal keys. -/
def value? : Node → Option Json
  | .null => some .null
  | .bool b => some (.bool b)
  | .number n => n.map .number
  | .string s => s.map .string
  | .array items => (valueItems? items).map .array
  | .object entries => (valueEntries? entries).map Json.ofEntries
  | .tooDeep => none

def valueItems? : List Node → Option (List Json)
  | [] => some []
  | v :: vs => do return (← value? v) :: (← valueItems? vs)

def valueEntries? : List (Option String × Node) → Option (List (String × Json))
  | [] => some []
  | (k, v) :: es => do return (← k, ← value? v) :: (← valueEntries? es)
end

end Node

/-- The value of a JSON text. -/
def parse? (s : String) : Option Json := do (← Node.parse? s.toList).value?

/-- The value of a JSON text in UTF-8. -/
def parseBytes? (bs : Bytes) : Option Json := do parse? (← Text.decode? bs)

end ApiGateway.Json
