import ApiGateway.Text.Utf8

/-
Tokens of a YAML text, and the place in the text that a scanner has reached.

* `Token` - indicators, properties and scalars; the block tokens are made from indentation.
* `Place` - the rest of a text with the line and column reached.
* `isBreak`, `isSpace`, `endsWord` - the classes of characters that separate tokens.
-/

namespace ApiGateway.Yaml

/-- How a scalar is written. -/
inductive Style where
  | plain
  | singleQuoted
  | doubleQuoted
  | literal
  | folded
deriving DecidableEq, Repr

inductive Token where
  | versionDirective (major minor : Nat)
  | tagDirective (handle : String) (uri : Bytes)
  | documentStart
  | documentEnd
  | blockSequenceStart
  | blockMappingStart
  | blockEnd
  | flowSequenceStart
  | flowSequenceEnd
  | flowMappingStart
  | flowMappingEnd
  | blockEntry
  | flowEntry
  | key
  | value
  | alias (name : String)
  | anchor (name : String)
  /-- The bytes of the suffix need not be those of a text. -/
  | tag (handle : String) (suffix : Bytes)
  | scalar (text : String) (style : Style)
  | streamEnd
deriving DecidableEq, Repr

/-- Line breaks: line feed, carriage return, next line, line and paragraph separator. -/
def isBreak (c : Char) : Bool :=
  c == '\n' || c == '\r' || c.toNat == 0x85 || c.toNat == 0x2028 || c.toNat == 0x2029

/-- Blanks within a line. -/
def isSpace (c : Char) : Bool := c == ' ' || c == '\t'

/-- A blank, a break or the end of the text comes next. -/
def endsWord : List Char → Bool
  | [] => true
  | c :: _ => isSpace c || isBreak c

/-- A break or the end of the text comes next. -/
def endsLine : List Char → Bool
  | [] => true
  | c :: _ => isBreak c

/-- The characters a text may hold: the printable ones, tab and the line breaks. -/
def isAllowed (c : Char) : Bool :=
  let n := c.toNat
  n == 9 || n == 10 || n == 13 || (0x20 ≤ n && n ≤ 0x7E) || n == 0x85 ||
    (0xA0 ≤ n && n ≤ 0xD7FF) || (0xE000 ≤ n && n ≤ 0xFFFD) || 0x10000 ≤ n

/-- The rest of a text and the place reached in it. -/
structure Place where
  rest : List Char
  index : Nat
  line : Nat
  column : Nat

namespace Place

/-- Past the next `n` characters, none of them a break. -/
def skip (p : Place) (n : Nat) : Place :=
  { p with rest := p.rest.drop n, index := p.index + n, column := p.column + n }

/-- The next characters that satisfy a test, none of them a break, and the place after them. -/
def takeWhile (p : Place) (test : Char → Bool) : List Char × Place :=
  let cs := p.rest.takeWhile test
  (cs, p.skip cs.length)

/-- The place after a rest of the text on the same line. -/
def toRest (p : Place) (rest : List Char) : Place := p.skip (p.rest.length - rest.length)

/-- The break that comes next as it counts in a scalar, and the place on the next line. A carriage
return with a line feed is one break. -/
def readBreak (p : Place) : List Char × Place :=
  match p.rest with
  | '\r' :: '\n' :: rest => (['\n'], ⟨rest, p.index + 2, p.line + 1, 0⟩)
  | c :: rest =>
    if isBreak c then
      (if c.toNat == 0x2028 || c.toNat == 0x2029 then [c] else ['\n'],
        ⟨rest, p.index + 1, p.line + 1, 0⟩)
    else ([], p)
  | [] => ([], p)

/-- Three hyphens or three points stand at the start of a line, alone. -/
def atDocumentMark (p : Place) : Bool :=
  p.column == 0 && match p.rest with
    | a :: b :: c :: rest => (a == '-' || a == '.') && a == b && b == c && endsWord rest
    | _ => false

end Place

end ApiGateway.Yaml
