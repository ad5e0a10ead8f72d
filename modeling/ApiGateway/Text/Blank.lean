/-
Blank characters and the trimming that names, methods, numbers and references go through.

* `isBlank` - the characters with the White_Space property.
* `trim`, `trimStart`, `trimEnd` - a text without its blank ends.
* `IsBlankText` - a text of blanks only, decidable through `isBlankText`.
-/

namespace ApiGateway.Text

/-- The characters with the White_Space property: tab to carriage return, space, next line,
no-break space, and the spaces and separators of the general punctuation blocks. -/
def isBlank (c : Char) : Bool :=
  let n := c.toNat
  (9 ≤ n && n ≤ 13) || n == 0x20 || n == 0x85 || n == 0xA0 || n == 0x1680 ||
    (0x2000 ≤ n && n ≤ 0x200A) || n == 0x2028 || n == 0x2029 || n == 0x202F || n == 0x205F ||
    n == 0x3000

/-- The text without its leading blanks. -/
def trimStart (cs : List Char) : List Char := cs.dropWhile isBlank

/-- The text without its trailing blanks. -/
def trimEnd (cs : List Char) : List Char := (cs.reverse.dropWhile isBlank).reverse

/-- The text without the blanks at both ends. -/
def trim (cs : List Char) : List Char := trimEnd (trimStart cs)

/-- `trim` on strings. -/
def trimmed (s : String) : String := String.ofList (trim s.toList)

/-- A text with nothing but blanks in it; the empty text is one. -/
def isBlankText (s : String) : Bool := s.toList.all isBlank

/-- ASCII capital letters become small ones; every other character stays. -/
def lowerAscii (s : String) : String := String.ofList (s.toList.map Char.toLower)

/-- Equality up to the case of ASCII letters. -/
def eqIgnoringCase (s t : String) : Bool := lowerAscii s == lowerAscii t

/-- The text is a letter, digit, underscore or hyphen throughout, and not empty: the names of
types and forwards. -/
def isIdentifier (s : String) : Bool :=
  !s.toList.isEmpty && s.toList.all fun c => c.isAlphanum || c == '_' || c == '-'

/-- A text with every occurrence of one character replaced by a text. -/
def replaceChar (c : Char) (by_ : List Char) (cs : List Char) : List Char :=
  cs.flatMap fun d => if d == c then by_ else [d]

/-- The text occurs somewhere in the other. -/
def isInfix (needle : List Char) : List Char → Bool
  | [] => needle.isEmpty
  | c :: cs => needle.isPrefixOf (c :: cs) || isInfix needle cs

end ApiGateway.Text
