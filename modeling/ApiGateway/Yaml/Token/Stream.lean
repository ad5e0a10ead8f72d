import ApiGateway.Yaml.Scalar

/-
The tokens of a YAML text.

Block structure is told from columns: a token past the current indentation opens a block, a token
before it closes blocks. A key is recognised only at its colon, so that the place where it may have
begun is remembered, and the tokens that open the key are put back there.

* `Scanner` - the place reached, the open blocks and brackets, the pending keys, the tokens so far.
* `Scanner.step` - reads the next token; `none` when no token can stand here.
* `Token.ofText?` - the tokens of a whole text.
-/

namespace ApiGateway.Yaml

/-- Where a key may have begun. It is required when nothing else can stand at its column. -/
structure PendingKey where
  required : Bool
  /-- The number of tokens before the key. -/
  before : Nat
  index : Nat
  line : Nat
  column : Nat

/-- What a scanner knows. -/
structure Scanner where
  place : Place
  /-- The column of the innermost block, `-1` outside all blocks. -/
  indent : Int
  /-- The columns of the enclosing blocks, the nearest first. -/
  outer : List Int
  /-- A key may begin here. -/
  keyAllowed : Bool
  /-- The pending key of the innermost bracket, or of the block outside all brackets. -/
  pending : Option PendingKey
  /-- The pending keys around each open bracket, the nearest first. -/
  around : List (Option PendingKey)
  /-- The tokens so far, the newest first. -/
  tokens : List Token
  count : Nat

namespace Scanner

def start (cs : List Char) : Scanner :=
  ⟨⟨cs, 0, 0, 0⟩, -1, [], true, none, [], [], 0⟩

/-- Inside brackets. -/
def inFlow (s : Scanner) : Bool := !s.around.isEmpty

def push (s : Scanner) (t : Token) : Scanner :=
  { s with tokens := t :: s.tokens, count := s.count + 1 }

/-- Puts a token after the first `n`. -/
def insertAt (s : Scanner) (n : Nat) (t : Token) : Scanner :=
  let newer := s.count - n
  { s with tokens := s.tokens.take newer ++ t :: s.tokens.drop newer, count := s.count + 1 }

/-- Past `n` characters of the line. -/
def skip (s : Scanner) (n : Nat) : Scanner := { s with place := s.place.skip n }

def allowKey (s : Scanner) (allowed : Bool) : Scanner := { s with keyAllowed := allowed }

/-! ### Blocks -/

/-- Opens a block at a column past the current one; its token goes after the first `n`. -/
def openBlock (s : Scanner) (column n : Nat) (t : Token) : Scanner :=
  if !s.inFlow && s.indent < column then
    { s.insertAt n t with indent := column, outer := s.indent :: s.outer }
  else s

/-- Closes the blocks past a column, given the columns of those around the current one. -/
def closeBlocksWithin (column : Int) (s : Scanner) : List Int → Scanner
  | [] => s
  | i :: outer =>
    if column < s.indent then
      closeBlocksWithin column { s.push .blockEnd with indent := i, outer := outer } outer
    else s

/-- Closes the blocks past a column. -/
def closeBlocks (s : Scanner) (column : Int) : Scanner :=
  if s.inFlow then s else closeBlocksWithin column s s.outer

/-! ### Pending keys -/

/-- A required key is no more than a line long, and 1024 characters. -/
def isStale (p : Place) (k : PendingKey) : Bool := k.line < p.line || k.index + 1024 < p.index

/-- Forgets a key that can no longer be one; a required one cannot be forgotten. -/
def freshen? (p : Place) : Option PendingKey → Option (Option PendingKey)
  | none => some none
  | some k => if isStale p k then (if k.required then none else some none) else some (some k)

/-- Forgets the pending keys that lie too far back. -/
def dropStale (s : Scanner) : Option Scanner := do
  let pending ← freshen? s.place s.pending
  let around ← s.around.mapM (freshen? s.place)
  return { s with pending, around }

/-- Forgets the pending key, which must not be required. -/
def dropKey (s : Scanner) : Option Scanner :=
  if s.pending.any (·.required) then none else some { s with pending := none }

/-- Remembers that a key may begin here. -/
def saveKey (s : Scanner) : Option Scanner :=
  if s.keyAllowed then do
    let s ← s.dropKey
    return { s with pending := some {
      required := !s.inFlow && s.indent == s.place.column, before := s.count
      index := s.place.index, line := s.place.line, column := s.place.column } }
  else some s

/-! ### Between tokens -/

/-- Skips blanks, comments and line breaks. Outside brackets a tab is no blank where a key may
begin. A byte order mark that opens a line is passed over, but keeps its column. The fuel is at
least the length of the rest. -/
def skipBlanks : Nat → Scanner → Scanner
  | 0, s => s
  | fuel + 1, s =>
    let p := if s.place.column == 0 && s.place.rest.head? == some '\uFEFF' then s.place.skip 1
      else s.place
    let p := (p.takeWhile fun c => c == ' ' || (c == '\t' && (s.inFlow || !s.keyAllowed))).2
    let p := if p.rest.head? == some '#' then (p.takeWhile fun c => !isBreak c).2 else p
    if p.rest.head?.any isBreak then
      skipBlanks fuel { s with place := p.readBreak.2, keyAllowed := s.keyAllowed || !s.inFlow }
    else { s with place := p }

/-! ### Names, tags and directives -/

/-- The characters of names. -/
def isNameChar (c : Char) : Bool := c.isAlphanum || c == '_' || c == '-'

/-- The name of an anchor or alias after its mark. -/
def scanName (p : Place) : Option (String × Place) :=
  let (name, p) := p.takeWhile isNameChar
  let closed := endsWord p.rest ||
    p.rest.head?.any fun c => ['?', ':', ',', ']', '}', '%', '@', '\x60'].contains c
  if name.isEmpty || !closed then none else some (String.ofList name, p)

/-- The characters of a tag; within angle brackets also brackets and commas. -/
def isTagChar (verbatim : Bool) (c : Char) : Bool :=
  isNameChar c ||
    [';', '/', '?', ':', '@', '&', '=', '+', '$', '.', '!', '~', '*', '\'', '(', ')'].contains c ||
    (verbatim && [',', '[', ']'].contains c)

/-- The bytes of `n` escapes, of which all but the first are continuation bytes. -/
def escapedBytes : Nat → Bool → List Char → Option (Bytes × List Char)
  | 0, _, cs => some ([], cs)
  | n + 1, first, '%' :: a :: b :: cs => do
    let octet := (← hexDigit? a) * 16 + (← hexDigit? b)
    if !first && octet / 64 != 2 then none else
      let (bs, rest) ← escapedBytes n false cs
      return (UInt8.ofNat octet :: bs, rest)
  | _ + 1, _, _ => none

/-- The number of bytes of a character with this first byte. -/
def sequenceLength? (octet : Nat) : Option Nat :=
  if octet < 0x80 then some 1
  else if octet / 32 == 6 then some 2
  else if octet / 16 == 14 then some 3
  else if octet / 8 == 30 then some 4
  else none

/-- The bytes of a character that is written as escapes. -/
def tagEscape? : List Char → Option (Bytes × List Char)
  | '%' :: a :: b :: cs => do
    let n ← sequenceLength? ((← hexDigit? a) * 16 + (← hexDigit? b))
    escapedBytes n true ('%' :: a :: b :: cs)
  | _ => none

/-- The bytes of a tag and the rest after it. The fuel is at least the length of the text. -/
def tagText (verbatim : Bool) : Nat → List Char → Option (Bytes × List Char)
  | 0, cs => some ([], cs)
  | _ + 1, [] => some ([], [])
  | fuel + 1, c :: cs =>
    if isTagChar verbatim c then
      (tagText verbatim fuel cs).map fun (w, rest) => (UInt8.ofNat c.toNat :: w, rest)
    else if c == '%' then do
      let (e, rest) ← tagEscape? (c :: cs)
      let (w, rest) ← tagText verbatim fuel rest
      return (e ++ w, rest)
    else some ([], c :: cs)

/-- A tag text at a place. -/
def scanTagText (verbatim : Bool) (p : Place) : Option (Bytes × Place) :=
  (tagText verbatim p.rest.length p.rest).map fun (w, rest) => (w, p.toRest rest)

/-- An exclamation mark, a name, and another exclamation mark if it follows. -/
def scanHandle (p : Place) : Option (List Char × Place) :=
  match p.rest with
  | '!' :: _ =>
    let (name, p) := (p.skip 1).takeWhile isNameChar
    if p.rest.head? == some '!' then some ('!' :: name ++ ['!'], p.skip 1)
    else some ('!' :: name, p)
  | _ => none

/-- The text is a handle: at least two characters, an exclamation mark at the end. -/
def isHandle (cs : List Char) : Bool := 1 < cs.length && cs.getLast? == some '!'

/-- A tag, from its exclamation mark on. One with nothing after the mark, or with a zero byte there,
is the mark alone. -/
def scanTag (inFlow : Bool) (p : Place) : Option (Token × Place) := do
  let (token, p) ←
    if p.rest.drop 1 |>.head? |>.any (· == '<') then do
      let (text, p) ← scanTagText true (p.skip 2)
      if text.isEmpty || p.rest.head? != some '>' then none
      else pure (Token.tag "" text, p.skip 1)
    else do
      let (handle, p) ← scanHandle p
      let (text, p) ← scanTagText false p
      if isHandle handle then
        if text.isEmpty then none
        else pure (Token.tag (String.ofList handle) text, p)
      else
        let text := (handle.drop 1).map (fun c => UInt8.ofNat c.toNat) ++ text
        pure (if text.headD 0 == 0 then .tag "" [0x21] else .tag "!" text, p)
  if endsWord p.rest || (inFlow && p.rest.head? == some ',') then some (token, p) else none

/-- A number of at most nine digits. -/
def scanVersionNumber (p : Place) : Option (Nat × Place) :=
  let (ds, p) := p.takeWhile Char.isDigit
  if ds.isEmpty || 9 < ds.length then none
  else some (ds.foldl (fun n c => 10 * n + (c.toNat - 48)) 0, p)

/-- What a directive says, after its name. -/
def directiveValue (name : List Char) (p : Place) : Option (Token × Place) := do
  let p := (p.takeWhile isSpace).2
  if name == ['Y', 'A', 'M', 'L'] then do
    let (major, p) ← scanVersionNumber p
    if p.rest.head? != some '.' then none else
      let (minor, p) ← scanVersionNumber (p.skip 1)
      return (.versionDirective major minor, p)
  else if name == ['T', 'A', 'G'] then do
    let (handle, p) ← scanHandle p
    if !(isHandle handle || handle == ['!']) || !p.rest.head?.any isSpace then none else
      let (uri, p) ← scanTagText true (p.takeWhile isSpace).2
      if uri.isEmpty || !endsWord p.rest then none
      else return (.tagDirective (String.ofList handle) uri, p)
  else none

/-- A directive, after its percent sign, with the rest of its line. -/
def scanDirective (p : Place) : Option (Token × Place) := do
  let (name, p) := p.takeWhile isNameChar
  if name.isEmpty || !endsWord p.rest then none else
    let (token, p) ← directiveValue name p
    let p := (p.takeWhile isSpace).2
    let p := if p.rest.head? == some '#' then (p.takeWhile fun c => !isBreak c).2 else p
    if endsLine p.rest then return (token, p.readBreak.2) else none

/-! ### Tokens -/

/-- A token at the start of a line that ends all blocks. -/
def fetchMark (s : Scanner) (token : Token) : Option Scanner := do
  let s ← (s.closeBlocks (-1)).dropKey
  return ((s.allowKey false).skip 3).push token

def fetchDirective (s : Scanner) : Option Scanner := do
  let s ← (s.closeBlocks (-1)).dropKey
  let (token, place) ← scanDirective (s.place.skip 1)
  return { (s.allowKey false).push token with place }

/-- An opening bracket. -/
def fetchOpen (s : Scanner) (token : Token) : Option Scanner := do
  let s ← s.saveKey
  return (({ s with around := s.pending :: s.around, pending := none }.allowKey true).skip 1).push
    token

/-- A closing bracket. -/
def fetchClose (s : Scanner) (token : Token) : Option Scanner := do
  let s ← s.dropKey
  let s := match s.around with
    | [] => s
    | k :: around => { s with pending := k, around }
  return ((s.allowKey false).skip 1).push token

def fetchComma (s : Scanner) : Option Scanner := do
  return (((← s.dropKey).allowKey true).skip 1).push .flowEntry

/-- The hyphen of a block entry. -/
def fetchEntry (s : Scanner) : Option Scanner := do
  if !s.inFlow && !s.keyAllowed then none else
    let s ← (s.openBlock s.place.column s.count .blockSequenceStart).dropKey
    return ((s.allowKey true).skip 1).push .blockEntry

/-- The question mark of a key. -/
def fetchKey (s : Scanner) : Option Scanner := do
  if !s.inFlow && !s.keyAllowed then none else
    let s ← (s.openBlock s.place.column s.count .blockMappingStart).dropKey
    return ((s.allowKey !s.inFlow).skip 1).push .key

/-- The colon of a value. What stands before it becomes its key, if it may be one. -/
def fetchValue (s : Scanner) : Option Scanner :=
  match s.pending with
  | some k =>
    let s := ((s.insertAt k.before .key).openBlock k.column k.before .blockMappingStart)
    some (({ s with pending := none }.allowKey false).skip 1 |>.push .value)
  | none =>
    if !s.inFlow && !s.keyAllowed then none
    else
      let s := s.openBlock s.place.column s.count .blockMappingStart
      some ((s.allowKey !s.inFlow).skip 1 |>.push .value)

/-- An anchor, an alias, a tag or a quoted scalar. -/
def fetchAtom (s : Scanner) (scan : Place → Option (Token × Place)) : Option Scanner := do
  let s ← s.saveKey
  let (token, place) ← scan s.place
  return { (s.allowKey false).push token with place }

def fetchPlain (s : Scanner) : Option Scanner := do
  let s ← s.saveKey
  let (text, broken, place) ←
    scanPlain s.inFlow (s.indent + 1).toNat (s.place.rest.length + 1) [] (.blanks []) s.place
  return { (s.allowKey broken).push (.scalar (String.ofList text) .plain) with place }

def fetchBlockScalar (s : Scanner) (folded : Bool) : Option Scanner := do
  let s ← s.dropKey
  let (text, place) ← scanBlock folded s.indent (s.place.skip 1)
  let style : Style := if folded then .folded else .literal
  return { (s.allowKey true).push (.scalar (String.ofList text) style) with place }

/-- The end of the text: a new line that closes everything. -/
def fetchEnd (s : Scanner) : Option Scanner := do
  let s ← (s.closeBlocks (-1)).dropKey
  return s.push .streamEnd

/-- A character that begins no plain scalar, a hyphen, question mark or colon apart. -/
def isIndicator (c : Char) : Bool :=
  [',', '[', ']', '{', '}', '#', '&', '*', '!', '|', '>', '\'', '"', '%', '@', '\x60'].contains c

/-- A plain scalar can begin with this character before this rest. -/
def beginsPlain (inFlow : Bool) (c : Char) (rest : List Char) : Bool :=
  if c == '-' then !rest.head?.any isSpace
  else if c == '?' || c == ':' then !inFlow && !endsWord rest
  else !isIndicator c && !isSpace c && !isBreak c

/-- Reads the token that begins here. -/
def fetch (s : Scanner) : Option Scanner :=
  match s.place.rest with
  | [] => s.fetchEnd
  | c :: rest =>
    if s.place.column == 0 && c == '%' then s.fetchDirective
    else if s.place.atDocumentMark then
      s.fetchMark (if c == '-' then .documentStart else .documentEnd)
    else if c == '[' then s.fetchOpen .flowSequenceStart
    else if c == '{' then s.fetchOpen .flowMappingStart
    else if c == ']' then s.fetchClose .flowSequenceEnd
    else if c == '}' then s.fetchClose .flowMappingEnd
    else if c == ',' then s.fetchComma
    else if c == '-' && endsWord rest then s.fetchEntry
    else if c == '?' && (s.inFlow || endsWord rest) then s.fetchKey
    else if c == ':' && (s.inFlow || endsWord rest) then s.fetchValue
    else if c == '*' then
      s.fetchAtom fun p => (scanName (p.skip 1)).map fun (n, p) => (.alias n, p)
    else if c == '&' then
      s.fetchAtom fun p => (scanName (p.skip 1)).map fun (n, p) => (.anchor n, p)
    else if c == '!' then s.fetchAtom (scanTag s.inFlow)
    else if c == '|' && !s.inFlow then s.fetchBlockScalar false
    else if c == '>' && !s.inFlow then s.fetchBlockScalar true
    else if c == '\'' || c == '"' then
      let single := c == '\''
      s.fetchAtom fun p => (scanQuoted single (rest.length + 1) [] (p.skip 1)).map fun (text, p) =>
        (.scalar (String.ofList text) (if single then .singleQuoted else .doubleQuoted), p)
    else if beginsPlain s.inFlow c rest then s.fetchPlain
    else none

/-- Reads the next token, with the block tokens before it. -/
def step (s : Scanner) : Option Scanner := do
  let s ← (s.skipBlanks (s.place.rest.length + 1)).dropStale
  (s.closeBlocks s.place.column).fetch

/-- Reads tokens to the end of the text. The fuel is more than the length of the rest: every token
but the last takes a character. -/
def run : Nat → Scanner → Option Scanner
  | 0, _ => none
  | fuel + 1, s => do
    let s ← s.step
    if s.tokens.head? == some .streamEnd then return s else run fuel s

end Scanner

/-- The tokens of a text. A control character is an error wherever it stands. -/
def Token.ofText? (cs : List Char) : Option (List Token) :=
  if !cs.all isAllowed then none
  else ((Scanner.start cs).run (cs.length + 2)).map (·.tokens.reverse)

end ApiGateway.Yaml
