import ApiGateway.Yaml.Token

/-
The text of a scalar: folding of line breaks, escapes and chomping.

* `Gap` - the blanks and breaks between two words of a scalar, and what they fold to.
* `scanPlain`, `scanQuoted`, `scanBlock` - the text of a scalar and the place after it.
-/

namespace ApiGateway.Yaml

/-- Between two words of a scalar: blanks on one line, or a first break and further breaks. -/
inductive Gap where
  | blanks (cs : List Char)
  | breaks (first more : List Char)

namespace Gap

/-- What a gap folds to: blanks stay, a single line break is a blank, further breaks stay. -/
def folded : Gap → List Char
  | .blanks cs => cs
  | .breaks first more =>
    if first == ['\n'] then (if more.isEmpty then [' '] else more) else first ++ more

def hasBreak : Gap → Bool
  | .blanks _ => false
  | .breaks _ _ => true

end Gap

/-- The gap that starts here. A tab before the given column on a later line is an error. The fuel
is at least the length of the rest. -/
def scanGap (indent : Nat) : Nat → Gap → Place → Option (Gap × Place)
  | 0, gap, p => some (gap, p)
  | fuel + 1, gap, p =>
    match p.rest with
    | [] => some (gap, p)
    | c :: _ =>
      if isSpace c then
        match gap with
        | .blanks cs => scanGap indent fuel (.blanks (cs ++ [c])) (p.skip 1)
        | .breaks _ _ =>
          if c == '\t' && p.column < indent then none else scanGap indent fuel gap (p.skip 1)
      else if isBreak c then
        let (b, p) := p.readBreak
        match gap with
        | .blanks _ => scanGap indent fuel (.breaks b []) p
        | .breaks first more => scanGap indent fuel (.breaks first (more ++ b)) p
      else some (gap, p)

/-! ### Plain scalars -/

/-- The characters that end a plain scalar inside brackets. -/
def isFlowMark (c : Char) : Bool := c == ',' || c == '[' || c == ']' || c == '{' || c == '}'

/-- A word of a plain scalar and the rest after it; inside brackets a colon before a bracket,
comma or question mark is an error. -/
def plainWord (flow : Bool) : List Char → Option (List Char × List Char)
  | [] => some ([], [])
  | c :: cs =>
    if isSpace c || isBreak c then some ([], c :: cs)
    else if flow && c == ':' && cs.head?.any (fun d => isFlowMark d || d == '?') then none
    else if (c == ':' && endsWord cs) || (flow && isFlowMark c) then some ([], c :: cs)
    else (plainWord flow cs).map fun (w, rest) => (c :: w, rest)

/-- A plain scalar whose further lines stand at the given column or after it. Returns its text,
whether a line break follows the last word, and the place after it. -/
def scanPlain (flow : Bool) (indent : Nat) : Nat → List Char → Gap → Place →
    Option (List Char × Bool × Place)
  | 0, text, gap, p => some (text, gap.hasBreak, p)
  | fuel + 1, text, gap, p =>
    if p.atDocumentMark || p.rest.head? == some '#' then some (text, gap.hasBreak, p) else
      match plainWord flow p.rest with
      | none => none
      | some (word, rest) =>
        let (text, gap) :=
          if word.isEmpty then (text, gap) else (text ++ gap.folded ++ word, .blanks [])
        let p := p.toRest rest
        match p.rest with
        | [] => some (text, gap.hasBreak, p)
        | c :: _ =>
          if isSpace c || isBreak c then
            match scanGap indent p.rest.length gap p with
            | none => none
            | some (gap, p) =>
              if !flow && p.column < indent then some (text, gap.hasBreak, p)
              else scanPlain flow indent fuel text gap p
          else some (text, gap.hasBreak, p)

/-! ### Quoted scalars -/

/-- The character of a one-letter escape. -/
def namedEscape? (c : Char) : Option Nat :=
  match c with
  | '0' => some 0
  | 'a' => some 7
  | 'b' => some 8
  | 't' => some 9
  | '\t' => some 9
  | 'n' => some 10
  | 'v' => some 11
  | 'f' => some 12
  | 'r' => some 13
  | 'e' => some 27
  | ' ' => some 32
  | '"' => some 34
  | '/' => some 47
  | '\\' => some 92
  | 'N' => some 0x85
  | '_' => some 0xA0
  | 'L' => some 0x2028
  | 'P' => some 0x2029
  | _ => none

/-- The number of hexadecimal digits after an escape letter. -/
def hexLength? (c : Char) : Option Nat :=
  match c with
  | 'x' => some 2
  | 'u' => some 4
  | 'U' => some 8
  | _ => none

def hexDigit? (c : Char) : Option Nat :=
  if c.isDigit then some (c.toNat - 48)
  else if 'a' ≤ c && c ≤ 'f' then some (c.toNat - 87)
  else if 'A' ≤ c && c ≤ 'F' then some (c.toNat - 55)
  else none

/-- The character that `n` hexadecimal digits denote, and the rest. -/
def hexEscape? : Nat → Nat → List Char → Option (Char × List Char)
  | 0, value, cs =>
    if (0xD800 ≤ value && value ≤ 0xDFFF) || 0x10FFFF < value then none
    else some (Char.ofNat value, cs)
  | n + 1, value, c :: cs => do hexEscape? n (value * 16 + (← hexDigit? c)) cs
  | _ + 1, _, [] => none

/-- A word of a quoted scalar and the rest after it, which starts at a blank, at a break, at the
closing quote, at an escaped break, or is empty. The fuel is at least the length of the text. -/
def quotedWord (single : Bool) : Nat → List Char → Option (List Char × List Char)
  | 0, cs => some ([], cs)
  | _ + 1, [] => some ([], [])
  | fuel + 1, c :: cs =>
    if isSpace c || isBreak c then some ([], c :: cs)
    else if single then
      match c, cs with
      | '\'', '\'' :: cs => (quotedWord single fuel cs).map fun (w, rest) => ('\'' :: w, rest)
      | '\'', cs => some ([], '\'' :: cs)
      | c, cs => (quotedWord single fuel cs).map fun (w, rest) => (c :: w, rest)
    else if c == '"' then some ([], c :: cs)
    else if c == '\\' then
      match cs with
      | [] => none
      | d :: cs =>
        if isBreak d then some ([], c :: d :: cs)
        else match namedEscape? d with
          | some n => (quotedWord single fuel cs).map fun (w, rest) => (Char.ofNat n :: w, rest)
          | none => do
            let (e, cs) ← hexEscape? (← hexLength? d) 0 cs
            let (w, rest) ← quotedWord single fuel cs
            return (e :: w, rest)
    else (quotedWord single fuel cs).map fun (w, rest) => (c :: w, rest)

/-- The text of a quoted scalar after its opening quote, and the place after its closing quote. -/
def scanQuoted (single : Bool) : Nat → List Char → Place → Option (List Char × Place)
  | 0, _, _ => none
  | fuel + 1, text, p =>
    if p.atDocumentMark then none else
      match quotedWord single p.rest.length p.rest with
      | none => none
      | some (word, rest) =>
        let p := p.toRest rest
        match p.rest with
        | [] => none
        | c :: _ =>
          let start := if isSpace c || isBreak c then some (Gap.blanks [], p)
            else if c == '\\' then some (Gap.breaks [] [], (p.skip 1).readBreak.2)
            else none
          match start with
          | none => some (text ++ word, p.skip 1)
          | some (gap, p) =>
            match scanGap 0 p.rest.length gap p with
            | none => none
            | some (gap, p) => scanQuoted single fuel (text ++ word ++ gap.folded) p

/-! ### Block scalars -/

/-- What becomes of the line breaks at the end of a block scalar. -/
inductive Chomp where
  | strip
  | clip
  | keep
deriving DecidableEq

def chomp? (c : Char) : Option Chomp :=
  if c == '+' then some .keep else if c == '-' then some .strip else none

/-- The indicators after the mark of a block scalar: chomping and indentation, in either order. -/
def blockHeader (p : Place) : Option (Chomp × Nat × Place) :=
  let digit? (p : Place) : Option (Nat × Place) :=
    match p.rest with
    | c :: _ => if c.isDigit then (if c == '0' then none else some (c.toNat - 48, p.skip 1))
        else some (0, p)
    | [] => some (0, p)
  match p.rest.head?.bind chomp? with
  | some ch => (digit? (p.skip 1)).map fun (n, p) => (ch, n, p)
  | none => (digit? p).map fun (n, p) =>
    if n == 0 then (.clip, 0, p)
    else match p.rest.head?.bind chomp? with
      | some ch => (ch, n, p.skip 1)
      | none => (.clip, n, p)

/-- Skips indentation and empty lines. With no indentation known (`0`) every leading space counts,
and the deepest is remembered; a tab in its place is an error. -/
def blockBreaks (indent : Nat) : Nat → Nat → List Char → Place → Option (Nat × List Char × Place)
  | 0, deepest, breaks, p => some (deepest, breaks, p)
  | fuel + 1, deepest, breaks, p =>
    let blanks := (p.rest.takeWhile (· == ' ')).length
    let p := p.skip (if indent == 0 then blanks else min blanks (indent - p.column))
    let deepest := max deepest p.column
    if (indent == 0 || p.column < indent) && p.rest.head? == some '\t' then none
    else match p.rest with
      | c :: _ =>
        if isBreak c then
          let (b, p) := p.readBreak
          blockBreaks indent fuel deepest (breaks ++ b) p
        else some (deepest, breaks, p)
      | [] => some (deepest, breaks, p)

/-- The lines of a block scalar. `lead` is the break before the next line, `breaks` the empty lines
after it; a folded scalar joins two lines that both start with no blank. -/
def blockLines (folded : Bool) (indent : Nat) : Nat → List Char → List Char → List Char → Bool →
    Place → Option (List Char × List Char × List Char × Place)
  | 0, text, lead, breaks, _, p => some (text, lead, breaks, p)
  | fuel + 1, text, lead, breaks, blankLead, p =>
    if p.column != indent || p.rest.isEmpty then some (text, lead, breaks, p) else
      let blankNow := p.rest.head?.any isSpace
      let joined :=
        if folded && lead == ['\n'] && !blankLead && !blankNow then
          (if breaks.isEmpty then [' '] else []) else lead
      let (line, p) := p.takeWhile fun c => !isBreak c
      let (lead, p') := p.readBreak
      match blockBreaks indent (p'.rest.length + 1) 0 [] p' with
      | none => none
      | some (_, more, p) =>
        blockLines folded indent fuel (text ++ joined ++ breaks ++ line) lead more blankNow p

/-- The text of a block scalar after its mark, in a block at the given column. -/
def scanBlock (folded : Bool) (parent : Int) (p : Place) : Option (List Char × Place) := do
  let (chomp, increment, p) ← blockHeader p
  let p := (p.takeWhile isSpace).2
  let p := if p.rest.head? == some '#' then (p.takeWhile fun c => !isBreak c).2 else p
  if !endsLine p.rest then none else
    let p := p.readBreak.2
    let known : Nat :=
      if increment == 0 then 0
      else if 0 ≤ parent then parent.toNat + increment else increment
    let (deepest, breaks, p) ← blockBreaks known (p.rest.length + 1) 0 [] p
    let indent := if known == 0 then max (max deepest (parent + 1).toNat) 1 else known
    let (text, lead, breaks, p) ←
      blockLines folded indent (p.rest.length + 1) [] [] breaks false p
    let ending := match chomp with
      | .strip => []
      | .clip => lead
      | .keep => lead ++ breaks
    return (text ++ ending, p)

end ApiGateway.Yaml
