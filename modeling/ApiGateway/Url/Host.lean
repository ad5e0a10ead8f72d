import ApiGateway.Url.Percent
import ApiGateway.Url.Domain.Basic

/-
The hosts of urls: domains, and addresses of the fourth and sixth version of the protocol.

* `Host.parse` - the host of a url with a known scheme; numbers make it an address.
* `Host.parseOpaque` - the host of any other url, taken as it is.
* `Host.chars` - the host as it is written.
-/

namespace ApiGateway.Url

/-- Why a text is no url. -/
inductive UrlError where
  | noScheme
  | emptyHost
  | invalidPort
  | invalidIpv6
  | invalidIpv4
  | invalidDomain
  | invalidDomainCharacter
deriving DecidableEq, Repr

namespace UrlError

def message : UrlError → String
  | .noScheme => "relative URL without a base"
  | .emptyHost => "empty host"
  | .invalidPort => "invalid port number"
  | .invalidIpv6 => "invalid IPv6 address"
  | .invalidIpv4 => "invalid IPv4 address"
  | .invalidDomain => "invalid international domain name"
  | .invalidDomainCharacter => "invalid domain character"

end UrlError

inductive Host where
  | domain (text : List Char)
  /-- The four bytes of an address as one number. -/
  | ipv4 (address : Nat)
  /-- The eight words of an address. -/
  | ipv6 (words : List Nat)
deriving DecidableEq, Repr

namespace Host

/-! ### Addresses of version four -/

/-- The number of digits in a base, each below it. -/
def digits? (base : Nat) (cs : List Char) : Option Nat :=
  cs.foldlM (fun n c => do
    let d ← hexValue? c
    if d < base then some (n * base + d) else none) 0

/-- A number of an address: in base sixteen, eight or ten, by its beginning. -/
def number? : List Char → Option Nat
  | [] => none
  | '0' :: 'x' :: cs => digits? 16 cs
  | '0' :: 'X' :: cs => digits? 16 cs
  | ['0'] => some 0
  | '0' :: cs => digits? 8 cs
  | cs => digits? 10 cs

/-- The last label of a domain, not counting an empty one at its end. -/
def lastLabel (domain : List Char) : List Char :=
  match (Text.splitAt '.' domain).reverse with
  | [] :: label :: _ => label
  | label :: _ => label
  | [] => []

/-- A domain whose last label is a number is an address. -/
def endsInNumber (domain : List Char) : Bool :=
  let label := lastLabel domain
  !label.isEmpty && (label.all Char.isDigit || (number? label).isSome)

/-- The address of its numbers: all but the last are bytes, the last fills what is left. -/
def ipv4OfNumbers? (numbers : List Nat) : Option Nat :=
  match numbers.reverse with
  | [] => none
  | last :: before =>
    let before := before.reverse
    if 3 < before.length || before.any (255 < ·) || Nat.pow 256 (4 - before.length) ≤ last then none
    else some (before.zipIdx.foldl (fun n (b, i) => n + b * Nat.pow 256 (3 - i)) last)

def parseIpv4 (domain : List Char) : Except UrlError Host :=
  let labels := Text.splitAt '.' domain
  let labels := if labels.getLast? == some [] then labels.dropLast else labels
  match (do ipv4OfNumbers? (← labels.mapM number?) : Option Nat) with
  | some n => .ok (.ipv4 n)
  | none => .error .invalidIpv4

/-! ### Addresses of version six -/

/-- A word of one to four digits. -/
def word? (cs : List Char) : Option Nat :=
  if cs.isEmpty || 4 < cs.length then none else digits? 16 cs

/-- A byte without leading zeros. -/
def byte? (cs : List Char) : Option Nat :=
  if cs.isEmpty || 3 < cs.length || (1 < cs.length && cs.head? == some '0') then none
  else do
    let n ← digits? 10 cs
    if n < 256 then some n else none

/-- The two words of an address of version four. -/
def wordsOfIpv4? (cs : List Char) : Option (List Nat) := do
  match ← (Text.splitAt '.' cs).mapM byte? with
  | [a, b, c, d] => return [a * 256 + b, c * 256 + d]
  | _ => none

/-- The words of groups between colons; the last group may be an address of version four where one
may stand. -/
def words? (mayEndIpv4 : Bool) : List (List Char) → Option (List Nat)
  | [] => some []
  | [group] =>
    if mayEndIpv4 && group.contains '.' then wordsOfIpv4? group else do return [← word? group]
  | group :: groups => do return (← word? group) :: (← words? mayEndIpv4 groups)

/-- The texts before and after a double colon. -/
def cutDouble? : List Char → Option (List Char × List Char)
  | ':' :: ':' :: cs => some ([], cs)
  | c :: cs => (cutDouble? cs).map fun (before, after) => (c :: before, after)
  | [] => none

/-- The groups of a text, none if it is empty. -/
def groups (cs : List Char) : List (List Char) := if cs.isEmpty then [] else Text.splitAt ':' cs

/-- The eight words of an address; a double colon stands for one or more zeros. -/
def ipv6Words? (cs : List Char) : Option (List Nat) := do
  match cutDouble? cs with
  | none => do
    let ws ← words? true (groups cs)
    if ws.length == 8 then some ws else none
  | some (before, after) => do
    let ws ← words? false (groups before)
    let vs ← words? true (groups after)
    if 7 < ws.length + vs.length then none
    else some (ws ++ List.replicate (8 - ws.length - vs.length) 0 ++ vs)

def parseIpv6 (cs : List Char) : Except UrlError Host :=
  match ipv6Words? cs with
  | some ws => .ok (.ipv6 ws)
  | none => .error .invalidIpv6

/-! ### Hosts -/

/-- The text between brackets, if it opens with one. -/
def bracketed (cs : List Char) : Option (Except UrlError Host) :=
  match cs with
  | '[' :: rest =>
    some (if rest.getLast? == some ']' then parseIpv6 rest.dropLast else .error .invalidIpv6)
  | _ => none

/-- The host of a url with a known scheme. -/
def parse (cs : List Char) : Except UrlError Host :=
  match bracketed cs with
  | some result => result
  | none =>
    match (do Domain.toAscii? (← Text.decode? (decodeBytes cs)).toList : Option (List Char)) with
    | none => .error .invalidDomain
    | some name =>
      if name.isEmpty then .error .emptyHost
      else if endsInNumber name then parseIpv4 name
      else .ok (.domain name)

/-- The characters that cannot stand in a host taken as it is. -/
def isForbidden (c : Char) : Bool :=
  c.toNat == 0 || ['\t', '\n', '\r', ' ', '#', '/', ':', '<', '>', '?', '@', '[', '\\', ']', '^',
    '|'].contains c

/-- The host of a url with another scheme. -/
def parseOpaque (cs : List Char) : Except UrlError Host :=
  match bracketed cs with
  | some result => result
  | none =>
    if cs.any isForbidden then .error .invalidDomainCharacter
    else .ok (.domain (encodeChars .control cs))

/-- The length of the run of zeros at the front. -/
def zeroRun (ws : List Nat) : Nat := (ws.takeWhile (· == 0)).length

/-- The first of the longest runs of at least two zeros: its place and length. -/
def longestRun (ws : List Nat) : Option (Nat × Nat) :=
  let runs := (List.range ws.length).map fun i => (i, zeroRun (ws.drop i))
  let longest := runs.foldl (fun n r => max n r.2) 0
  if longest < 2 then none else runs.find? (·.2 == longest)

/-- Words in base sixteen with colons between them. -/
def wordChars (ws : List Nat) : List Char := [':'].intercalate (ws.map (Nat.toDigits 16))

def ipv6Chars (ws : List Nat) : List Char :=
  match longestRun ws with
  | none => wordChars ws
  | some (i, n) => wordChars (ws.take i) ++ [':', ':'] ++ wordChars (ws.drop (i + n))

def ipv4Chars (n : Nat) : List Char :=
  ['.'].intercalate ([3, 2, 1, 0].map fun i => Nat.toDigits 10 (n / Nat.pow 256 i % 256))

/-- The host as it is written. -/
def chars : Host → List Char
  | .domain text => text
  | .ipv4 n => ipv4Chars n
  | .ipv6 ws => '[' :: ipv6Chars ws ++ [']']

end Host

end ApiGateway.Url
