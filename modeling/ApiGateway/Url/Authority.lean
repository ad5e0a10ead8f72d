import ApiGateway.Url.Scheme
import ApiGateway.Url.Host

/-
The authorities of urls: who asks, which host, which port.

* `Authority.parse` - the authority at the front of a text, and the rest of the text.
* `Authority.chars` - the authority as it is written.
-/

namespace ApiGateway.Url

/-- Where a url leads to. -/
structure Authority where
  username : List Char
  password : List Char
  host : Host
  /-- The port, unless it is the one of the scheme. -/
  port : Option Nat

/-- A character ends an authority. A backslash is a slash where the scheme has a meaning of its
own. -/
def endsAuthority (special : Bool) (c : Char) : Bool :=
  c == '/' || c == '?' || c == '#' || (special && c == '\\')

/-- The text up to the end of an authority, and the rest. -/
def spanAuthority (special : Bool) (cs : List Char) : List Char × List Char :=
  (cs.takeWhile (!endsAuthority special ·), cs.dropWhile (!endsAuthority special ·))

/-- The parts of a text before and after the last occurrence of a character. -/
def splitLast? (sep : Char) (cs : List Char) : Option (List Char × List Char) :=
  (Text.splitOnce? sep cs.reverse).map fun (after, before) => (before.reverse, after.reverse)

/-- Splits at the first colon that is not within brackets; `inside` tells whether the text begins
within them. -/
def splitColon (inside : Bool) : List Char → List Char × Option (List Char)
  | [] => ([], none)
  | c :: cs =>
    if c == ':' && !inside then ([], some cs)
    else
      let (host, port) := splitColon (c == '[' || (c != ']' && inside)) cs
      (c :: host, port)

/-- The port of its digits; none if there are none, or if it is the one of the scheme. -/
def parsePort (scheme cs : List Char) : Except UrlError (Option Nat) :=
  if !cs.all Char.isDigit then .error .invalidPort
  else
    let n := cs.foldl (fun n c => 10 * n + (c.toNat - 48)) 0
    if 65535 < n then .error .invalidPort
    else .ok (if cs.isEmpty || defaultPort? scheme == some n then none else some n)

/-- The host of a scheme from its text. -/
def parseHost (scheme cs : List Char) : Except UrlError Host :=
  if !isSpecial scheme then Host.parseOpaque cs
  else if cs.isEmpty then .error .emptyHost
  else Host.parse cs

/-- The name and the password of a text, each as a url holds it. -/
def credentials (cs : List Char) : List Char × List Char :=
  match Text.splitOnce? ':' cs with
  | some (name, password) => (encodeChars .userinfo name, encodeChars .userinfo password)
  | none => (encodeChars .userinfo cs, [])

namespace Authority

/-- The authority at the front of a text, and the rest. A port ends at a backslash under every
scheme. An empty host bears neither a name nor a port, and an authority is more than an `@`. -/
def parse (scheme cs : List Char) : Except UrlError (Authority × List Char) := do
  let (text, rest) := spanAuthority (isSpecial scheme) cs
  let (userinfo, hostPort) := (splitLast? '@' text).getD ([], text)
  if text == ['@'] && !rest.isEmpty then .error .emptyHost else
    let (username, password) := credentials userinfo
    let (hostText, portText) := splitColon false hostPort
    let h ← parseHost scheme hostText
    let isNamed := !username.isEmpty || !password.isEmpty
    if h == .domain [] && (isNamed || portText.isSome) then .error .emptyHost else
      let portText := portText.getD []
      let p ← parsePort scheme (portText.takeWhile (· ≠ '\\'))
      return (⟨username, password, h, p⟩, portText.dropWhile (· ≠ '\\') ++ rest)

/-- The name and the password, before an `@`. -/
def credentialChars (a : Authority) : List Char :=
  if a.username.isEmpty && a.password.isEmpty then []
  else a.username ++ (if a.password.isEmpty then [] else ':' :: a.password) ++ ['@']

/-- The authority as it is written. -/
def chars (a : Authority) : List Char :=
  ['/', '/'] ++ a.credentialChars ++ a.host.chars ++
    match a.port with
    | some n => ':' :: Nat.toDigits 10 n
    | none => []

end Authority

end ApiGateway.Url
