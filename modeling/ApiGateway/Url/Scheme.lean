/-
The schemes of urls.

* `scheme?` - the scheme at the front of a text.
* `isSpecial`, `defaultPort?` - the schemes with a meaning of their own, and their ports.
-/

namespace ApiGateway.Url

/-- The port of a scheme with a meaning of its own. -/
def defaultPort? (scheme : List Char) : Option Nat :=
  match String.ofList scheme with
  | "http" => some 80
  | "https" => some 443
  | "ws" => some 80
  | "wss" => some 443
  | "ftp" => some 21
  | _ => none

def isFile (scheme : List Char) : Bool := scheme == ['f', 'i', 'l', 'e']

/-- A scheme with a meaning of its own, which always has a host and a path. -/
def isSpecial (scheme : List Char) : Bool := isFile scheme || (defaultPort? scheme).isSome

/-- The scheme of a text in small letters, and the text after its colon. -/
def scheme? (cs : List Char) : Option (List Char × List Char) :=
  let isSchemeChar (c : Char) := c.isAlphanum || c == '+' || c == '-' || c == '.'
  match cs.head?.any Char.isAlpha, cs.dropWhile isSchemeChar with
  | true, ':' :: rest => some ((cs.takeWhile isSchemeChar).map Char.toLower, rest)
  | _, _ => none

end ApiGateway.Url
