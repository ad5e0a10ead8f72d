import ApiGateway.Url.Authority
import ApiGateway.Url.Path

/-
Urls, in the form in which requests are sent.

* `Url` - a scheme, an authority, a path, a query and a fragment, each as it is written.
* `Url.parse` - the url of a text, brought into that form.
* `Url.text` - the url as it is written.
-/

namespace ApiGateway

open Url (Host UrlError Part encodeChars)

structure Url where
  scheme : List Char
  authority : Option Url.Authority
  path : Url.Path
  query : Option (List Char)
  fragment : Option (List Char)

namespace Url

/-! ### Queries and fragments -/

/-- The text up to a query or fragment, and the rest. -/
def spanPath (cs : List Char) : List Char × List Char :=
  (cs.takeWhile fun c => c ≠ '?' && c ≠ '#', cs.dropWhile fun c => c ≠ '?' && c ≠ '#')

/-- The query and fragment of the rest of a text. -/
def queryAndFragment (special : Bool) (cs : List Char) : Option (List Char) × Option (List Char) :=
  let part := if special then Part.specialQuery else Part.query
  match cs with
  | '?' :: rest =>
    (some (encodeChars part (rest.takeWhile (· ≠ '#'))),
      match rest.dropWhile (· ≠ '#') with
      | '#' :: f => some (encodeChars .fragment f)
      | _ => none)
  | '#' :: rest => (none, some (encodeChars .fragment rest))
  | _ => (none, none)

/-! ### Urls -/

def isSlash (c : Char) : Bool := c == '/' || c == '\\'

/-- The text without control characters and blanks at its ends. -/
def trimEdges (cs : List Char) : List Char :=
  let isEdge (c : Char) := c.toNat ≤ 0x20
  ((cs.dropWhile isEdge).reverse.dropWhile isEdge).reverse

/-- The url of a scheme and an authority at the front of a text. -/
def withAuthority (scheme cs : List Char) : Except UrlError Url := do
  let (a, rest) ← Authority.parse scheme cs
  let (pathText, rest) := spanPath rest
  let (query, fragment) := queryAndFragment (isSpecial scheme) rest
  return ⟨scheme, some a, pathAfterAuthority (isSpecial scheme) pathText, query, fragment⟩

/-- The text after two slashes, which a host follows. -/
def afterDoubleSlash? (cs : List Char) : Option (List Char) :=
  match cs.dropWhile isBreak with
  | a :: rest =>
    match rest.dropWhile isBreak with
    | b :: rest => if isSlash a && isSlash b then some rest else none
    | [] => none
  | [] => none

/-- The text without a slash at its front. -/
def afterFirstSlash (cs : List Char) : List Char := afterSlash true (cs.dropWhile isBreak)

/-- The host of a file at the front of a text, and the text of its path. A host may be left out, and
the own host is; a drive is no host. Without a host the slash at the front of the path stays, so that
no drive is its first segment. -/
def fileHost (cs : List Char) : Except UrlError (Host × List Char) := do
  let (text, rest) := spanAuthority true cs
  let text := withoutBreaks text
  if isDrive text then return (.domain [], cs)
  else if text.isEmpty then return (.domain [], rest)
  else
    let h ← Host.parse text
    return if h == .domain "localhost".toList then (.domain [], rest) else (h, afterFirstSlash rest)

/-- The url of a file. A path that stands on a drive has no host. -/
def ofFile (scheme cs : List Char) : Except UrlError Url := do
  let (h, rest) ← match afterDoubleSlash? cs with
    | some rest => fileHost rest
    | none => pure (.domain [], afterFirstSlash cs)
  let (pathText, rest) := spanPath rest
  let p := FilePath.parse pathText
  let (query, fragment) := queryAndFragment true (withoutBreaks rest)
  let h := if p.hasDrive then .domain [] else h
  return ⟨scheme, some ⟨[], [], h, none⟩, .segments p.segments, query, fragment⟩

/-- The url of a scheme without an authority. -/
def withoutAuthority (scheme cs : List Char) : Url :=
  let (pathText, rest) := spanPath cs
  let (query, fragment) := queryAndFragment false rest
  let path := match pathText with
    | '/' :: cs => Path.segments (parseSegments false cs)
    | cs => .opaqueText (encodeChars .control cs)
  ⟨scheme, none, path, query, fragment⟩

/-- The url of a text. Tabs and line breaks have no meaning except in the path of a file. -/
def parse (text : String) : Except UrlError Url :=
  let cs := trimEdges text.toList
  match scheme? (withoutBreaks cs) with
  | none => .error .noScheme
  | some (scheme, rest) =>
    if isFile scheme then ofFile scheme ((cs.dropWhile (· ≠ ':')).drop 1)
    else if isSpecial scheme then withAuthority scheme (rest.dropWhile isSlash)
    else match rest with
      | '/' :: '/' :: rest => withAuthority scheme rest
      | rest => .ok (withoutAuthority scheme rest)

/-- The url as it is written. -/
def text (u : Url) : String :=
  String.ofList (u.scheme ++ ':' :: (u.authority.map Authority.chars).getD [] ++
    u.path.chars u.authority.isSome ++ (u.query.map ('?' :: ·)).getD [] ++
    (u.fragment.map ('#' :: ·)).getD [])

end Url

end ApiGateway
