import ApiGateway.Url.Percent
import ApiGateway.Text.Split

/-
The paths of urls.

* `Path` - segments, each after a slash, or a text that is no path.
* `parseSegments` - the segments of a text, its dots carried out. A drive, such as `C:`, is never
  left by going up.
* `FilePath` - the path of a file, which may stand on a drive.
* `Path.chars` - the path as it is written.
-/

namespace ApiGateway.Url

inductive Path where
  /-- The segments of a path, each after a slash. -/
  | segments (list : List (List Char))
  /-- A text that is no path. -/
  | opaqueText (text : List Char)

/-! ### Segments with a meaning -/

/-- A segment that stands for the same place. -/
def isSingleDot (cs : List Char) : Bool :=
  [".", "%2e"].contains (String.ofList (cs.map Char.toLower))

/-- A segment that stands for the place above. -/
def isDoubleDot (cs : List Char) : Bool :=
  ["..", "%2e.", ".%2e", "%2e%2e"].contains (String.ofList (cs.map Char.toLower))

/-- The marks after the letter of a drive. -/
def isDriveMark (c : Char) : Bool := c == ':' || c == '|'

/-- A segment that is a drive. -/
def isDrive : List Char → Bool
  | [letter, mark] => letter.isAlpha && isDriveMark mark
  | _ => false

/-- A segment that is not left by going up: a drive, alone or before a backslash. -/
def isRoot (cs : List Char) : Bool :=
  isDrive (cs.take 2) && (cs.drop 2).head?.all (· == '\\')

/-! ### Following segments

A path is kept with its last segment first while its segments are followed. -/

/-- The place above a path. -/
def above : List (List Char) → List (List Char)
  | [] => []
  | segment :: path => if isRoot segment then segment :: path else path

/-- Follows one segment; a path whose last segment is dots ends in a slash. -/
def followSegment (path : List (List Char)) (segment : List Char) (last : Bool) :
    List (List Char) :=
  let ending := if last then [[]] else []
  if isDoubleDot segment then ending ++ above path
  else if isSingleDot segment then ending ++ path
  else encodeChars .path segment :: path

/-- Follows segments from a path. -/
def follow (path : List (List Char)) : List (List Char) → List (List Char)
  | [] => path
  | segment :: more => follow (followSegment path segment more.isEmpty) more

/-- The segments of a text between slashes. -/
def splitPath (special : Bool) (cs : List Char) : List (List Char) :=
  Text.splitAt '/' (if special then cs.map fun c => if c == '\\' then '/' else c else cs)

/-- The segments of a text after its first slash. -/
def parseSegments (special : Bool) (cs : List Char) : List (List Char) :=
  (follow [] (splitPath special cs)).reverse

/-- The text without a slash at its front. -/
def afterSlash (special : Bool) : List Char → List Char
  | '/' :: cs => cs
  | '\\' :: cs => if special then cs else '\\' :: cs
  | cs => cs

/-- The path after an authority. Where the scheme has no meaning of its own it may be empty. -/
def pathAfterAuthority (special : Bool) (cs : List Char) : Path :=
  if cs.isEmpty && !special then .segments []
  else .segments (parseSegments special (afterSlash special cs))

/-! ### Paths of files -/

/-- Tabs and line breaks, which are no part of a url. -/
def isBreak (c : Char) : Bool := c == '\t' || c == '\n' || c == '\r'

/-- A text without tabs and line breaks. -/
def withoutBreaks (cs : List Char) : List Char := cs.filter (!isBreak ·)

/-- The path of a file. -/
structure FilePath where
  /-- The segments, the last one first. -/
  path : List (List Char)
  /-- A drive stands at the front, so that no host does. -/
  hasDrive : Bool

/-- The drive at the front of a segment, where a tab or line break ends it, and what follows. -/
def cutDrive? (segment : List Char) : Option (List Char × List Char) :=
  match segment.dropWhile isBreak with
  | letter :: rest =>
    match rest.dropWhile isBreak with
    | ':' :: rest =>
      let more := withoutBreaks rest
      if letter.isAlpha && rest.head?.any isBreak && !more.isEmpty then some ([letter, ':'], more)
      else none
    | _ => none
  | [] => none

namespace FilePath

/-- Follows one segment. The first one may be a drive, whose mark is a colon thereafter. -/
def followSegment (p : FilePath) (segment : List Char) (last : Bool) : FilePath :=
  let text := withoutBreaks segment
  if !p.path.isEmpty then { p with path := Url.followSegment p.path text last }
  else match cutDrive? segment with
    | some (drive, more) => { p with path := [encodeChars .path more, drive] }
    | none =>
      if isDrive text then ⟨[text.take 1 ++ [':']], true⟩
      else { p with path := Url.followSegment [] text last }

/-- Follows segments from a path. -/
def follow (p : FilePath) : List (List Char) → FilePath
  | [] => p
  | segment :: more => follow (p.followSegment segment more.isEmpty) more

/-- The path of a text. -/
def parse (cs : List Char) : FilePath := follow ⟨[], false⟩ (splitPath true cs)

/-- The segments; empty ones at the front are left out. -/
def segments (p : FilePath) : List (List Char) :=
  match p.path.reverse.dropWhile List.isEmpty with
  | [] => [[]]
  | list => list

end FilePath

/-! ### As text -/

/-- The path as it is written; one that could be taken for an authority has a point before it. -/
def Path.chars (hasAuthority : Bool) : Path → List Char
  | .opaqueText text => text
  | .segments list =>
    let ambiguous := !hasAuthority && 1 < list.length && list.head? == some []
    (if ambiguous then ['/', '.'] else []) ++ list.flatMap ('/' :: ·)

end ApiGateway.Url
