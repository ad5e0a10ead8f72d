import ApiGateway.Text.Composition
import ApiGateway.Text.Direction
import ApiGateway.Text.Joining
import ApiGateway.Text.Marks
import ApiGateway.Url.Domain.Replacements
import ApiGateway.Url.Punycode

/-
The labels of domains.

* `Label` - a label as it is read and as it is written in ASCII.
* `Label.ofText?` - the label of a text whose characters are replaced already.
* `Label.isOrdered` - a label can be read where some label is written from right to left.
-/

namespace ApiGateway.Url.Domain

open Text (Direction direction joining? isMark combiningClass viramaClass)

/-- A character that a label does not hold: blanks, control characters and those that have a meaning
elsewhere in a url. -/
def isForbidden (c : Char) : Bool :=
  c.toNat ≤ 0x20 || c.toNat == 0x7F ||
    ['%', '#', '/', ':', '<', '>', '?', '@', '[', '\\', ']', '^', '|'].contains c

def isAscii (cs : List Char) : Bool := cs.all (·.toNat < 0x80)

/-! ### Joiners -/

/-- Letters around a non-joiner that would connect: the nearest on either side, transparent ones
apart. -/
def wouldJoin (before after : List Char) : Bool :=
  let next (cs : List Char) := (cs.dropWhile (joining? · == some .transparent)).head?.bind joining?
  (next before == some .after || next before == some .bothSides) &&
    (next after == some .before || next after == some .bothSides)

/-- Joiners stand where they are seen: behind a letter that lost its vowel, and non-joiners also
between letters that would connect. `before` is the text in front, the last character first. -/
def joinersFit (before : List Char) : List Char → Bool
  | [] => true
  | c :: cs =>
    let afterVirama := before.head?.any (combiningClass · == viramaClass)
    (match c.toNat with
      | 0x200C => afterVirama || wouldJoin before cs
      | 0x200D => afterVirama
      | _ => true) && joinersFit (c :: before) cs

/-! ### Directions -/

/-- The character belongs to a text that is written from right to left. -/
def isRightToLeft (c : Char) : Bool :=
  [Direction.rightToLeft, .arabicLetter, .arabicNumber].contains (direction c)

/-- A label written from left to right: it ends in a letter or number and holds nothing of the other
direction. -/
def isOrderedLeft (directions : List Direction) (last : Direction) : Bool :=
  [Direction.leftToRight, .europeanNumber].contains last &&
    directions.all [Direction.leftToRight, .europeanNumber, .europeanSeparator, .commonSeparator,
      .europeanTerminator, .otherNeutral, .boundaryNeutral, .nonspacingMark].contains

/-- A label written from right to left: it ends in a letter or number, and its numbers are of one
kind. -/
def isOrderedRight (directions : List Direction) (last : Direction) : Bool :=
  [Direction.rightToLeft, .arabicLetter, .europeanNumber, .arabicNumber].contains last &&
    directions.all [Direction.rightToLeft, .arabicLetter, .arabicNumber, .europeanNumber,
      .europeanSeparator, .commonSeparator, .europeanTerminator, .otherNeutral, .boundaryNeutral,
      .nonspacingMark].contains &&
    !(directions.contains .europeanNumber && directions.contains .arabicNumber)

/-- The text can be read where both directions occur. -/
def isOrdered (text : List Char) : Bool :=
  let directions := text.map direction
  match directions, directions.reverse.dropWhile (· == .nonspacingMark) with
  | .leftToRight :: _, last :: _ => isOrderedLeft directions last
  | .rightToLeft :: _, last :: _ => isOrderedRight directions last
  | .arabicLetter :: _, last :: _ => isOrderedRight directions last
  | [], _ => true
  | _, _ => false

/-! ### Labels -/

/-- A label of a domain. -/
structure Label where
  /-- The label as it is read. -/
  text : List Char
  /-- The label in ASCII. -/
  written : List Char

/-- The mark of a label that is written by its differences. -/
def encodedMark : List Char := ['x', 'n', '-', '-']

/-- A text outside ASCII that a label may hold; it is no longer than a thousand characters. -/
def isSound (text : List Char) : Bool :=
  !text.head?.any isMark && joinersFit [] text && text.length ≤ 1000

/-- The text of an encoded label without its mark. It is in the form in which it would be without
encoding. -/
def decode? (cs : List Char) : Option (List Char) :=
  if !isAscii cs || cs.isEmpty || cs.getLast? == some '-' || 2000 < cs.length then none
  else do
    let text ← Punycode.decode? cs
    let isStable (c : Char) := replacement? c == some [c] && !isForbidden c && c ≠ '.'
    if text.all isStable && Text.compose text == text && isSound text then some text else none

namespace Label

/-- The label of a text whose characters are replaced already. -/
def ofText? (cs : List Char) : Option Label :=
  if encodedMark.isPrefixOf cs then (decode? (cs.drop 4)).map fun text => ⟨text, cs⟩
  else if isAscii cs then some ⟨cs, cs⟩
  else if isSound cs then some ⟨cs, encodedMark ++ Punycode.encode cs⟩
  else none

end Label

end ApiGateway.Url.Domain
