/-
Cutting texts at a character.

* `splitAt` - the parts between the occurrences of a character; there is always at least one.
* `splitOnce?` - the parts before and after the first occurrence.
-/

namespace ApiGateway.Text

/-- The parts of a text between the occurrences of a character. -/
def splitAt (sep : Char) : List Char → List (List Char)
  | [] => [[]]
  | c :: cs =>
    if c = sep then [] :: splitAt sep cs
    else match splitAt sep cs with
      | part :: parts => (c :: part) :: parts
      | [] => [[c]]

/-- The parts before and after the first occurrence of a character. -/
def splitOnce? (sep : Char) : List Char → Option (List Char × List Char)
  | [] => none
  | c :: cs => if c = sep then some ([], cs)
      else (splitOnce? sep cs).map fun (before, after) => (c :: before, after)

end ApiGateway.Text
