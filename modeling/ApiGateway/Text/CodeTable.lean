import ApiGateway.Text.Split

/-
Tables of what characters are and stand for.

A table is a text of words. The word `5be=R` tells the value of one character by its number in base
sixteen, `590-5ff=R` that of a range, `100-12e/2=101` that of every second character of a range, and
a word without `=` only names its characters.

* `CodeRow`, `CodeTable` - one word, and all of them.
* `CodeTable.parse` - the table of a text.
* `CodeTable.find?`, `CodeTable.contains` - what a table tells of a character.
-/

namespace ApiGateway.Text

/-- What a table tells of a range of characters. -/
structure CodeRow (α : Type) where
  first : Nat
  last : Nat
  /-- The distance between the characters of the range. -/
  step : Nat
  value : α

abbrev CodeTable (α : Type) := List (CodeRow α)

/-- The number with these digits in base sixteen. -/
def hexNumber (cs : List Char) : Nat :=
  cs.foldl (fun n c => 16 * n + if c.isDigit then c.toNat - 48 else c.toNat - 87) 0

namespace CodeRow

/-- The row is about a character. -/
def covers (r : CodeRow α) (c : Char) : Bool :=
  r.first ≤ c.toNat && c.toNat ≤ r.last && (c.toNat - r.first) % r.step == 0

/-- The row of a word. -/
def parse (read : Option (List Char) → α) (word : List Char) : CodeRow α :=
  let (range, value) := match splitOnce? '=' word with
    | some (range, value) => (range, some value)
    | none => (word, none)
  let (range, step) := match splitOnce? '/' range with
    | some (range, step) => (range, hexNumber step)
    | none => (range, 1)
  match splitOnce? '-' range with
  | some (first, last) => ⟨hexNumber first, hexNumber last, step, read value⟩
  | none => ⟨hexNumber range, hexNumber range, step, read value⟩

end CodeRow

namespace CodeTable

/-- The table of a text; `read` tells the value of what stands after the `=` of a word. -/
def parse (read : Option (List Char) → α) (text : String) : CodeTable α :=
  (text.splitOn "\n").flatMap fun line =>
    (splitAt ' ' line.toList).map (CodeRow.parse read)

/-- The row about a character. -/
def find? (t : CodeTable α) (c : Char) : Option (CodeRow α) := List.find? (·.covers c) t

/-- The table is about a character. -/
def contains (t : CodeTable α) (c : Char) : Bool := t.any (·.covers c)

end CodeTable

/-- The numbers of a value such as `41.300`. -/
def hexNumbers (value : List Char) : List Nat :=
  if value.isEmpty then [] else (splitAt '.' value).map hexNumber

end ApiGateway.Text
