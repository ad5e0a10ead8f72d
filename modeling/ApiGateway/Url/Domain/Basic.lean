import ApiGateway.Url.Domain.Label

/-
Domain names in ASCII.

Characters are replaced by those that a domain holds, letters and accents are composed, and a label
with characters outside ASCII is written by its basic characters and the differences of the others.

* `Domain.toAscii?` - the ASCII form of a domain; `none` when it has none.
-/

namespace ApiGateway.Url.Domain

/-- The labels of a text without ASCII points. Some characters are replaced by points. -/
def labels? (cs : List Char) : Option (List Label) := do
  let text := Text.compose (← cs.mapM replacement?).flatten
  if text.any isForbidden then none else (Text.splitAt '.' text).mapM Label.ofText?

/-- The ASCII form of a domain. If it has a label written from right to left, all its labels are
ordered. -/
def toAscii? (domain : List Char) : Option (List Char) := do
  let labels := (← (Text.splitAt '.' domain).mapM labels?).flatten
  if labels.any (·.text.any isRightToLeft) && !labels.all (isOrdered ·.text) then none
  else some (['.'].intercalate (labels.map (·.written)))

end ApiGateway.Url.Domain
