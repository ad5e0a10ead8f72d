/-
Names in ascending order, without repetition.
-/

namespace ApiGateway.Text

/-- Puts a name into an ascending list without repetition. -/
def insertName (name : String) : List String → List String
  | [] => [name]
  | n :: ns => if name < n then name :: n :: ns else if name = n then n :: ns
      else n :: insertName name ns

/-- Names in ascending order, each once. -/
def sortNames (names : List String) : List String := names.foldr insertName []

end ApiGateway.Text
