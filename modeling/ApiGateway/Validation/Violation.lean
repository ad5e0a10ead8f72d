/-
Violations: places in a document with what is wrong there.
-/

namespace ApiGateway

structure Violation where
  path : String
  message : String
deriving DecidableEq, Repr

namespace Violation

/-- The violation as a line. -/
def line (v : Violation) : String := v.path ++ ": " ++ v.message

/-- A violation where a fault is, nothing where none is. -/
def of (fault : Bool) (path message : String) : List Violation :=
  if fault then [⟨path, message⟩] else []

end Violation

/-- The path of an item of a list. -/
def itemPath (path : String) (index : Nat) : String := path ++ "[" ++ toString index ++ "]"

end ApiGateway
