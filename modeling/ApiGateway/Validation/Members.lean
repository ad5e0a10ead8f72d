import ApiGateway.Schema.Member
import ApiGateway.Validation.Violation
import ApiGateway.Text.Blank

/-
The rules for members: a known type that is no nested array, and length bounds that agree and
concern something with a length.
-/

namespace ApiGateway

/-- The names that a member's type may have: the builtin ones and those of declared types. -/
def knownTypes (types : List DataType) : List String :=
  builtinTypes ++ (types.map (·.name)).filter (· ≠ "")

namespace Member

variable (known : List String)

/-- The violations of the rules on a member's type. -/
def typeViolations (m : Member) (path : String) : List Violation :=
  (match m.type.baseName? with
    | none => [⟨path, "malformed type (expected a type name or a one-element list)"⟩]
    | some name => Violation.of (!known.contains name) path ("unknown type '" ++ name ++ "'")) ++
  Violation.of m.type.isNestedArray path "nested arrays are not supported"

/-- Texts and arrays have a length. -/
def hasLength (m : Member) : Bool := m.type.isArray || m.type.baseName? == some "string"

/-- The least length exceeds the greatest. -/
def boundsCross (m : Member) : Bool :=
  m.minLength.any fun least => m.maxLength.any fun greatest => greatest < least

/-- The exact length lies outside the bounds. -/
def lengthOutside (m : Member) : Bool :=
  m.length.any fun n => m.minLength.any (n < ·) || m.maxLength.any (· < n)

def lengthViolations (m : Member) (path : String) : List Violation :=
  if m.hasLengthBounds then
    Violation.of (!m.hasLength) path "length constraints only apply to strings and arrays" ++
    Violation.of m.boundsCross (path ++ ".minLength") "must not exceed maxLength" ++
    Violation.of m.lengthOutside (path ++ ".length") "conflicts with minLength/maxLength"
  else []

def violations (m : Member) (path : String) : List Violation :=
  m.typeViolations known (path ++ ".type") ++ m.lengthViolations path

end Member

namespace Members

/-- The violations in a group of members, of which none has a blank name. -/
def violations (known : List String) (ms : Members) (path : String) : List Violation :=
  ms.flatMap fun (name, m) =>
    if Text.isBlankText name then [⟨path, "member name must not be empty"⟩]
    else m.violations known (path ++ "." ++ name)

end Members

end ApiGateway
