import ApiGateway.Validation.Document
import Mathlib.Data.List.DropRight
import Mathlib.Data.List.Infix

/-
Base urls and paths that are joined.

Of a base url the slashes at the end do not count, and of a path those at the start. What is left of
the two stands in the url with one slash between them, and with one in front if the base is neither
rooted nor has a scheme. Where nothing is left of the path, the url is what is left of the base; so
a base that is neither rooted nor has a scheme gets no slash in front there.

* `Text.isInfix_iff` - a text occurs in another.
* `Url.stem`, `Url.leaf` - a base url and a path without these slashes.
* `Url.Joined` - the url of a base and a path, `Url.Joined.rooted_iff` - when it has a slash in
  front.
* `joined_joinUrl` - how base urls and paths are joined.
-/

namespace ApiGateway

theorem Text.isInfix_iff {needle cs : List Char} :
    Text.isInfix needle cs = true ↔ needle <:+: cs := by
  induction cs with
  | nil => simp [isInfix]
  | cons c cs ih =>
    rw [isInfix, Bool.or_eq_true, List.isPrefixOf_iff_prefix, ih, List.infix_cons_iff]

namespace Url

/-- A base url without the slashes at its end. -/
def stem (base : String) : List Char := base.toList.rdropWhile (· == '/')

/-- A path without the slashes at its start. -/
def leaf (path : String) : List Char := path.toList.dropWhile (· == '/')

/-- A slash stands in front. -/
def Rooted (cs : List Char) : Prop := ['/'] <+: cs

/-- The mark behind a scheme stands somewhere. -/
def HasScheme (cs : List Char) : Prop := [':', '/', '/'] <:+: cs

/-- The url of a base and a path that have no slashes towards one another. -/
structure Joined (b p url : List Char) : Prop where
  root : b = [] → url = '/' :: p
  alone : b ≠ [] → p = [] → url = b
  absolute : b ≠ [] → p ≠ [] → Rooted b ∨ HasScheme b → url = b ++ '/' :: p
  relative : b ≠ [] → p ≠ [] → ¬(Rooted b ∨ HasScheme b) → url = '/' :: b ++ '/' :: p

variable {b p url : List Char}

theorem rooted_iff {cs : List Char} : Rooted cs ↔ cs.head? = some '/' := by
  cases cs with
  | nil => simp [Rooted]
  | cons c cs => simp [Rooted, eq_comm]

theorem stem_unslashed (base : String) : ¬['/'] <:+ stem base := by
  rintro ⟨front, whole⟩
  have some : stem base ≠ [] := by simp [← whole]
  have last := List.rdropWhile_last_not (· == '/') base.toList some
  have slash : (stem base).getLast? = Option.some '/' := by rw [← whole, List.getLast?_concat]
  rw [List.getLast?_eq_some_getLast some, Option.some_inj] at slash
  exact last (beq_iff_eq.mpr slash)

theorem leaf_unslashed (path : String) : ¬Rooted (leaf path) := by
  rw [rooted_iff]
  intro slash
  have first := List.head?_dropWhile_not (· == '/') path.toList
  rw [leaf] at slash
  simp [slash] at first

theorem joined_stem_leaf (base path : String) :
    Joined (stem base) (leaf path) (joinUrl base path).toList := by
  have absolute : ((stem base).head? == some '/' || Text.isInfix [':', '/', '/'] (stem base)) =
      true ↔ Rooted (stem base) ∨ HasScheme (stem base) := by
    rw [Bool.or_eq_true, beq_iff_eq, Text.isInfix_iff, rooted_iff, HasScheme]
  have front : (base.toList.reverse.dropWhile (· == '/')).reverse = stem base := rfl
  have behind : path.toList.dropWhile (· == '/') = leaf path := rfl
  unfold joinUrl
  rw [front, behind, String.toList_ofList]
  constructor
  · intro base
    by_cases path : leaf path = [] <;> simp [base, path]
  · intro base path
    simp [base, path]
  · intro base path rooted
    simp [base, path, absolute.mpr rooted]
  · intro base path relative
    have relative := mt absolute.mp relative
    simp only [List.isEmpty_iff, base, path, if_false]
    rw [if_neg relative]

theorem Joined.unique {url' : List Char} (joined : Joined b p url) (joined' : Joined b p url') :
    url = url' := by
  by_cases base : b = []
  · rw [joined.root base, joined'.root base]
  · by_cases path : p = []
    · rw [joined.alone base path, joined'.alone base path]
    · by_cases absolute : Rooted b ∨ HasScheme b
      · rw [joined.absolute base path absolute, joined'.absolute base path absolute]
      · rw [joined.relative base path absolute, joined'.relative base path absolute]

/-- No slash stands in front of a base that has a scheme, nor of one that is alone and not
rooted. -/
theorem Joined.rooted_iff (joined : Joined b p url) :
    Rooted url ↔ b = [] ∨ Rooted b ∨ p ≠ [] ∧ ¬HasScheme b := by
  by_cases base : b = []
  · simp [joined.root base, base, Rooted]
  · by_cases path : p = []
    · simp [joined.alone base path, base, path]
    · by_cases absolute : Rooted b ∨ HasScheme b
      · have front : Rooted url ↔ Rooted b := by
          rw [joined.absolute base path absolute, Url.rooted_iff, Url.rooted_iff,
            List.head?_append_of_ne_nil _ base]
        simp only [front, base, path, false_or, true_and, not_false_eq_true, ne_eq]
        tauto
      · obtain ⟨-, unschemed⟩ := not_or.mp absolute
        have rooted : Rooted url := by
          rw [joined.relative base path absolute]
          exact ⟨_, rfl⟩
        exact iff_of_true rooted (.inr (.inr ⟨path, unschemed⟩))

end Url

open Url (Joined Rooted HasScheme stem leaf)

/-- **A base and a path are joined by one slash**, however many they had towards one another. -/
theorem joined_joinUrl (base path : String) :
    (∀ base' path', stem base' = stem base → leaf path' = leaf path →
      joinUrl base' path' = joinUrl base path) ∧
    (Rooted (joinUrl base path).toList ↔
      stem base = [] ∨ Rooted (stem base) ∨ leaf path ≠ [] ∧ ¬HasScheme (stem base)) ∧
    Joined (stem base) (leaf path) (joinUrl base path).toList ∧
    ¬['/'] <:+ stem base ∧ ¬Rooted (leaf path) := by
  have joined := Url.joined_stem_leaf base path
  refine ⟨fun base' path' sameBase samePath => ?_, joined.rooted_iff, joined,
    Url.stem_unslashed base, Url.leaf_unslashed path⟩
  have joined' := Url.joined_stem_leaf base' path'
  rw [sameBase, samePath] at joined'
  exact String.toList_inj.mp (joined'.unique joined)

/-- The slashes between the base and the path do not count, and the base gets one in front. -/
theorem joined_joinUrl_users : stem "api//" = stem "api" ∧ leaf "//users" = leaf "users" ∧
    joinUrl "api//" "//users" = joinUrl "api" "users" ∧
    (joinUrl "api" "users").toList = '/' :: "api".toList ++ '/' :: "users".toList := by
  have base : stem "api//" = stem "api" := by decide
  have path : leaf "//users" = leaf "users" := by decide
  obtain ⟨same, -, joined, -⟩ := joined_joinUrl "api" "users"
  refine ⟨base, path, same "api//" "//users" base path, joined.relative (by decide) (by decide) ?_⟩
  rw [HasScheme, ← Text.isInfix_iff, Url.rooted_iff]
  decide

/-- The index of an API whose base url is not rooted. -/
def index : Document where
  version := "1"
  baseUrl := "api"
  endpoints := [{ url := "/", returns := [("204", { type := some "nocontent" })] }]

/-- A valid document may have a route without a slash in front, and without a scheme. -/
theorem not_rooted_index : index.validate = .ok () ∧
    index.endpoints.map (·.route? index.baseUrl) = [some (.get, "api")] ∧
    ¬HasScheme (stem "api") ∧ ¬Rooted (joinUrl "api" "/").toList := by
  refine ⟨rfl, rfl, ?_, ?_⟩
  · rw [HasScheme, ← Text.isInfix_iff]
    decide
  · rw [Url.rooted_iff]
    decide

end ApiGateway
