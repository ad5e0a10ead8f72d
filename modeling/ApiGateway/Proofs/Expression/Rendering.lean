import ApiGateway.Proofs.Double.Integers
import ApiGateway.Proofs.Expression.Grammar
import ApiGateway.Proofs.Json.Writing

/-
Integers in templates.

An integer takes 64 bits, with a sign or without. The verbs for texts and values write it as it is;
that for decimals cuts it to the integers with a sign, so that all larger ones are written alike.

* `Template.fill_append` - the parts of a template are filled one after another.
* `Verb.shown` - the integer that a verb writes the digits of; `Verb.write_int` - it does.
* `FieldExpr.combine_integers` - what stands in the place of a placeholder for an integer, and when
  two integers make the same text.
-/

namespace ApiGateway

theorem Template.fill_append {before after : List Segment} {xs ys : List Json}
    (place : xs.length = before.countP Segment.isPlaceholder) :
    fill (before ++ after) (xs ++ ys) = fill before xs ++ fill after ys := by
  induction before generalizing xs with
  | nil =>
    obtain rfl : xs = [] := List.length_eq_zero_iff.mp place
    rfl
  | cons s before ih =>
    cases s with
    | literal text =>
      rw [List.countP_cons_of_neg (by simp)] at place
      simp [fill, ih place]
    | placeholder verb =>
      rw [List.countP_cons_of_pos (by simp)] at place
      obtain ⟨x, xs, rfl⟩ := List.exists_cons_of_length_eq_add_one place
      simp [fill, ih (Nat.succ.inj place)]

namespace Verb

variable {n : Int} {verb : Verb}

/-- The integer that a verb writes: a decimal is at most the greatest integer with a sign. -/
def shown : Verb → Int → Int
  | .decimal, n => min n 0x7FFFFFFFFFFFFFFF
  | _, n => n

theorem integerPart_int (fits : Json.Number.Fits n) :
    integerPart (.int n) = min n 0x7FFFFFFFFFFFFFFF := by
  obtain ⟨low, high⟩ := fits.bounds
  by_cases signed : n < 0x8000000000000000
  · have word : Json.Number.inSigned64 n = true := by simp [Json.Number.inSigned64, low, signed]
    simp only [integerPart, Json.Number.signed64?, word, if_true]
    omega
  · have word : Json.Number.inSigned64 n = false := by simp [Json.Number.inSigned64, signed]
    have rounded := Double.le_truncate_ofInt (i := n) (by omega) (by omega)
    simp only [integerPart, Json.Number.signed64?, word, Json.Number.toDouble, clampSigned64]
    simp
    omega

theorem write_int (digits : verb ≠ .fixed) (fits : Json.Number.Fits n) :
    verb.write (.number (.int n)) = Json.intChars (verb.shown n) := by
  cases verb with
  | string => simp [write, shown, Json.chars, Json.Number.chars]
  | value => simp [write, shown, Json.chars, Json.Number.chars]
  | decimal => rw [write, integerPart_int fits, shown]
  | fixed => exact absurd rfl digits

theorem shown_fits (verb : Verb) (fits : Json.Number.Fits n) : Json.Number.Fits (verb.shown n) := by
  cases verb with
  | decimal =>
    obtain ⟨low, -⟩ := fits.bounds
    refine .inl ?_
    simp only [Json.Number.inSigned64, Bool.and_eq_true, decide_eq_true_eq]
    simp only [shown]
    omega
  | _ => exact fits

end Verb

namespace FieldExpr

/-- An integer is written in the place of its placeholder, between what is before and behind it.
Two integers make the same text if and only if the verb shows the same of them. -/
theorem combine_integers {e : FieldExpr} {t : Template} {before after : List Segment} {verb : Verb}
    (xs ys : List Json) {n m : Int} (template : e.template = some t)
    (cut : t.segments = before ++ .placeholder verb :: after)
    (place : xs.length = before.countP Segment.isPlaceholder) (digits : verb ≠ .fixed)
    (hn : Json.Number.Fits n) (hm : Json.Number.Fits m) :
    e.combine (xs ++ .number (.int n) :: ys) = .string (String.ofList
      (Template.fill before xs ++ Json.intChars (verb.shown n) ++ Template.fill after ys)) ∧
    (e.combine (xs ++ .number (.int n) :: ys) = e.combine (xs ++ .number (.int m) :: ys) ↔
      verb.shown n = verb.shown m) := by
  have filled : ∀ i, Json.Number.Fits i → e.combine (xs ++ .number (.int i) :: ys) =
      .string (String.ofList (Template.fill before xs ++ Json.intChars (verb.shown i) ++
        Template.fill after ys)) := by
    intro i fits
    rw [combine, template]
    simp only [Template.render, cut, Template.fill_append place, Template.fill,
      Verb.write_int digits fits, List.append_assoc]
  refine ⟨filled n hn, ?_⟩
  rw [filled n hn, filled m hm, ← Json.intChars_inj (verb.shown_fits hn) (verb.shown_fits hm)]
  simp [String.ofList_inj]

/-- A number behind a name. -/
def ticket : FieldExpr :=
  ⟨[.reply "user" "name", .param "id"],
    some ⟨"%s #%d", [.placeholder .string, .literal " #", .placeholder .decimal]⟩⟩

/-- The least and the greatest integer that need all 64 bits are written alike. -/
theorem combine_integers_ticket :
    parse "user.name|id|%s #%d" = .ok ticket ∧
    ticket.combine [.string "bob", .number (.int 9223372036854775808)] =
      .string "bob #9223372036854775807" ∧
    ticket.combine [.string "bob", .number (.int 9223372036854775808)] =
      ticket.combine [.string "bob", .number (.int 18446744073709551615)] := by
  have cut : [.placeholder .string, .literal " #", .placeholder .decimal] =
    [Segment.placeholder .string, .literal " #"] ++ .placeholder Verb.decimal :: [] := rfl
  have least : Json.Number.Fits 9223372036854775808 := by decide
  have greatest : Json.Number.Fits 18446744073709551615 := by decide
  obtain ⟨text, alike⟩ :=
    combine_integers (e := ticket) [.string "bob"] [] rfl cut rfl nofun least greatest
  exact ⟨rfl, text, alike.mpr (by decide)⟩

/-- The integers that need all 64 bits are not written with their own digits. -/
theorem not_exact_ticket : parse "user.name|id|%s #%d" = .ok ticket ∧
    ¬ ∀ n, Json.Number.Fits n → ticket.combine [.string "bob", .number (.int n)] =
      .string (String.ofList ("bob #".toList ++ Json.intChars n)) := by
  refine ⟨rfl, fun exact => ?_⟩
  have shown : ticket.combine [.string "bob", .number (.int 9223372036854775808)] =
    .string "bob #9223372036854775807" := rfl
  have digits := exact 9223372036854775808 (by decide)
  rw [shown, Json.string.injEq] at digits
  exact absurd digits (by decide)

end FieldExpr

end ApiGateway
