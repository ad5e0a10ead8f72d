import ApiGateway.Proofs.Expression.Grammar

/-
What field expressions are filled with.

The text of a template is gone through once, from left to right, with one value for each of its
placeholders. What a value is written as is not looked at again, so that a percent sign or a bar in
it means nothing.

* `Template.Prints` - what a text comes to with values in the places of its verbs.
* `Template.prints_iff` - a template is filled with just that, and takes no other number of values.
* `FieldExpr.Sends` - what the text of an expression comes to, by the values of its references.
* `FieldExpr.sends_iff` - it is what the expression that is read from the text combines.
-/

namespace ApiGateway

namespace Template

/-- What a text comes to with values for its verbs, in order: a text stands as it is in the place of
its verb, any other value as the verb writes it, and a doubled percent sign stands for one. -/
inductive Prints : List Char → List Json → List Char → Prop where
  | nil : Prints [] [] []
  | plain {c : Char} {cs out : List Char} {xs : List Json} : c ≠ '%' → Prints cs xs out →
    Prints (c :: cs) xs (c :: out)
  | percent {cs out : List Char} {xs : List Json} : Prints cs xs out →
    Prints ('%' :: '%' :: cs) xs ('%' :: out)
  | text {cs out : List Char} {xs : List Json} (v : Verb) (s : String) : Prints cs xs out →
    Prints ('%' :: v.letter :: cs) (.string s :: xs) (s.toList ++ out)
  | value {cs out : List Char} {x : Json} {xs : List Json} (v : Verb) : (∀ s, x ≠ .string s) →
    Prints cs xs out → Prints ('%' :: v.letter :: cs) (x :: xs) (v.write x ++ out)

variable {cs out : List Char} {x : Json} {xs : List Json} {t : Template}

/-- A value of any kind stands in the place of its verb. -/
theorem Prints.verb (v : Verb) (x : Json) (h : Prints cs xs out) :
    Prints ('%' :: v.letter :: cs) (x :: xs) (v.write x ++ out) := by
  cases x with
  | string s =>
    have copied : v.write (.string s) = s.toList := by
      cases v <;> rfl
    rw [copied]
    exact .text v s h
  | _ => exact .value v nofun h

/-- A text that is a template comes to something with as many values as it has placeholders. -/
theorem Holds.exists_prints {n : Nat} (h : Holds cs n) (count : xs.length = n) :
    ∃ out, Prints cs xs out := by
  induction h generalizing xs with
  | nil =>
    obtain rfl : xs = [] := List.length_eq_zero_iff.mp count
    exact ⟨[], .nil⟩
  | plain other _ ih =>
    obtain ⟨out, prints⟩ := ih count
    exact ⟨_, .plain other prints⟩
  | percent _ ih =>
    obtain ⟨out, prints⟩ := ih count
    exact ⟨_, .percent prints⟩
  | verb v _ ih =>
    obtain ⟨x, xs, rfl⟩ := List.exists_cons_of_length_eq_add_one count
    obtain ⟨out, prints⟩ := ih (Nat.succ.inj count)
    exact ⟨_, prints.verb v x⟩

theorem fill_literal (pending : List Char) (segments : List Segment) (xs : List Json) :
    fill (literal pending ++ segments) xs = pending ++ fill segments xs := by
  unfold literal
  cases pending <;> simp [fill]

/-- What a text comes to is what fills the segments that are read from it, behind the literal that is
pending. -/
theorem Prints.scan (h : Prints cs xs out) (pending : List Char) :
    ∃ segments, Template.scan pending cs = .ok segments ∧
      segments.countP Segment.isPlaceholder = xs.length ∧ fill segments xs = pending ++ out := by
  induction h generalizing pending with
  | nil =>
    refine ⟨literal pending, by simp [Template.scan], by simp, ?_⟩
    simpa [fill] using fill_literal pending [] []
  | plain other _ ih =>
    rw [scan_plain other]
    obtain ⟨segments, read, count, filled⟩ := ih (pending ++ [_])
    exact ⟨segments, read, count, by simp [filled]⟩
  | percent _ ih =>
    rw [scan_percent]
    obtain ⟨segments, read, count, filled⟩ := ih (pending ++ ['%'])
    exact ⟨segments, read, count, by simp [filled]⟩
  | text v s _ ih =>
    obtain ⟨segments, read, count, filled⟩ := ih []
    rw [scan_verb, read]
    refine ⟨_, rfl, by simp [List.countP_cons, count], ?_⟩
    rw [fill_literal, fill, filled]
    cases v <;> rfl
  | value v _ _ ih =>
    obtain ⟨segments, read, count, filled⟩ := ih []
    rw [scan_verb, read]
    refine ⟨_, rfl, by simp [List.countP_cons, count], ?_⟩
    rw [fill_literal, fill, filled]
    rfl

/-- A template is filled with what its text comes to, and with as many values as it has
placeholders. -/
theorem prints_iff (read : parse cs = .ok t) :
    Prints cs xs out ↔ xs.length = t.arity ∧ fill t.segments xs = out := by
  have only : ∀ {out}, Prints cs xs out → xs.length = t.arity ∧ fill t.segments xs = out := by
    intro out prints
    obtain ⟨segments, scanned, count, filled⟩ := prints.scan []
    rw [parse, scanned] at read
    cases read
    exact ⟨by rw [arity_eq, count], filled⟩
  refine ⟨only, ?_⟩
  rintro ⟨count, rfl⟩
  obtain ⟨out, prints⟩ := (holds_of_parse read).exists_prints count
  rwa [(only prints).2]

end Template

namespace FieldExpr

/-- What the text of an expression comes to, where references have values: the value of its one
reference as it is, or what its template comes to with one value for each reference. -/
inductive Sends (value : FieldRef → Json → Prop) (text : String) : Json → Prop where
  | alone {part : List Char} {ref : FieldRef} {x : Json} : Cut text.toList [part] none →
    FieldRef.Reads part ref → value ref x → Sends value text x
  | filled {parts : List (List Char)} {last out : List Char} {refs : List FieldRef}
    {xs : List Json} : Cut text.toList parts (some last) → List.Forall₂ FieldRef.Reads parts refs →
    List.Forall₂ value refs xs → Template.Prints last xs out →
    Sends value text (.string (String.ofList out))

variable {value value' : FieldRef → Json → Prop} {text : String} {e : FieldExpr} {x : Json}
  {xs : List Json}

/-- References that have their values elsewhere too come to the same. -/
theorem Sends.mono (kept : ∀ ref x, value ref x → value' ref x) (h : Sends value text x) :
    Sends value' text x := by
  cases h with
  | alone cut reads own => exact .alone cut reads (kept _ _ own)
  | filled cut reads own prints => exact .filled cut reads (own.imp fun _ _ => kept _ _) prints

/-- An expression combines what its text comes to. -/
theorem sends_combine (read : parse text = .ok e) (own : List.Forall₂ value e.refs xs) :
    Sends value text (e.combine xs) := by
  obtain ⟨⟨-, ⟨parts, cut, reads⟩, -⟩, template⟩ := holds_of_parse read
  have arity := (holds_of_parse read).1.arity
  obtain ⟨refs, t?⟩ := e
  cases t? with
  | none =>
    cases cut with
    | one clean =>
      obtain ⟨ref, first, rfl⟩ : ∃ ref, FieldRef.Reads text.toList ref ∧ refs = [ref] := by
        simpa [List.forall₂_cons_left_iff] using reads
      obtain ⟨x, given, rfl⟩ : ∃ x, value ref x ∧ xs = [x] := by
        simpa [List.forall₂_cons_left_iff] using own
      exact .alone (.one clean) first given
  | some t =>
    have parsed := template t rfl
    have count : xs.length = t.arity := by
      rw [(arity _ rfl).arity_eq parsed, own.length_eq]
    exact .filled cut reads own ((Template.prints_iff parsed).mpr ⟨count, rfl⟩)

/-- What a text comes to is what its expression combines of one value for each reference. -/
theorem sends_iff (read : parse text = .ok e) :
    Sends value text x ↔ ∃ xs, List.Forall₂ value e.refs xs ∧ e.combine xs = x := by
  constructor
  · intro sends
    cases sends with
    | @alone part ref _ cut reads own =>
      have visible := (holds_of_parse read).1.visible
      rw [parse_one visible cut, FieldRef.parseAll_eq_ok_iff.mpr (.cons reads .nil)] at read
      cases read
      exact ⟨[x], .cons own .nil, rfl⟩
    | @filled parts last out refs xs cut reads own prints =>
      have visible := (holds_of_parse read).1.visible
      rw [parse_more visible cut, bind_eq_ok_iff] at read
      obtain ⟨t, parsed, rest⟩ := read
      rw [FieldRef.parseAll_eq_ok_iff.mpr reads] at rest
      obtain ⟨_, filled⟩ := (Template.prints_iff (mapError_eq_ok_iff.mp parsed)).mp prints
      obtain ⟨refs', same, rest⟩ := bind_eq_ok_iff.mp rest
      cases same
      split at rest
      · cases rest
        refine ⟨xs, own, ?_⟩
        rw [combine]
        dsimp only [Template.render]
        rw [filled]
      · cases rest
  · rintro ⟨xs, own, rfl⟩
    exact sends_combine read own

end FieldExpr

end ApiGateway
