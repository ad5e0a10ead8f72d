import ApiGateway.Expression.Template
import ApiGateway.Proofs.Attempts
import ApiGateway.Text.Blank
import Mathlib.Data.List.Chain

/-
The texts of templates.

A template is read from left to right: a percent sign stands before a verb, where a value goes, or
before another percent sign, which stands for itself.

* `Template.Holds` - a text that is a template, with the number of its placeholders.
* `Template.Faulty` - a text that is none, with its first fault.
* `Template.holds_of_parse`, `Template.Holds.parse`, `Template.parse_eq_error_iff` - the first are
  read, and of the others that fault is reported.
* `Template.Normal`, `Segment.written` - segments without needless cuts, and the text that they are
  written as; `Template.parse_written` - what was read is written as it was.
-/

namespace ApiGateway

namespace Verb

@[simp] theorem ofLetter?_letter (v : Verb) : ofLetter? v.letter = some v := by
  cases v <;> rfl

theorem letter_of_ofLetter? {c : Char} {v : Verb} (h : ofLetter? c = some v) : v.letter = c := by
  simpa using List.find?_some h

theorem ofLetter?_eq_none_iff {c : Char} : ofLetter? c = none ↔ ∀ v : Verb, v.letter ≠ c := by
  constructor
  · rintro none v rfl
    simp at none
  · intro other
    cases found : ofLetter? c with
    | none => rfl
    | some v => exact absurd (letter_of_ofLetter? found) (other v)

theorem letter_ne_percent (v : Verb) : v.letter ≠ '%' := by
  cases v <;> decide

end Verb

/-! ### Segments -/

/-- A value goes there. -/
def Segment.isPlaceholder : Segment → Bool
  | .placeholder _ => true
  | .literal _ => false

@[simp] theorem Segment.isPlaceholder_placeholder (v : Verb) :
    (Segment.placeholder v).isPlaceholder = true := rfl

@[simp] theorem Segment.isPlaceholder_literal (s : String) :
    (Segment.literal s).isPlaceholder = false := rfl

namespace Template

/-- A text with every percent sign doubled. -/
def doubled (cs : List Char) : List Char := Text.replaceChar '%' ['%', '%'] cs

@[simp] theorem doubled_nil : doubled [] = [] := rfl

@[simp] theorem doubled_append (cs ds : List Char) :
    doubled (cs ++ ds) = doubled cs ++ doubled ds := by
  simp [doubled, Text.replaceChar]

@[simp] theorem doubled_percent : doubled ['%'] = ['%', '%'] := rfl

theorem doubled_plain {c : Char} (other : c ≠ '%') : doubled [c] = [c] := by
  simp [doubled, Text.replaceChar, other]

end Template

/-- The text that a segment is written as. -/
def Segment.written : Segment → List Char
  | .literal s => Template.doubled s.toList
  | .placeholder v => ['%', v.letter]

namespace Template

@[simp] theorem flatMap_written_literal (cs : List Char) :
    (literal cs).flatMap Segment.written = doubled cs := by
  unfold literal
  cases cs <;> simp [Segment.written]

theorem arity_eq (t : Template) : t.arity = t.segments.countP Segment.isPlaceholder := by
  unfold arity
  refine List.countP_congr fun s _ => ?_
  cases s <;> simp [Segment.isPlaceholder]

@[simp] theorem countP_literal (cs : List Char) : (literal cs).countP Segment.isPlaceholder = 0 := by
  unfold literal
  split <;> simp

/-- No literal is empty, and no two stand side by side. -/
structure Normal (segments : List Segment) : Prop where
  filled : ∀ s, .literal s ∈ segments → s ≠ ""
  apart : segments.IsChain fun a b => a.isPlaceholder = true ∨ b.isPlaceholder = true

theorem literal_eq (cs : List Char) :
    literal cs = [] ∧ cs = [] ∨ literal cs = [.literal (String.ofList cs)] ∧ cs ≠ [] := by
  unfold literal
  cases cs <;> simp

theorem normal_literal (cs : List Char) : Normal (literal cs) := by
  rcases literal_eq cs with ⟨none, -⟩ | ⟨one, filled⟩
  · rw [none]
    exact ⟨by simp, .nil⟩
  · rw [one]
    exact ⟨by simpa using filled, .singleton _⟩

/-- A placeholder parts the literal before it from all that follows. -/
theorem Normal.placeholder {segments : List Segment} (h : Normal segments) (cs : List Char)
    (v : Verb) : Normal (literal cs ++ .placeholder v :: segments) := by
  constructor
  · intro s hs
    rcases List.mem_append.mp hs with front | behind
    · exact (normal_literal cs).filled s front
    · exact h.filled s (by simpa using behind)
  · refine List.isChain_append.mpr ⟨(normal_literal cs).apart, ?_, by simp⟩
    exact List.isChain_cons.mpr ⟨fun _ _ => .inl rfl, h.apart⟩

/-! ### Texts of templates -/

/-- A text that is a template, read from left to right, with the number of its placeholders. -/
inductive Holds : List Char → Nat → Prop where
  | nil : Holds [] 0
  | plain {c : Char} {cs : List Char} {n : Nat} : c ≠ '%' → Holds cs n → Holds (c :: cs) n
  | percent {cs : List Char} {n : Nat} : Holds cs n → Holds ('%' :: '%' :: cs) n
  | verb {cs : List Char} {n : Nat} (v : Verb) : Holds cs n → Holds ('%' :: v.letter :: cs) (n + 1)

/-- The first fault of a text that is no template: all before it is one. -/
inductive Faulty : List Char → TemplateError → Prop where
  | trailing {before : List Char} {n : Nat} : Holds before n →
    Faulty (before ++ ['%']) .trailingPercent
  | verb {before cs : List Char} {n : Nat} {c : Char} : Holds before n → c ≠ '%' →
    (∀ v : Verb, v.letter ≠ c) → Faulty (before ++ '%' :: c :: cs) (.unsupportedVerb c)

/-! ### One character after another -/

theorem scan_plain {c : Char} (other : c ≠ '%') (pending cs : List Char) :
    scan pending (c :: cs) = scan (pending ++ [c]) cs := by
  rw [scan.eq_def]
  split
  · simp_all
  · simp_all
  · simp_all

theorem scan_percent (pending cs : List Char) :
    scan pending ('%' :: '%' :: cs) = scan (pending ++ ['%']) cs := by
  simp [scan]

theorem scan_verb (v : Verb) (pending cs : List Char) : scan pending ('%' :: v.letter :: cs) =
    (scan [] cs).map (literal pending ++ .placeholder v :: ·) := by
  rw [scan]
  simp [v.letter_ne_percent]
  cases scan [] cs <;> rfl

theorem scan_unsupported {c : Char} (other : c ≠ '%') (unknown : ∀ v : Verb, v.letter ≠ c)
    (pending cs : List Char) : scan pending ('%' :: c :: cs) = .error (.unsupportedVerb c) := by
  rw [scan]
  simp [other, Verb.ofLetter?_eq_none_iff.mpr unknown]

theorem scan_trailing (pending : List Char) : scan pending ['%'] = .error .trailingPercent := by
  simp [scan]

/-! ### Which texts are templates -/

theorem Holds.append {before cs : List Char} {n m : Nat} (h : Holds before n) (rest : Holds cs m) :
    Holds (before ++ cs) (n + m) := by
  induction h with
  | nil => simpa using rest
  | plain other _ ih => exact .plain other ih
  | percent _ ih => exact .percent ih
  | verb v _ ih =>
    rw [Nat.add_right_comm]
    exact .verb v ih

/-- A fault is the first behind any text that is a template. -/
theorem Faulty.after {before cs : List Char} {n : Nat} {e : TemplateError} (h : Holds before n)
    (faulty : Faulty cs e) : Faulty (before ++ cs) e := by
  cases faulty with
  | trailing h' =>
    rw [← List.append_assoc]
    exact .trailing (h.append h')
  | verb h' other unknown =>
    rw [← List.append_assoc]
    exact .verb (h.append h') other unknown

/-- Every text is a template or has a first fault. -/
theorem holds_or_faulty : ∀ cs : List Char, (∃ n, Holds cs n) ∨ ∃ e, Faulty cs e
  | [] => .inl ⟨0, .nil⟩
  | [c] => by
    by_cases percent : c = '%'
    · subst percent
      exact .inr ⟨_, .trailing .nil⟩
    · exact .inl ⟨0, .plain percent .nil⟩
  | c :: d :: cs => by
    by_cases percent : c = '%'
    · subst percent
      by_cases again : d = '%'
      · subst again
        rcases holds_or_faulty cs with ⟨n, h⟩ | ⟨e, h⟩
        · exact .inl ⟨n, .percent h⟩
        · exact .inr ⟨e, h.after (.percent .nil)⟩
      · cases known : Verb.ofLetter? d with
        | none => exact .inr ⟨_, .verb .nil again (Verb.ofLetter?_eq_none_iff.mp known)⟩
        | some v =>
          obtain rfl := Verb.letter_of_ofLetter? known
          rcases holds_or_faulty cs with ⟨n, h⟩ | ⟨e, h⟩
          · exact .inl ⟨_, .verb v h⟩
          · exact .inr ⟨e, h.after (.verb v .nil)⟩
    · rcases holds_or_faulty (d :: cs) with ⟨n, h⟩ | ⟨e, h⟩
      · exact .inl ⟨n, .plain percent h⟩
      · exact .inr ⟨e, h.after (.plain percent .nil)⟩

/-- A template is read into segments that spell it out. -/
theorem Holds.scan {cs : List Char} {n : Nat} (h : Holds cs n) (pending : List Char) :
    ∃ segments, Template.scan pending cs = .ok segments ∧
      segments.countP Segment.isPlaceholder = n ∧ Normal segments ∧
      segments.flatMap Segment.written = doubled pending ++ cs := by
  induction h generalizing pending with
  | nil =>
    exact ⟨literal pending, by simp [Template.scan], by simp, normal_literal pending, by simp⟩
  | plain other _ ih =>
    rw [scan_plain other]
    obtain ⟨segments, read, count, normal, written⟩ := ih (pending ++ [_])
    exact ⟨segments, read, count, normal, by simp [written, doubled_plain other]⟩
  | percent _ ih =>
    rw [scan_percent]
    obtain ⟨segments, read, count, normal, written⟩ := ih (pending ++ ['%'])
    exact ⟨segments, read, count, normal, by simp [written]⟩
  | verb v _ ih =>
    obtain ⟨segments, read, count, normal, written⟩ := ih []
    rw [scan_verb, read]
    refine ⟨_, rfl, ?_, normal.placeholder pending v, ?_⟩
    · simp [List.countP_cons, count]
    · simp [Segment.written, written]

/-- What fails behind a template, whatever literal is pending there, fails with it in front. -/
theorem Holds.scan_append {before cs : List Char} {n : Nat} (h : Holds before n) {e : TemplateError}
    (fails : ∀ pending, Template.scan pending cs = .error e) (pending : List Char) :
    Template.scan pending (before ++ cs) = .error e := by
  induction h generalizing pending with
  | nil => exact fails pending
  | plain other _ ih =>
    rw [List.cons_append, scan_plain other]
    exact ih _
  | percent _ ih =>
    rw [List.cons_append, List.cons_append, scan_percent]
    exact ih _
  | verb v _ ih =>
    rw [List.cons_append, List.cons_append, scan_verb, ih]
    rfl

theorem Faulty.scan {cs : List Char} {e : TemplateError} (h : Faulty cs e) (pending : List Char) :
    Template.scan pending cs = .error e := by
  cases h with
  | trailing before => exact before.scan_append scan_trailing pending
  | verb before other unknown =>
    exact before.scan_append (fun pending => scan_unsupported other unknown pending _) pending

theorem Holds.parse {cs : List Char} {n : Nat} (h : Holds cs n) :
    ∃ t, Template.parse cs = .ok t ∧ t.raw = String.ofList cs ∧ t.arity = n ∧
      Normal t.segments ∧ t.segments.flatMap Segment.written = cs := by
  obtain ⟨segments, read, count, normal, written⟩ := h.scan []
  refine ⟨⟨String.ofList cs, segments⟩, ?_, rfl, by rw [arity_eq, count], normal, by simp [written]⟩
  rw [Template.parse, read]
  rfl

theorem Holds.arity_eq {cs : List Char} {n : Nat} {t : Template} (h : Holds cs n)
    (read : Template.parse cs = .ok t) : t.arity = n := by
  obtain ⟨t', read', -, count, -⟩ := h.parse
  cases read.symm.trans read'
  exact count

/-- What is read from a text has as many placeholders as the text holds. -/
theorem holds_of_parse {cs : List Char} {t : Template} (read : parse cs = .ok t) :
    Holds cs t.arity := by
  rcases holds_or_faulty cs with ⟨n, holds⟩ | ⟨e, faulty⟩
  · rw [holds.arity_eq read]
    exact holds
  · rw [parse, faulty.scan] at read
    cases read

/-- What is read from a text spells it out. -/
theorem parse_written {cs : List Char} {t : Template} (h : parse cs = .ok t) :
    t.raw = String.ofList cs ∧ Normal t.segments ∧ t.segments.flatMap Segment.written = cs := by
  obtain ⟨t', read, raw, -, normal, written⟩ := (holds_of_parse h).parse
  cases h.symm.trans read
  exact ⟨raw, normal, written⟩

/-- Of any other text the first fault is reported. -/
theorem parse_eq_error_iff {cs : List Char} {e : TemplateError} :
    parse cs = .error e ↔ Faulty cs e := by
  constructor
  · intro failed
    rcases holds_or_faulty cs with ⟨n, h⟩ | ⟨e', h⟩
    · obtain ⟨t, read, -⟩ := h.parse
      cases read.symm.trans failed
    · rw [parse, h.scan] at failed
      cases failed
      exact h
  · intro h
    rw [parse, h.scan]
    rfl

end Template

end ApiGateway
