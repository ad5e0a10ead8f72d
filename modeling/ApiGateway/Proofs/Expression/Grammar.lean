import ApiGateway.Expression.FieldExpr
import ApiGateway.Proofs.Expression.Templates
import ApiGateway.Proofs.Text.Cutting

/-
The texts of field expressions.

What a part between bars has to be depends on its place: the last of several is a template, any
other one a reference.

* `FieldRef.Reads`, `FieldRef.Bad` - what a part is read as, and what is reported of one that is no
  reference.
* `FieldExpr.Cut` - a text cut at its bars into the parts for references and that for a template.
* `FieldExpr.Holds`, `FieldExpr.Faulty` - a text that is an expression, and the first fault of one
  that is not.
* `FieldExpr.parse_outcomes` - the first are read, and of the others that fault is reported.
-/

namespace ApiGateway

namespace FieldRef

/-- What a part is read as: blanks at its ends aside, a name, or two with a point between them. -/
inductive Reads (part : List Char) : FieldRef → Prop where
  | param {field : List Char} : Text.trim part = field → field ≠ [] → '.' ∉ field →
    Reads part (.param (String.ofList field))
  | reply {node field : List Char} : Text.trim part = node ++ '.' :: field → node ≠ [] →
    field ≠ [] → '.' ∉ node → '.' ∉ field →
    Reads part (.reply (String.ofList node) (String.ofList field))

/-- What is reported of a part, by its index, that is no reference. -/
inductive Bad (index : Nat) (part : List Char) : FieldExprError → Prop where
  | empty : Text.trim part = [] → Bad index part (.emptyReference index)
  | invalid : Text.trim part ≠ [] → (∀ ref, ¬ Reads part ref) →
    Bad index part (.invalidReference (String.ofList (Text.trim part)))

variable {index : Nat} {part : List Char} {parts : List (List Char)} {ref : FieldRef}
  {refs : List FieldRef} {e : FieldExprError}

theorem parse_eq_ok_iff : parse index part = .ok ref ↔ Reads part ref := by
  constructor
  · intro read
    simp only [parse] at read
    split at read
    · cases read
    · next some =>
      split at read
      · next none =>
        cases read
        exact .param rfl (by simpa using some) (Text.splitOnce?_eq_none_iff.mp none)
      · next node field split =>
        obtain ⟨written, clean⟩ := Text.splitOnce?_eq_some_iff.mp split
        split at read
        · cases read
        · next good =>
          cases read
          simp only [Bool.or_eq_true, List.isEmpty_iff, List.contains_iff_mem, not_or] at good
          exact .reply written good.1.1 good.1.2 clean good.2
  · intro reads
    cases reads with
    | param written some none =>
      simp [parse, written, some, Text.splitOnce?_eq_none_iff.mpr none]
    | reply written node field clean single =>
      have split := Text.splitOnce?_eq_some_iff.mpr ⟨written, clean⟩
      simp [parse, split, node, field, single]
      simp [written]

theorem parse_of_trim_eq_nil (none : Text.trim part = []) :
    parse index part = .error (.emptyReference index) := by
  simp [parse, none]

/-- A part that is there and is no reference is reported as it is written. -/
theorem eq_invalid_of_parse (some : Text.trim part ≠ []) (failed : parse index part = .error e) :
    e = .invalidReference (String.ofList (Text.trim part)) := by
  simp only [parse] at failed
  split at failed
  · next none => exact absurd (List.isEmpty_iff.mp none) some
  · split at failed
    · cases failed
    · split at failed
      · cases failed
        rfl
      · cases failed

theorem parse_eq_error_iff : parse index part = .error e ↔ Bad index part e := by
  by_cases none : Text.trim part = []
  · rw [parse_of_trim_eq_nil none]
    constructor
    · rintro ⟨⟩
      exact .empty none
    · rintro (_ | ⟨some, -⟩)
      · rfl
      · exact absurd none some
  · constructor
    · intro failed
      rw [eq_invalid_of_parse none failed]
      refine .invalid none fun ref reads => ?_
      cases failed.symm.trans (parse_eq_ok_iff.mpr reads)
    · rintro (empty | ⟨some, unread⟩)
      · exact absurd empty none
      · cases outcome : parse index part with
        | ok ref => exact absurd (parse_eq_ok_iff.mp outcome) (unread ref)
        | error e => rw [eq_invalid_of_parse some outcome]

theorem parseAll_eq (index : Nat) (parts : List (List Char)) :
    parseAll index parts = (parts.zipIdx index).mapM fun (part, i) => parse i part := by
  induction parts generalizing index with
  | nil => rfl
  | cons part parts ih => rw [parseAll, ih, List.zipIdx_cons, List.mapM_cons]

/-- Parts are read together when each is read on its own. -/
theorem parseAll_eq_ok_iff :
    parseAll index parts = .ok refs ↔ List.Forall₂ Reads parts refs := by
  simp only [parseAll_eq, mapM_eq_ok_iff, parse_eq_ok_iff]
  rw [← List.forall₂_map_left_iff, List.zipIdx_map_fst]

/-- Of parts that are not all references the first that is none is reported. -/
theorem parseAll_eq_error_iff : parseAll index parts = .error e ↔
    ∃ before part after, parts = before ++ part :: after ∧
      (∀ p ∈ before, ∃ ref, Reads p ref) ∧ Bad (index + before.length) part e := by
  simp only [parseAll_eq, mapM_eq_error_iff, parse_eq_ok_iff, parse_eq_error_iff]
  constructor
  · rintro ⟨_, a, _, same, good, bad⟩
    obtain ⟨before, _, rfl, rfl, cut⟩ := List.zipIdx_eq_append_iff.mp same
    obtain ⟨part, after, rfl, rfl, -⟩ := List.zipIdx_eq_cons_iff.mp cut.symm
    refine ⟨before, part, after, rfl, fun p hp => ?_, bad⟩
    rw [← List.zipIdx_map_fst index before] at hp
    obtain ⟨a, ha, rfl⟩ := List.mem_map.mp hp
    exact good a ha
  · rintro ⟨before, part, after, rfl, good, bad⟩
    refine ⟨before.zipIdx index, (part, index + before.length),
      after.zipIdx (index + before.length + 1), ?_, ?_, bad⟩
    · rw [List.zipIdx_append, List.zipIdx_cons]
    · intro a ha
      exact good a.1 (List.fst_mem_of_mem_zipIdx ha)

theorem exists_parseAll_iff (index : Nat) :
    (∃ refs, parseAll index parts = .ok refs) ↔ ∀ part ∈ parts, ∃ ref, Reads part ref := by
  have numbered : (parts.zipIdx index).map Prod.fst = parts := List.zipIdx_map_fst index parts
  rw [parseAll_eq, exists_mapM_iff]
  conv_rhs => rw [← numbered, List.forall_mem_map]
  simp only [parse_eq_ok_iff]

end FieldRef

namespace FieldExpr

/-- A text cut at its bars: the parts for references, and behind the last bar that for a
template. -/
inductive Cut : List Char → List (List Char) → Option (List Char) → Prop where
  | one {cs : List Char} : '|' ∉ cs → Cut cs [cs] none
  | more {cs last : List Char} {parts : List (List Char)} : parts ≠ [] →
    (∀ part ∈ parts, '|' ∉ part) → '|' ∉ last → ['|'].intercalate (parts ++ [last]) = cs →
    Cut cs parts (some last)

/-- A text that is an expression, with its references and the text of its template. -/
structure Holds (text : String) (refs : List FieldRef) (last? : Option (List Char)) : Prop where
  visible : Text.isBlankText text = false
  parts : ∃ parts, Cut text.toList parts last? ∧ List.Forall₂ FieldRef.Reads parts refs
  arity : ∀ last ∈ last?, Template.Holds last refs.length

/-- The first fault of a text that is no expression: the template is looked at before the
references, and the numbers of both are compared last. -/
inductive Faulty (text : String) : FieldExprError → Prop where
  | empty : Text.isBlankText text = true → Faulty text .empty
  | template {parts : List (List Char)} {last : List Char} {cause : TemplateError} :
    Text.isBlankText text = false → Cut text.toList parts (some last) →
    Template.Faulty last cause → Faulty text (.template cause)
  | reference {before after : List (List Char)} {part : List Char} {last? : Option (List Char)}
    {e : FieldExprError} : Text.isBlankText text = false →
    Cut text.toList (before ++ part :: after) last? →
    (∀ last ∈ last?, ∃ n, Template.Holds last n) → (∀ p ∈ before, ∃ ref, FieldRef.Reads p ref) →
    FieldRef.Bad before.length part e → Faulty text e
  | arity {parts : List (List Char)} {last : List Char} {n : Nat} :
    Text.isBlankText text = false → Cut text.toList parts (some last) →
    Template.Holds last n → (∀ part ∈ parts, ∃ ref, FieldRef.Reads part ref) → n ≠ parts.length →
    Faulty text (.arity n parts.length)

variable {text : String} {parts : List (List Char)} {last : List Char} {e : FieldExpr}
  {x : FieldExprError}

/-! ### Cutting at bars -/

theorem Cut.ne_nil {cs : List Char} {last? : Option (List Char)} (h : Cut cs parts last?) :
    parts ≠ [] := by
  cases h with
  | one => simp
  | more some => exact some

theorem Cut.splitAt_eq {cs : List Char} {last? : Option (List Char)} (h : Cut cs parts last?) :
    Text.splitAt '|' cs = parts ++ last?.toList := by
  cases h with
  | one clean => exact Text.splitAt_eq_iff.mpr (by simpa using clean)
  | more some clean last joined =>
    refine Text.splitAt_eq_iff.mpr ⟨by simp, fun part hp => ?_, joined⟩
    rcases List.mem_append.mp hp with front | back
    · exact clean part front
    · obtain rfl := List.mem_singleton.mp back
      exact last

theorem exists_cut (cs : List Char) : ∃ parts last?, Cut cs parts last? := by
  obtain ⟨some, clean, joined⟩ := Text.splitAt_eq_iff.mp (rfl : Text.splitAt '|' cs = _)
  obtain ⟨parts, last, cut⟩ := (List.eq_nil_or_concat' _).resolve_left some
  rw [cut] at clean joined
  by_cases single : parts = []
  · subst single
    obtain rfl : last = cs := by simpa using joined
    exact ⟨[last], none, .one (clean last (by simp))⟩
  · have front : ∀ part ∈ parts, '|' ∉ part := fun part hp => clean part (by simp [hp])
    exact ⟨parts, last, .more single front (clean last (by simp)) joined⟩

/-! ### One part or several -/

/-- A text without bars is read as a reference. -/
theorem parse_one (visible : Text.isBlankText text = false)
    (cut : Cut text.toList parts none) :
    parse text = (FieldRef.parseAll 0 parts).map (⟨·, none⟩) := by
  have split := cut.splitAt_eq
  rw [parse, if_neg (by simp [visible])]
  cases cut
  simp only [split]
  rfl

/-- A text with bars is read as a template and the references for it. -/
theorem parse_more (visible : Text.isBlankText text = false)
    (cut : Cut text.toList parts (some last)) :
    parse text = ((Template.parse last).mapError .template >>= fun template =>
      FieldRef.parseAll 0 parts >>= fun refs =>
        if template.arity = refs.length then .ok ⟨refs, some template⟩
        else .error (.arity template.arity refs.length)) := by
  have split := cut.splitAt_eq
  rw [parse, if_neg (by simp [visible])]
  obtain ⟨first, rest, rfl⟩ := List.exists_cons_of_ne_nil cut.ne_nil
  simp only [split, Option.toList_some, List.dropLast_concat, List.getLast?_concat]
  rfl

/-! ### Which texts are expressions -/

/-- What is read has the references and the template of its text. -/
theorem holds_of_parse (read : parse text = .ok e) :
    Holds text e.refs (e.template.map (·.raw.toList)) ∧
      ∀ t ∈ e.template, Template.parse t.raw.toList = .ok t := by
  cases visible : Text.isBlankText text with
  | true =>
    rw [parse, if_pos visible] at read
    cases read
  | false =>
    obtain ⟨parts, last?, cut⟩ := exists_cut text.toList
    cases last? with
    | none =>
      rw [parse_one visible cut, map_eq_ok_iff] at read
      obtain ⟨refs, reads, rfl⟩ := read
      exact ⟨⟨visible, ⟨parts, cut, FieldRef.parseAll_eq_ok_iff.mp reads⟩, by simp⟩, by simp⟩
    | some last =>
      rw [parse_more visible cut, bind_eq_ok_iff] at read
      obtain ⟨t, template, read⟩ := read
      obtain ⟨refs, reads, read⟩ := bind_eq_ok_iff.mp read
      rw [mapError_eq_ok_iff] at template
      have same : t.raw.toList = last := by simp [(Template.parse_written template).1]
      split at read
      · next count =>
        cases read
        simp only [Option.map_some, same]
        refine ⟨⟨visible, ⟨parts, cut, FieldRef.parseAll_eq_ok_iff.mp reads⟩, ?_⟩, ?_⟩
        · simpa [count] using Template.holds_of_parse template
        · simpa [same] using template
      · cases read

/-- A text is read as the expression with its references and its template. -/
theorem parse_eq_ok_iff : parse text = .ok e ↔
    Holds text e.refs (e.template.map (·.raw.toList)) ∧
      ∀ t ∈ e.template, Template.parse t.raw.toList = .ok t := by
  refine ⟨holds_of_parse, ?_⟩
  rintro ⟨⟨visible, ⟨parts, cut, reads⟩, arity⟩, template⟩
  obtain ⟨refs, t?⟩ := e
  cases t? with
  | none =>
    rw [parse_one visible cut, FieldRef.parseAll_eq_ok_iff.mpr reads]
    rfl
  | some t =>
    have read := template t rfl
    have count : t.arity = refs.length := (arity _ rfl).arity_eq read
    rw [parse_more visible cut, read, FieldRef.parseAll_eq_ok_iff.mpr reads]
    exact if_pos count

theorem exists_parse_iff {refs : List FieldRef} {last? : Option (List Char)} :
    (∃ e, parse text = .ok e ∧ e.refs = refs ∧ e.template.map (·.raw.toList) = last?) ↔
      Holds text refs last? := by
  constructor
  · rintro ⟨e, read, rfl, rfl⟩
    exact (holds_of_parse read).1
  · intro h
    cases last? with
    | none => exact ⟨⟨refs, none⟩, parse_eq_ok_iff.mpr ⟨h, by simp⟩, rfl, rfl⟩
    | some last =>
      obtain ⟨t, read, raw, -⟩ := (h.arity last rfl).parse
      have same : t.raw.toList = last := by simp [raw]
      refine ⟨⟨refs, some t⟩, parse_eq_ok_iff.mpr ⟨?_, ?_⟩, rfl, by simp [same]⟩
      · simpa [same] using h
      · simpa [same] using read

/-- What is reported of a text is its first fault. -/
theorem faulty_of_parse (failed : parse text = .error x) : Faulty text x := by
  cases visible : Text.isBlankText text with
  | true =>
    rw [parse, if_pos visible] at failed
    cases failed
    exact .empty visible
  | false =>
    obtain ⟨parts, last?, cut⟩ := exists_cut text.toList
    cases last? with
    | none =>
      rw [parse_one visible cut, map_eq_error_iff, FieldRef.parseAll_eq_error_iff] at failed
      obtain ⟨before, part, after, rfl, good, bad⟩ := failed
      exact .reference visible cut (by simp) good (by simpa using bad)
    | some last =>
      rw [parse_more visible cut, bind_eq_error_iff, mapError_eq_error_iff] at failed
      rcases failed with ⟨cause, template, rfl⟩ | ⟨t, template, failed⟩
      · exact .template visible cut (Template.parse_eq_error_iff.mp template)
      · rw [mapError_eq_ok_iff] at template
        have holds := Template.holds_of_parse template
        rcases bind_eq_error_iff.mp failed with bad | ⟨refs, reads, failed⟩
        · obtain ⟨before, part, after, rfl, good, bad⟩ := FieldRef.parseAll_eq_error_iff.mp bad
          exact .reference visible cut (by simpa using ⟨_, holds⟩) good (by simpa using bad)
        · have good := (FieldRef.exists_parseAll_iff 0).mp ⟨refs, reads⟩
          have same := (FieldRef.parseAll_eq_ok_iff.mp reads).length_eq
          split at failed
          · cases failed
          · next other =>
            cases failed
            rw [← same] at other ⊢
            exact .arity visible cut holds good other

/-- The first fault of a text is reported. -/
theorem Faulty.parse (faulty : Faulty text x) : FieldExpr.parse text = .error x := by
  cases faulty with
  | empty blank => rw [FieldExpr.parse, if_pos blank]
  | template visible cut fault =>
    rw [parse_more visible cut, Template.parse_eq_error_iff.mpr fault]
    rfl
  | @reference before after part last? e visible cut template good bad =>
    have failed : FieldRef.parseAll 0 (before ++ part :: after) = .error x :=
      FieldRef.parseAll_eq_error_iff.mpr ⟨before, part, after, rfl, good, by simpa using bad⟩
    cases last? with
    | none =>
      rw [parse_one visible cut, failed]
      rfl
    | some last =>
      obtain ⟨n, holds⟩ := template last rfl
      obtain ⟨t, read, -⟩ := holds.parse
      rw [parse_more visible cut, read, failed]
      rfl
  | @arity parts last n visible cut holds good other =>
    obtain ⟨t, read, -, rfl, -⟩ := holds.parse
    obtain ⟨refs, reads⟩ := (FieldRef.exists_parseAll_iff 0).mpr good
    have same := (FieldRef.parseAll_eq_ok_iff.mp reads).length_eq
    rw [same] at other ⊢
    rw [parse_more visible cut, read, reads]
    exact if_neg other

/-- An expression is read as what it says, and of a text that is none the first fault is reported. -/
theorem parse_outcomes (text : String) :
    (∀ refs last?, (∃ e, parse text = .ok e ∧ e.refs = refs ∧
      e.template.map (·.raw.toList) = last?) ↔ Holds text refs last?) ∧
    ∀ x, parse text = .error x ↔ Faulty text x :=
  ⟨fun _ _ => exists_parse_iff, fun _ => ⟨faulty_of_parse, Faulty.parse⟩⟩

-- The last part is at fault before the first, and the number of placeholders after all.
example : parse "a.b.c| |%x" = .error (.template (.unsupportedVerb 'x')) ∧
    parse "a.b.c| |%s" = .error (.invalidReference "a.b.c") ∧
    parse "a.b| |%s" = .error (.emptyReference 1) ∧
    parse "a.b|c|%s" = .error (.arity 1 2) := ⟨rfl, rfl, rfl, rfl⟩

end FieldExpr

end ApiGateway
