import ApiGateway.Proofs.Expression.Grammar

/-
Field expressions that are written and read again.

* `FieldExpr.written` - the references and the template of an expression, joined by bars.
* `FieldExpr.Holds.written` - it is a text of the same expression, without the blanks around the
  references.
* `FieldExpr.read_written` - so it is read as that expression; and its template is the only one
  with these segments.
-/

namespace ApiGateway

namespace FieldRef.Reads

variable {part : List Char} {parts : List (List Char)} {ref : FieldRef} {refs : List FieldRef}

/-- A reference is written as it was read, without the blanks around it. -/
theorem toList_display (h : Reads part ref) : ref.display.toList = Text.trim part := by
  cases h with
  | param written => simp [display, written]
  | reply written => simp [display, written]

theorem map_display (h : List.Forall₂ Reads parts refs) :
    refs.map (·.display.toList) = parts.map Text.trim := by
  induction h with
  | nil => rfl
  | cons reads _ ih => rw [List.map_cons, List.map_cons, reads.toList_display, ih]

theorem trim (h : Reads part ref) : Reads (Text.trim part) ref := by
  cases h with
  | param written some none => exact .param (by rw [Text.trim_trim, written]) some none
  | reply written node field clean single =>
    exact .reply (by rw [Text.trim_trim, written]) node field clean single

theorem trim_ne_nil (h : Reads part ref) : Text.trim part ≠ [] := by
  cases h with
  | param written some => rwa [written]
  | reply written => simp [written]

end FieldRef.Reads

namespace FieldExpr

variable {text : String} {e : FieldExpr}

/-- The references and the template as they were read, between bars. -/
def written (e : FieldExpr) : String :=
  "|".intercalate (e.refs.map FieldRef.display ++ (e.template.map (·.raw)).toList)

theorem toList_written (e : FieldExpr) : e.written.toList = ['|'].intercalate
    (e.refs.map (·.display.toList) ++ (e.template.map (·.raw.toList)).toList) := by
  cases template : e.template <;> simp [written, template, Function.comp_def]

theorem Cut.trim {cs : List Char} {parts : List (List Char)} {last? : Option (List Char)}
    (h : Cut cs parts last?) :
    Cut (['|'].intercalate (parts.map Text.trim ++ last?.toList)) (parts.map Text.trim) last? := by
  cases h with
  | one clean => simpa using Cut.one fun bar => clean (Text.mem_of_mem_trim bar)
  | more some clean last =>
    refine .more (by simpa using some) ?_ last rfl
    rw [List.forall_mem_map]
    exact fun part hp bar => clean part hp (Text.mem_of_mem_trim bar)

/-- An expression starts with a reference, so it is not blank. -/
theorem isBlankText_written {part : List Char} {parts : List (List Char)}
    (reads : List.Forall₂ FieldRef.Reads (part :: parts) e.refs) :
    Text.isBlankText e.written = false := by
  obtain ⟨ref, refs, first, -, refsEq⟩ := List.forall₂_cons_left_iff.mp reads
  have front : Text.trim part <+: e.written.toList := by
    rw [toList_written, refsEq, List.map_cons, first.toList_display]
    exact Text.prefix_intercalate _ _ _
  have some := first.trim.trim_ne_nil
  rw [Ne, Text.trim_eq_nil_iff] at some
  rw [Text.isBlankText, ← Bool.not_eq_true, List.all_eq_true]
  exact fun blank => some fun c hc => blank c (front.subset hc)

/-- What an expression is written as is a text of the same expression. -/
theorem Holds.written (h : Holds text e.refs (e.template.map (·.raw.toList))) :
    Holds e.written e.refs (e.template.map (·.raw.toList)) := by
  obtain ⟨visible, ⟨parts, cut, reads⟩, arity⟩ := h
  have trimmed := cut.trim
  rw [← FieldRef.Reads.map_display reads, ← toList_written] at trimmed
  have again : List.Forall₂ FieldRef.Reads (e.refs.map (·.display.toList)) e.refs := by
    rw [FieldRef.Reads.map_display reads, List.forall₂_map_left_iff]
    exact reads.imp fun _ _ h => h.trim
  refine ⟨?_, ⟨_, trimmed, again⟩, arity⟩
  cases parts with
  | nil => exact absurd rfl cut.ne_nil
  | cons part parts => exact isBlankText_written reads

/-- An expression is written as a text that is read as it. Its template is cut only where a value
goes, and is the only one with these segments. -/
theorem read_written (read : parse text = .ok e) : parse e.written = .ok e ∧
    ∀ t ∈ e.template, Template.parse t.raw.toList = .ok t ∧ Template.Normal t.segments ∧
      t.segments.flatMap Segment.written = t.raw.toList ∧
      ∀ cs t', Template.parse cs = .ok t' → t'.segments = t.segments → cs = t.raw.toList := by
  obtain ⟨holds, template⟩ := holds_of_parse read
  refine ⟨parse_eq_ok_iff.mpr ⟨holds.written, template⟩, fun t ht => ?_⟩
  obtain ⟨-, normal, written⟩ := Template.parse_written (template t ht)
  refine ⟨template t ht, normal, written, fun cs t' read' same => ?_⟩
  obtain ⟨-, -, written'⟩ := Template.parse_written read'
  rw [← written, ← written', same]

/-- A user's identifier with a share of a hundred. -/
def userShare : FieldExpr :=
  ⟨[.reply "user" "id", .param "share"],
    some ⟨"%s: %d%%", [.placeholder .string, .literal ": ", .placeholder .decimal, .literal "%"]⟩⟩

/-- The blanks around its references are not written again. -/
theorem read_written_userShare :
    parse " user.id |share|%s: %d%%" = .ok userShare ∧
      parse "user.id|share|%s: %d%%" = .ok userShare :=
  have read : parse " user.id |share|%s: %d%%" = .ok userShare := rfl
  ⟨read, (read_written read).1⟩

end FieldExpr

end ApiGateway
