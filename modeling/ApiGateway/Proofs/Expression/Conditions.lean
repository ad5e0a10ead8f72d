import ApiGateway.Proofs.Attempts
import ApiGateway.Proofs.Expression.Comparisons

/-
The tests that conditions are declared by.

An entry of a test is a field with the value that it must have, or an operator with fields and the
values that they are compared with. Each pair of a field and a value asks something of a reply on
its own, so the order of the entries does not matter.

* `Condition.Demand`, `Condition.Makes` - what a pair asks of a reply; the demands of an entry.
* `Condition.Understood`, `Condition.Refused` - an entry that can be read, and what is reported of
  one that cannot.
* `Condition.Satisfies` - an object is as an entry demands.
* `Condition.interprets_ofTest` - which tests are read, and which replies meet the condition.
-/

namespace ApiGateway

/-- The comparison that an operator stands for. -/
inductive Comparison.Named : String → Comparison → Prop where
  | eq : Named "$eq" .eq
  | neq : Named "$neq" .neq
  | ne : Named "$ne" .neq
  | gt : Named "$gt" .gt
  | gte : Named "$gte" .gte
  | lt : Named "$lt" .lt
  | lte : Named "$lte" .lte

theorem Comparison.ofOperator?_eq_some_iff {key : String} {op : Comparison} :
    ofOperator? key = some op ↔ Named key op := by
  constructor
  · intro named
    unfold ofOperator? at named
    split at named <;> cases named
    · exact .eq
    · exact .neq
    · exact .ne
    · exact .gt
    · exact .gte
    · exact .lt
    · exact .lte
  · intro named
    cases named <;> rfl

theorem Comparison.Named.unique {key : String} {op op' : Comparison} (h : Named key op)
    (h' : Named key op') : op = op' :=
  Option.some.inj ((ofOperator?_eq_some_iff.mpr h).symm.trans (ofOperator?_eq_some_iff.mpr h'))

namespace Condition

open Comparison (Named)
open Literal (Reads Held)

/-! ### Entries -/

/-- What a test asks of a reply: that a field compares with a value. -/
structure Demand where
  field : String
  comparison : Comparison
  value : Json

namespace Demand

/-- The value can be compared. -/
def Readable (d : Demand) : Prop := ∃ literal, Reads d.value literal

/-- The field of an object compares as demanded. -/
def MetBy (d : Demand) (entries : List (String × Json)) : Prop :=
  ∃ a literal, Held entries d.field a ∧ Reads d.value literal ∧ d.comparison.Compares a literal

end Demand

/-- The key names a field; all others are for operators. -/
abbrev IsField (key : String) : Prop := key.toList.head? ≠ some '$'

/-- The demands of an entry, one for a field and one for each field under an operator. -/
inductive Makes : String × Json → List Demand → Prop where
  | field {key : String} {v : Json} : IsField key → Makes (key, v) [⟨key, .eq, v⟩]
  | operator {key : String} {op : Comparison} {fields : List (String × Json)} : Named key op →
    Makes (key, .object fields) (fields.map fun e => ⟨e.1, op, e.2⟩)

/-- An entry that makes demands with values that can be compared. -/
def Understood (e : String × Json) : Prop := ∃ ds, Makes e ds ∧ ∀ d ∈ ds, d.Readable

/-- What is reported of an entry that is not understood. -/
inductive Refused : String × Json → ConditionError → Prop where
  | operator {key : String} {v : Json} : ¬ IsField key → (∀ op, ¬ Named key op) →
    Refused (key, v) (.unknownOperator key)
  | fields {key : String} {op : Comparison} {v : Json} : Named key op →
    (∀ fields, v ≠ .object fields) → Refused (key, v) (.expectedFieldMap key)
  | value {e : String × Json} {before after : List Demand} {d : Demand} :
    Makes e (before ++ d :: after) → (∀ d' ∈ before, d'.Readable) → ¬ d.Readable →
    Refused e (.nonScalarLiteral d.field)

/-- An object is as the entry demands. -/
def Satisfies (entries : List (String × Json)) (e : String × Json) : Prop :=
  ∃ ds, Makes e ds ∧ ∀ d ∈ ds, d.MetBy entries

variable {key : String} {op : Comparison} {v : Json} {e : String × Json} {d : Demand}
  {ds ds' : List Demand} {c : Clause} {cs : List Clause} {x : ConditionError}
  {fields entries : List (String × Json)}

theorem not_isField_of_named (named : Named key op) : ¬ IsField key := by
  cases named <;> decide

theorem Makes.unique (h : Makes e ds) (h' : Makes e ds') : ds = ds' := by
  cases h with
  | field bare =>
    cases h' with
    | field => rfl
    | operator named => exact absurd bare (not_isField_of_named named)
  | operator named =>
    cases h' with
    | field bare => exact absurd bare (not_isField_of_named named)
    | operator named' => rw [named.unique named']

/-! ### Reading an entry -/

/-- The clause of a demand. -/
def Demand.clause (d : Demand) : Except ConditionError Clause :=
  Condition.clause d.field d.comparison d.value

theorem Demand.clause_eq_ok_iff :
    d.clause = .ok c ↔ ∃ literal, Reads d.value literal ∧ c = ⟨d.field, d.comparison, literal⟩ := by
  unfold Demand.clause Condition.clause
  simp only [← Literal.ofJson?_eq_some_iff]
  cases Literal.ofJson? d.value with
  | none => simp
  | some literal => simp [eq_comm]

theorem Demand.clause_eq_error_iff :
    d.clause = .error x ↔ ¬ d.Readable ∧ x = .nonScalarLiteral d.field := by
  unfold Demand.clause Condition.clause Demand.Readable
  simp only [← Literal.ofJson?_eq_some_iff]
  cases Literal.ofJson? d.value with
  | none => simp [eq_comm]
  | some literal => simp

theorem Demand.exists_clause_iff : (∃ c, d.clause = .ok c) ↔ d.Readable := by
  simp only [Demand.clause_eq_ok_iff]
  constructor
  · rintro ⟨_, literal, reads, _⟩
    exact ⟨literal, reads⟩
  · rintro ⟨literal, reads⟩
    exact ⟨_, literal, reads, rfl⟩

/-- The clause of a demand is true of the objects that meet it. -/
theorem Demand.holds_iff (read : d.clause = .ok c) :
    c.holds (.object entries) = true ↔ d.MetBy entries := by
  obtain ⟨literal, reads, rfl⟩ := Demand.clause_eq_ok_iff.mp read
  refine Clause.trueOf_iff.trans ⟨?_, ?_⟩
  · rintro ⟨a, held, compares⟩
    exact ⟨a, literal, held, reads, compares⟩
  · rintro ⟨a, literal', held, reads', compares⟩
    rw [reads.unique reads']
    exact ⟨a, held, compares⟩

theorem entryClauses_of_unknown (operator : ¬ IsField key) (unknown : ∀ op, ¬ Named key op)
    (v : Json) : entryClauses key v = .error (.unknownOperator key) := by
  have none : Comparison.ofOperator? key = none := by
    refine Option.eq_none_iff_forall_ne_some.mpr fun op named => unknown op ?_
    exact Comparison.ofOperator?_eq_some_iff.mp named
  rw [entryClauses, if_neg operator, none]

theorem entryClauses_of_fields (named : Named key op) (fields : List (String × Json)) :
    entryClauses key (.object fields) = fields.mapM fun e => Condition.clause e.1 op e.2 := by
  rw [entryClauses, if_neg (not_isField_of_named named),
    Comparison.ofOperator?_eq_some_iff.mpr named]

theorem entryClauses_of_no_fields (named : Named key op) (other : ∀ fields, v ≠ .object fields) :
    entryClauses key v = .error (.expectedFieldMap key) := by
  rw [entryClauses, if_neg (not_isField_of_named named),
    Comparison.ofOperator?_eq_some_iff.mpr named]
  cases v with
  | object fields => exact absurd rfl (other fields)
  | _ => rfl

/-- An entry that makes demands has the clauses of these. -/
theorem Makes.entryClauses_eq (makes : Makes e ds) :
    entryClauses e.1 e.2 = ds.mapM Demand.clause := by
  cases makes with
  | field bare =>
    rw [entryClauses, if_pos bare, List.mapM_cons, List.mapM_nil]
    rfl
  | operator named =>
    rw [entryClauses_of_fields named, List.mapM_map]
    rfl

theorem Refused.entryClauses_eq (refused : Refused e x) : entryClauses e.1 e.2 = .error x := by
  cases refused with
  | operator bare unknown => exact entryClauses_of_unknown bare unknown _
  | fields named other => exact entryClauses_of_no_fields named other
  | value makes good bad =>
    rw [makes.entryClauses_eq, mapM_eq_error_iff]
    refine ⟨_, _, _, rfl, fun d there => ?_, Demand.clause_eq_error_iff.mpr ⟨bad, rfl⟩⟩
    exact Demand.exists_clause_iff.mpr (good d there)

theorem makes_or_refused (e : String × Json) : (∃ ds, Makes e ds) ∨ ∃ x, Refused e x := by
  obtain ⟨key, v⟩ := e
  by_cases bare : IsField key
  · exact .inl ⟨_, .field bare⟩
  by_cases known : ∃ op, Named key op
  · obtain ⟨op, named⟩ := known
    cases v with
    | object fields => exact .inl ⟨_, .operator named⟩
    | _ => exact .inr ⟨_, .fields named nofun⟩
  · exact .inr ⟨_, .operator bare (not_exists.mp known)⟩

/-- The clauses of an entry are those of its demands. -/
theorem entryClauses_eq_ok_iff :
    entryClauses e.1 e.2 = .ok cs ↔ ∃ ds, Makes e ds ∧ ds.mapM Demand.clause = .ok cs := by
  constructor
  · intro read
    rcases makes_or_refused e with ⟨ds, makes⟩ | ⟨x, refused⟩
    · exact ⟨ds, makes, makes.entryClauses_eq ▸ read⟩
    · cases refused.entryClauses_eq.symm.trans read
  · rintro ⟨ds, makes, read⟩
    rw [makes.entryClauses_eq, read]

theorem exists_entryClauses_iff : (∃ cs, entryClauses e.1 e.2 = .ok cs) ↔ Understood e := by
  have each : ∀ ds : List Demand,
      (∃ cs, ds.mapM Demand.clause = .ok cs) ↔ ∀ d ∈ ds, d.Readable := by
    simp only [exists_mapM_iff, Demand.exists_clause_iff, implies_true]
  constructor
  · rintro ⟨cs, read⟩
    obtain ⟨ds, makes, read⟩ := entryClauses_eq_ok_iff.mp read
    exact ⟨ds, makes, (each ds).mp ⟨cs, read⟩⟩
  · rintro ⟨ds, makes, readable⟩
    rw [makes.entryClauses_eq]
    exact (each ds).mpr readable

theorem entryClauses_eq_error_iff : entryClauses e.1 e.2 = .error x ↔ Refused e x := by
  refine ⟨fun failed => ?_, Refused.entryClauses_eq⟩
  rcases makes_or_refused e with ⟨ds, makes⟩ | ⟨x', refused⟩
  · rw [makes.entryClauses_eq, mapM_eq_error_iff] at failed
    obtain ⟨before, d, after, rfl, good, failed⟩ := failed
    obtain ⟨bad, rfl⟩ := Demand.clause_eq_error_iff.mp failed
    exact .value makes (fun d there => Demand.exists_clause_iff.mp (good d there)) bad
  · cases refused.entryClauses_eq.symm.trans failed
    exact refused

/-- The clauses of an entry are true of the objects that satisfy it. -/
theorem holds_entryClauses (read : entryClauses e.1 e.2 = .ok cs) :
    (∀ c ∈ cs, c.holds (.object entries) = true) ↔ Satisfies entries e := by
  obtain ⟨ds, makes, read⟩ := entryClauses_eq_ok_iff.mp read
  rw [forall_mapM_iff read fun d c read => Demand.holds_iff read]
  constructor
  · exact fun met => ⟨ds, makes, met⟩
  · rintro ⟨ds', makes', met⟩
    rwa [makes.unique makes']

/-! ### Reading a test -/

variable {test : List (String × Json)} {condition : Condition} {reply : Json}

theorem ofTest_eq (test : List (String × Json)) : ofTest test =
    (test.mapM fun e => entryClauses e.1 e.2).map fun css => ⟨css.flatten⟩ := by
  rw [ofTest]
  cases test.mapM fun e => entryClauses e.1 e.2 <;> rfl

theorem exists_ofTest_iff : (∃ c, ofTest test = .ok c) ↔ ∀ e ∈ test, Understood e := by
  simp only [ofTest_eq, map_eq_ok_iff, ← exists_entryClauses_iff, ← exists_mapM_iff]
  exact ⟨fun ⟨_, css, read, _⟩ => ⟨css, read⟩, fun ⟨css, read⟩ => ⟨_, css, read, rfl⟩⟩

theorem ofTest_eq_error_iff : ofTest test = .error x ↔
    ∃ before e after, test = before ++ e :: after ∧ (∀ e' ∈ before, Understood e') ∧
      Refused e x := by
  simp only [ofTest_eq, map_eq_error_iff, mapM_eq_error_iff, exists_entryClauses_iff,
    entryClauses_eq_error_iff]

/-- A condition is true of the objects that satisfy all entries of its test. -/
theorem holds_iff (read : ofTest test = .ok condition) : condition.holds reply = true ↔
    ∃ entries, reply = .object entries ∧ ∀ e ∈ test, Satisfies entries e := by
  rw [ofTest_eq, map_eq_ok_iff] at read
  obtain ⟨css, read, rfl⟩ := read
  cases reply with
  | object entries =>
    have all : (∀ cs ∈ css, ∀ c ∈ cs, c.holds (.object entries) = true) ↔
        ∀ e ∈ test, Satisfies entries e :=
      forall_mapM_iff read fun e cs read => holds_entryClauses read
    simp only [holds, Json.entries?, Option.isSome_some, Bool.true_and, List.all_eq_true,
      List.forall_mem_flatten, all, Json.object.injEq, exists_eq_left']
  | _ => simp [holds, Json.entries?]

/-- **A condition says what its test says.** A test is read when each of its entries can be, and the
first that cannot be is reported. A reply meets the condition when it is an object that is as each
entry demands. The order of the entries changes neither. -/
theorem interprets_ofTest (test : List (String × Json)) :
    ((∃ c, ofTest test = .ok c) ↔ ∀ e ∈ test, Understood e) ∧
    (∀ x, ofTest test = .error x ↔ ∃ before e after, test = before ++ e :: after ∧
      (∀ e' ∈ before, Understood e') ∧ Refused e x) ∧
    (∀ c, ofTest test = .ok c → ∀ reply, c.holds reply = true ↔
      ∃ entries, reply = .object entries ∧ ∀ e ∈ test, Satisfies entries e) ∧
    ∀ test', test.Perm test' → ((∃ c, ofTest test' = .ok c) ↔ ∃ c, ofTest test = .ok c) ∧
      ∀ c c', ofTest test = .ok c → ofTest test' = .ok c' →
        ∀ reply, c.holds reply = c'.holds reply := by
  refine ⟨exists_ofTest_iff, fun x => ofTest_eq_error_iff, fun c read reply => holds_iff read,
    fun test' perm => ⟨?_, fun c c' read read' reply => ?_⟩⟩
  · simp only [exists_ofTest_iff, perm.mem_iff]
  · rw [Bool.eq_iff_iff, holds_iff read, holds_iff read']
    simp only [perm.mem_iff]

end Condition

end ApiGateway
