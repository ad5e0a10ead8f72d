import ApiGateway.Proofs.Value.Building

/-
Variables that are set in place, and set again.

Setting a variable does to it what filling gives, or nothing (`Variable.setValue_eq`). What it holds
plays no part in that (`Variable.fill_emptied`): only its kind and what was declared of it do, and no
value changes those (`Variable.emptied_setValue`).

* `Variable.conforms_setValue` - which values can be set, and what the variable holds then.
* `Variable.emptied` - a variable without what it holds.
* `lastSet?` - the last of several values that was set.
* `Variable.remembers_setAll` - a variable that was set many times is one that was set once.
-/

namespace ApiGateway

namespace Variable

variable {r : TypeRegistry} {m : Member} {v : Json} {x y : Variable}

/-! ### One value -/

/-- What is read before the variable is assigned to either fails, or is assigned. -/
theorem run_assign {α : Type} (read : Except ValueError α) (f : α → Variable) (x : Variable) :
    ((do set (f (← read)) : Setter).run.run x : Except ValueError Unit × Variable) =
      match read.map f with
      | .ok y => (.ok (), y)
      | .error e => (.error e, x) := by
  cases read <;> rfl

/-- A value that cannot be set leaves the variable as it was; one that can is filled in. -/
theorem setValue_eq (r : TypeRegistry) (v : Json) (x : Variable) :
    setValue r v x = match fill r v x with
      | .ok y => (.ok (), y)
      | .error e => (.error e, x) := by
  cases x with
  | int m i =>
    rw [fill_int]
    exact run_assign _ (.int m) _
  | float m d =>
    rw [fill_float]
    exact run_assign _ (.float m) _
  | bool m b =>
    rw [fill_bool]
    exact run_assign _ (.bool m) _
  | string m s =>
    rw [fill_string]
    exact run_assign _ (.string m) _
  | array m element xs =>
    cases v with
    | array vs =>
      rw [fill_array]
      exact run_assign _ (.array m element) _
    | _ => rfl
  | object m t xs =>
    cases v with
    | object es =>
      rw [fill_object]
      exact run_assign _ (.object m t) _
    | _ => rfl
  | nil => cases v <;> rfl

theorem setValue_eq_ok_iff : setValue r v x = (.ok (), y) ↔ fill r v x = .ok y := by
  rw [setValue_eq]
  cases fill r v x <;> simp

theorem setValue_ok_iff : (setValue r v x).1 = .ok () ↔ ∃ y, fill r v x = .ok y := by
  rw [setValue_eq]
  cases fill r v x <;> simp

theorem setValue_error_iff {e : ValueError} :
    (setValue r v x).1 = .error e ↔ fill r v x = .error e := by
  rw [setValue_eq]
  cases fill r v x <;> simp

theorem setValue_of_failed (failed : (setValue r v x).1 ≠ .ok ()) : (setValue r v x).2 = x := by
  rw [setValue_eq] at failed ⊢
  cases filled : fill r v x with
  | ok y => exact absurd (by rw [filled]) failed
  | error e => rfl

/-- A new variable that was set holds the value. -/
theorem holds_setValue (created : r.create m = .ok x) (done : (setValue r v x).1 = .ok ()) :
    r.Holds m v (setValue r v x).2 := by
  obtain ⟨y, filled⟩ := setValue_ok_iff.mp done
  rw [setValue_eq_ok_iff.mpr filled]
  exact TypeRegistry.holds_of_build ((TypeRegistry.build_of_create created v).trans filled)

/-- A new variable of a member can be set to a value exactly when the value conforms to the type of
the member, and then it holds the value. -/
theorem conforms_setValue (created : r.create m = .ok x) (v : Json) :
    ((setValue r v x).1 = .ok () ↔ r.Conforms m.type v) ∧
      ((setValue r v x).1 = .ok () → r.Holds m v (setValue r v x).2) := by
  refine ⟨?_, holds_setValue created⟩
  rw [setValue_ok_iff, ← TypeRegistry.build_of_create created]
  exact TypeRegistry.exists_build_iff

/-- A comment, which has comments for replies. -/
def commentType : DataType :=
  { name := "Comment"
    members := [("text", { type := .named "string", required := true }),
      ("votes", { type := .named "integer" }), ("replies", { type := .list [.named "Comment"] })] }

def comments : TypeRegistry := ⟨[commentType]⟩

/-- A comment with one reply, and with an entry that is no member. -/
def repliedComment : Json :=
  .object [("author", .string "ann"),
    ("replies", .array [.object [("text", .string "b"), ("votes", .string " +7 ")]]),
    ("text", .number (.int 5)), ("votes", .null)]

/-- Its text is a number and the votes of its reply are a text, which are both converted. -/
theorem conforms_setValue_comment :
    comments.create (.ofItems "Comment") = .ok (.object (.ofItems "Comment") commentType []) ∧
      comments.Conforms (.named "Comment") repliedComment ∧
      comments.Holds (.ofItems "Comment") repliedComment
        (setValue comments repliedComment (.object (.ofItems "Comment") commentType [])).2 :=
  have both := conforms_setValue (r := comments) (m := .ofItems "Comment") rfl repliedComment
  ⟨rfl, both.1.mp rfl, both.2 rfl⟩

/-! ### Many values -/

/-- The variable without what it holds. -/
def emptied : Variable → Variable
  | .int m _ => .int m 0
  | .float m _ => .float m (Double.zero false)
  | .bool m _ => .bool m false
  | .string m _ => .string m ""
  | .array m element _ => .array m element []
  | .object m t _ => .object m t []
  | .nil => .nil

/-- What is filled in does not depend on what was there. -/
theorem fill_emptied (r : TypeRegistry) (v : Json) (x : Variable) :
    fill r v x.emptied = fill r v x := by cases v <;> cases x <;> rfl

/-- Nothing but what a variable holds comes from the value. -/
theorem emptied_of_map {α : Type} {read : Except ValueError α} {f : α → Variable}
    (filled : read.map f = .ok y) (same : ∀ a, (f a).emptied = x.emptied) :
    y.emptied = x.emptied := by
  obtain ⟨a, -, rfl⟩ := map_eq_ok_iff.mp filled
  exact same a

theorem emptied_of_fill (filled : fill r v x = .ok y) : y.emptied = x.emptied := by
  cases x with
  | int m i =>
    rw [fill_int] at filled
    exact emptied_of_map filled fun _ => rfl
  | float m d =>
    rw [fill_float] at filled
    exact emptied_of_map filled fun _ => rfl
  | bool m b =>
    rw [fill_bool] at filled
    exact emptied_of_map filled fun _ => rfl
  | string m s =>
    rw [fill_string] at filled
    exact emptied_of_map filled fun _ => rfl
  | array m element xs =>
    cases v with
    | array vs =>
      rw [fill_array] at filled
      exact emptied_of_map filled fun _ => rfl
    | _ => cases filled
  | object m t xs =>
    cases v with
    | object es =>
      rw [fill_object] at filled
      exact emptied_of_map filled fun _ => rfl
    | _ => cases filled
  | nil => cases v <;> cases filled

theorem emptied_setValue (r : TypeRegistry) (v : Json) (x : Variable) :
    (setValue r v x).2.emptied = x.emptied := by
  rw [setValue_eq]
  cases filled : fill r v x with
  | ok y => exact emptied_of_fill filled
  | error e => rfl

/-- Two variables that differ only in what they hold are filled alike. -/
theorem fill_congr (same : x.emptied = y.emptied) (r : TypeRegistry) (v : Json) :
    fill r v x = fill r v y := by
  rw [← fill_emptied r v x, same, fill_emptied]

end Variable

open Variable

/-- The last of the values that was set, with the registry it was set from. -/
def lastSet? (calls : List (TypeRegistry × Json)) (results : List (Except ValueError Unit)) :
    Option (TypeRegistry × Json) :=
  ((calls.zip results).filter fun call => call.2.isOk).getLast?.map (·.1)

theorem lastSet?_cons (call : TypeRegistry × Json) (calls : List (TypeRegistry × Json))
    (result : Except ValueError Unit) (results : List (Except ValueError Unit)) :
    lastSet? (call :: calls) (result :: results) =
      (lastSet? calls results).or (if result.isOk then some call else none) := by
  unfold lastSet?
  rw [List.zip_cons_cons, List.filter_cons]
  cases result.isOk with
  | false => simp
  | true =>
    rw [if_pos rfl, if_pos rfl, List.getLast?_cons]
    cases ((calls.zip results).filter fun call => call.2.isOk).getLast? <;> rfl

/-- A variable that was set many times is as it began if nothing was set, and otherwise as any
variable of its declaration that only the last value was set to. A value that fails next leaves it
at that. -/
theorem Variable.remembers_setAll (calls : List (TypeRegistry × Json)) (x : Variable) :
    (∀ r v, (setValue r v (setAll calls x).2).1 ≠ .ok () →
        (setValue r v (setAll calls x).2).2 = (setAll calls x).2) ∧
      match lastSet? calls (setAll calls x).1 with
      | none => (setAll calls x).2 = x
      | some (r, v) => ∀ y : Variable, y.emptied = x.emptied →
          setValue r v y = (.ok (), (setAll calls x).2) := by
  refine ⟨fun r v failed => setValue_of_failed failed, ?_⟩
  -- The first value is done with when a later one was set: then only the declaration is left of it.
  induction calls generalizing x with
  | nil => rfl
  | cons call calls ih =>
    obtain ⟨r, v⟩ := call
    have later := ih (setValue r v x).2
    rw [setAll, lastSet?_cons]
    cases last : lastSet? calls (setAll calls (setValue r v x).2).1 with
    | some call =>
      rw [last] at later
      exact fun y same => later y (same.trans (emptied_setValue r v x).symm)
    | none =>
      rw [last] at later
      dsimp only at later ⊢
      rw [later]
      cases result : (setValue r v x).1 with
      | error e => exact setValue_of_failed (by rw [result]; exact nofun)
      | ok done =>
        intro y same
        have filled := setValue_eq_ok_iff.mp (Prod.ext result rfl : setValue r v x = (.ok (), _))
        exact setValue_eq_ok_iff.mpr ((fill_congr same r v).trans filled)

end ApiGateway
