import ApiGateway.Proofs.Value.Setting
import ApiGateway.Proofs.Value.Converting

/-
Values in the form that variables give them.

A variable may hold one of many values: numbers as text or not, objects with entries that nobody
declared. It gives back one of them (`Variable.toValue`), and that one makes the same variable again
(`TypeRegistry.Holds.toValue`). So a value is brought into its normal form at once, or not at all.

Where two members of a type had one name, the later would be lost in the value; no type has such
members (`TypeRegistry.Distinct`).

* `TypeRegistry.normalise` - the value that a variable of a member gives back.
* `Variable.restores_setValue` - what a variable was set to is what its own value sets it to.
-/

namespace ApiGateway

open Json (given?)
open Variable

/-! ### The values of variables -/

namespace Variable

theorem itemsToValue_eq (xs : List Variable) : itemsToValue xs = xs.map toValue := by
  induction xs with
  | nil => rfl
  | cons x xs ih => rw [itemsToValue, ih, List.map_cons]

theorem membersToValue_eq (xs : List (String × Variable)) :
    membersToValue xs = xs.map fun x => (x.1, x.2.toValue) := by
  induction xs with
  | nil => rfl
  | cons x xs ih =>
    obtain ⟨name, x⟩ := x
    rw [membersToValue, ih, List.map_cons]

theorem keys_membersToValue (xs : List (String × Variable)) :
    (membersToValue xs).map (·.1) = xs.map (·.1) := by
  rw [membersToValue_eq, List.map_map]
  rfl

/-- The value of an object gives the values of its parts. -/
theorem given?_value {xs : List (String × Variable)} (distinct : (xs.map (·.1)).Nodup)
    {x : String × Variable} (there : x ∈ xs) (visible : x.2.toValue.isNull = false) :
    given? (Json.sortEntries (membersToValue xs)) x.1 = some x.2.toValue := by
  rw [← keys_membersToValue] at distinct
  have stands : (x.1, x.2.toValue) ∈ membersToValue xs := by
    rw [membersToValue_eq]
    exact List.mem_map_of_mem there
  rw [Json.given?_of_nodup (Json.sorted_sortEntries _).nodup, Json.lookup_sortEntries distinct,
    (Json.lookup_eq_some_iff distinct).mpr stands]
  simp [visible]

/-- It gives nothing else. -/
theorem mem_of_given?_value {xs : List (String × Variable)} {name : String} {v : Json}
    (given : given? (Json.sortEntries (membersToValue xs)) name = some v) :
    name ∈ xs.map (·.1) := by
  have there := Json.mem_of_mem_sortEntries (Json.mem_of_given? given).1
  rw [← keys_membersToValue]
  exact List.mem_map.mpr ⟨_, there, rfl⟩

/-- The members that the value of an object gives are those that were given for its parts. -/
theorem given_value {xs : List (String × Variable)} {ms : Members} {es : List (String × Json)}
    (names : xs.map (·.1) = (ms.given es).map (·.1))
    (gives : ∀ x ∈ xs,
      given? (Json.sortEntries (membersToValue xs)) x.1 = some x.2.toValue) :
    ms.given (Json.sortEntries (membersToValue xs)) = ms.given es := by
  refine List.filter_congr fun e there => Bool.eq_iff_iff.mpr ⟨fun present => ?_, fun present => ?_⟩
  · obtain ⟨v, given⟩ := Option.isSome_iff_exists.mp present
    have part := mem_of_given?_value given
    rw [names] at part
    obtain ⟨e', own, same⟩ := List.mem_map.mp part
    rw [← same]
    exact (List.mem_filter.mp own).2
  · have own : e.1 ∈ (ms.given es).map (·.1) :=
      List.mem_map_of_mem (List.mem_filter.mpr ⟨there, present⟩)
    rw [← names] at own
    obtain ⟨x, part, same⟩ := List.mem_map.mp own
    rw [← same, gives x part]
    rfl

end Variable

/-! ### The same variable again -/

/-- Integers are read in the range of 64 bits only. -/
theorem Json.inSigned64_of_integerValue? {v : Json} {i : Int} (read : v.integerValue? = some i) :
    Number.inSigned64 i = true := by
  rw [inSigned64_iff]
  cases v with
  | number n => exact (integerNumber?_eq_some_iff.mp read).2
  | string s => exact (integerText?_eq_some_iff.mp read).2
  | _ => cases read

namespace TypeRegistry

variable {r : TypeRegistry} {m : Member} {v : Json} {x : Variable}

/-- No declared type has two members of one name. -/
def Distinct (r : TypeRegistry) : Prop := ∀ t ∈ r.types, (t.members.map (·.1)).Nodup

theorem Holds.visible (holds : r.Holds m v x) : x.toValue.isNull = false := by
  cases holds <;> rfl

/-- The value that a variable gives back makes the same variable. -/
theorem Holds.toValue (holds : r.Holds m v x) (distinct : r.Distinct) : r.Holds m x.toValue x := by
  induction holds with
  | integer type read =>
    exact .integer type (if_pos (Json.inSigned64_of_integerValue? read))
  | float type _ => exact .float type rfl
  | boolean type _ => exact .boolean type rfl
  | string type _ => exact .string type rfl
  | @array m name vs xs type knows lengths _ flat each =>
    rw [Variable.toValue, itemsToValue_eq]
    refine .array type knows (List.length_map _) (fun w x there => ?_) flat
    have pairs : (xs.map Variable.toValue).zip xs = xs.map fun x => (x.toValue, x) := by
      simpa using List.zip_map' (f := Variable.toValue) (g := id) (l := xs)
    rw [pairs] at there
    obtain ⟨x, part, same⟩ := List.mem_map.mp there
    cases same
    obtain ⟨v, pair⟩ := exists_zip_right lengths part
    exact each v x pair
  | @object m name t es xs type declared found complete names held each =>
    have apart : (xs.map (·.1)).Nodup := by
      rw [names]
      exact (distinct t (List.mem_of_find?_eq_some found)).sublist (List.filter_sublist.map _)
    have gives : ∀ x ∈ xs,
        given? (Json.sortEntries (membersToValue xs)) x.1 = some x.2.toValue := by
      intro x part
      obtain ⟨e, pair⟩ := exists_zip_right (length_of_names names) part
      obtain ⟨-, v, given⟩ := Members.mem_given_iff.mp (List.of_mem_zip pair).1
      exact given?_value apart part (held e x v pair given).visible
    have again := given_value names gives
    refine .object type declared found (fun e there required => ?_) ?_ fun e x v pair given => ?_
    · have own : e ∈ t.members.given es := List.mem_filter.mpr ⟨there, complete e there required⟩
      rw [← again] at own
      exact (List.mem_filter.mp own).2
    · rw [again]
      exact names
    · rw [again] at pair
      obtain ⟨own, part⟩ := List.of_mem_zip pair
      obtain ⟨-, w, given'⟩ := Members.mem_given_iff.mp own
      rw [← eq_of_names names pair, gives x part] at given
      cases given
      exact each e x w pair given'

/-- The value that a variable of a member gives back when it is set to a value. -/
def normalise (r : TypeRegistry) (m : Member) (v : Json) : Except ValueError Json :=
  (r.build m v).map Variable.toValue

/-- A value that was brought into its normal form stays as it is. -/
theorem normalise_normalise (distinct : r.Distinct) (m : Member) (v : Json) :
    r.normalise m v >>= r.normalise m = r.normalise m v := by
  unfold normalise
  cases built : r.build m v with
  | error e => rfl
  | ok x =>
    have again := build_of_holds ((holds_of_build built).toValue distinct)
    exact congrArg (Except.map Variable.toValue) again

end TypeRegistry

/-- A variable that was set gives back a value that sets a new variable to the same; and a value in
its normal form is in no other. -/
theorem Variable.restores_setValue {r : TypeRegistry} (distinct : r.Distinct) {m : Member}
    {x : Variable} (created : r.create m = .ok x) (v : Json) :
    ((setValue r v x).1 = .ok () →
        setValue r (setValue r v x).2.toValue x = (.ok (), (setValue r v x).2)) ∧
      r.normalise m v >>= r.normalise m = r.normalise m v := by
  refine ⟨fun done => ?_, TypeRegistry.normalise_normalise distinct m v⟩
  have holds := (holds_setValue created done).toValue distinct
  rw [setValue_eq_ok_iff, ← TypeRegistry.build_of_create created]
  exact TypeRegistry.build_of_holds holds

/-- In its normal form a comment has its votes as a number and its members in the order of their
names, and nothing that is not declared. -/
theorem Variable.restores_setValue_comment :
    comments.Distinct ∧
      comments.create (.ofItems "Comment") = .ok (.object (.ofItems "Comment") commentType []) ∧
      comments.normalise (.ofItems "Comment") repliedComment = .ok (.object
        [("replies", .array [.object [("text", .string "b"), ("votes", .number (.int 7))]]),
          ("text", .string "5")]) ∧
      setValue comments
          (setValue comments repliedComment (.object (.ofItems "Comment") commentType [])).2.toValue
          (.object (.ofItems "Comment") commentType []) =
        (.ok (),
          (setValue comments repliedComment (.object (.ofItems "Comment") commentType [])).2) := by
  have distinct : comments.Distinct := by
    unfold TypeRegistry.Distinct
    decide
  exact ⟨distinct, rfl, rfl,
    (restores_setValue distinct (m := .ofItems "Comment") rfl repliedComment).1 rfl⟩

end ApiGateway
