import ApiGateway.Proofs.Value.Normalising

/-
Variables as they can be reached: created for a member and set, again and again.

Whatever they are set to, and from whichever registries, their integers are signed words of 64 bits,
and their objects hold declared members only, none twice, in the order of declaration
(`Variable.Reachable.wellFormed`). One value keeps that (`Variable.WellFormed.setValue`), since the
parts that it fills in are created anew.

* `Variable.Reachable` - created and set.
* `Variable.parts` - a variable and all variables inside it.
* `Variable.WellFormed` - what is true of all of them.
-/

namespace ApiGateway

namespace Variable

/-- A variable that was created for a member, and then set any number of times, whether that
succeeded or not. No type of the registries has two members of one name. -/
inductive Reachable : Variable → Prop
  | created {r : TypeRegistry} {m : Member} {x : Variable} : r.Distinct → r.create m = .ok x →
      Reachable x
  | set {r : TypeRegistry} {x : Variable} (v : Json) : r.Distinct → Reachable x →
      Reachable (setValue r v x).2

/-! ### Inside a variable -/

mutual
/-- A variable and all variables inside it. -/
def parts : Variable → List Variable
  | .array m element items => .array m element items :: partsOfItems items
  | .object m t members => .object m t members :: partsOfMembers members
  | x => [x]

def partsOfItems : List Variable → List Variable
  | [] => []
  | x :: xs => parts x ++ partsOfItems xs

def partsOfMembers : List (String × Variable) → List Variable
  | [] => []
  | (_, x) :: xs => parts x ++ partsOfMembers xs
end

theorem mem_partsOfItems {y : Variable} {xs : List Variable} :
    y ∈ partsOfItems xs ↔ ∃ x ∈ xs, y ∈ x.parts := by
  induction xs with
  | nil => simp [partsOfItems]
  | cons x xs ih => simp [partsOfItems, ih]

theorem mem_partsOfMembers {y : Variable} {xs : List (String × Variable)} :
    y ∈ partsOfMembers xs ↔ ∃ x ∈ xs, y ∈ x.2.parts := by
  induction xs with
  | nil => simp [partsOfMembers]
  | cons x xs ih => simp [partsOfMembers, ih]

theorem mem_parts_array {y : Variable} {m element : Member} {xs : List Variable} :
    y ∈ (Variable.array m element xs).parts ↔
      y = .array m element xs ∨ ∃ x ∈ xs, y ∈ x.parts := by
  rw [parts, List.mem_cons, mem_partsOfItems]

theorem mem_parts_object {y : Variable} {m : Member} {t : DataType}
    {xs : List (String × Variable)} :
    y ∈ (Variable.object m t xs).parts ↔ y = .object m t xs ∨ ∃ x ∈ xs, y ∈ x.2.parts := by
  rw [parts, List.mem_cons, mem_partsOfMembers]

/-! ### Well-formed variables -/

/-- Integers are signed words of 64 bits, and objects hold members of their type, none twice, in the
order of declaration. -/
inductive WellFormed : Variable → Prop
  | int {m : Member} {i : Int} : Json.Number.inSigned64 i = true → WellFormed (.int m i)
  | float {m : Member} {x : Double} : WellFormed (.float m x)
  | bool {m : Member} {b : Bool} : WellFormed (.bool m b)
  | string {m : Member} {s : String} : WellFormed (.string m s)
  | array {m element : Member} {xs : List Variable} : (∀ x ∈ xs, WellFormed x) →
      WellFormed (.array m element xs)
  | object {m : Member} {t : DataType} {xs : List (String × Variable)} :
      (t.members.map (·.1)).Nodup → (xs.map (·.1)).Sublist (t.members.map (·.1)) →
      (∀ x ∈ xs, WellFormed x.2) → WellFormed (.object m t xs)

end Variable

namespace TypeRegistry

variable {r : TypeRegistry} {m : Member} {x : Variable}

theorem Empty.wellFormed (empty : r.Empty m x) (distinct : r.Distinct) : x.WellFormed := by
  cases empty with
  | integer => exact .int rfl
  | float => exact .float
  | boolean => exact .bool
  | string => exact .string
  | array => exact .array nofun
  | object _ _ found =>
    exact .object (distinct _ (List.mem_of_find?_eq_some found)) (List.nil_sublist _) nofun

end TypeRegistry

namespace Variable

variable {r : TypeRegistry} {m : Member} {v : Json} {x y : Variable}

/-- What is filled in is well-formed: it is read as a word, or its parts are filled after they were
created. -/
theorem WellFormed.fill (wellFormed : x.WellFormed) (distinct : r.Distinct)
    (filled : fill r v x = .ok y) : y.WellFormed := by
  induction v using Json.within_induction generalizing x y with
  | step v items entries =>
    -- A part that is built for a member was empty before it was filled.
    have built : ∀ w : Json,
        (∀ {x y : Variable}, x.WellFormed → Variable.fill r w x = .ok y → y.WellFormed) →
        ∀ {m : Member} {z : Variable}, r.build m w = .ok z → z.WellFormed := by
      intro w filling m z built
      obtain ⟨_, empty, filled⟩ := TypeRegistry.build_eq_ok_iff_fill.mp built
      exact filling (empty.wellFormed distinct) filled
    cases wellFormed with
    | int =>
      rw [fill_int] at filled
      obtain ⟨i, read, rfl⟩ := convert_eq_ok_iff.mp filled
      exact .int (Json.inSigned64_of_integerValue? read)
    | float =>
      rw [fill_float] at filled
      obtain ⟨_, -, rfl⟩ := convert_eq_ok_iff.mp filled
      exact .float
    | bool =>
      rw [fill_bool] at filled
      obtain ⟨_, -, rfl⟩ := convert_eq_ok_iff.mp filled
      exact .bool
    | string =>
      rw [fill_string] at filled
      obtain ⟨_, -, rfl⟩ := convert_eq_ok_iff.mp filled
      exact .string
    | array =>
      cases v with
      | array vs =>
        rw [fill_array] at filled
        obtain ⟨xs, each, rfl⟩ := map_eq_ok_iff.mp filled
        obtain ⟨lengths, zipped⟩ := List.forall₂_iff_zip.mp (fillItems_eq_ok_iff.mp each)
        refine .array fun x there => ?_
        obtain ⟨w, pair⟩ := exists_zip_right lengths there
        exact built w (items vs rfl w (List.of_mem_zip pair).1) (zipped pair)
      | _ => cases filled
    | @object m t _ names _ _ =>
      cases v with
      | object es =>
        rw [fill_object] at filled
        obtain ⟨xs, each, rfl⟩ := map_eq_ok_iff.mp filled
        obtain ⟨-, made⟩ := fillMembers_eq_ok_iff.mp each
        have same := names_of_made made
        refine .object names ?_ fun x there => ?_
        · rw [same]
          exact List.filter_sublist.map _
        · obtain ⟨e, pair⟩ := exists_zip_right (length_of_names same) there
          obtain ⟨-, w, given, own⟩ := List.forall₂_zip made pair
          exact built w (entries es rfl (e.1, w) (Json.mem_of_given? given).1) own
      | _ => cases filled

/-- A value, whether it can be set or not, leaves a well-formed variable well-formed. -/
theorem WellFormed.setValue (wellFormed : x.WellFormed) (distinct : r.Distinct) (v : Json) :
    (setValue r v x).2.WellFormed := by
  rw [setValue_eq]
  cases filled : Variable.fill r v x with
  | ok y => exact wellFormed.fill distinct filled
  | error e => exact wellFormed

theorem Reachable.wellFormed (reachable : x.Reachable) : x.WellFormed := by
  induction reachable with
  | created distinct created => exact (TypeRegistry.create_eq_ok_iff.mp created).wellFormed distinct
  | set v distinct _ ih => exact ih.setValue distinct v

end Variable

end ApiGateway
