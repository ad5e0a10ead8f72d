import ApiGateway.Proofs.Json.Writing
import ApiGateway.Proofs.Value.WellFormed

/-
Variables written as text.

A variable is written with its members in the order of declaration, and given away as a value with
them in ascending order. The text has a tree that shows the variable as it is (`Json.Node.Shows`):
objects list the names that the variable holds, in the order of declaration, none twice, and texts
are what they were before anything in them was escaped. The value of that tree is the value that is
given away.

Floating-point numbers are left out: not all of them are written as numbers.

* `Json.Node.Shows` - the tree of a text shows a variable.
* `Variable.shows_text` - the text of a variable shows it and says its value. A reader that follows
  a text to a limit only reads the value up to that.
-/

namespace ApiGateway

def Variable.isFloat : Variable → Bool
  | .float _ _ => true
  | _ => false

/-- No number is a floating-point one. -/
def Variable.Floatless (x : Variable) : Prop := ∀ y ∈ x.parts, y.isFloat = false

/-- The tree shows a variable: numbers and texts as they are, an item for each item, and an entry
for each member, in the order in which the type declares them, no key twice. -/
inductive Json.Node.Shows : Json.Node → Variable → Prop
  | int {m : Member} {i : Int} : Shows (.number (some (.int i))) (.int m i)
  | bool {m : Member} {b : Bool} : Shows (.bool b) (.bool m b)
  | string {m : Member} {s : String} : Shows (.string (some s)) (.string m s)
  | array {m element : Member} {ns : List Json.Node} {xs : List Variable} :
      ns.length = xs.length → (∀ n x, (n, x) ∈ ns.zip xs → Shows n x) →
      Shows (.array ns) (.array m element xs)
  | object {m : Member} {t : DataType} {es : List (Option String × Json.Node)}
      {xs : List (String × Variable)} : es.map (·.1) = xs.map (some ·.1) → (es.map (·.1)).Nodup →
      (es.map (·.1)).Sublist (t.members.map (some ·.1)) →
      (∀ e x, (e, x) ∈ es.zip xs → Shows e.2 x.2) → Shows (.object es) (.object m t xs)

namespace Variable

variable {x : Variable} {m element : Member} {t : DataType}

/-! ### Parts without floating-point numbers -/

theorem Floatless.item {xs : List Variable} (floatless : (array m element xs).Floatless) :
    ∀ x ∈ xs, x.Floatless :=
  fun x there y inside => floatless y (mem_parts_array.mpr (.inr ⟨x, there, inside⟩))

theorem Floatless.member {xs : List (String × Variable)} (floatless : (object m t xs).Floatless) :
    ∀ x ∈ xs, x.2.Floatless :=
  fun x there y inside => floatless y (mem_parts_object.mpr (.inr ⟨x, there, inside⟩))

/-! ### What is written -/

theorem itemsToJson_eq (xs : List Variable) : itemsToJson xs = xs.map toJson := by
  induction xs with
  | nil => rfl
  | cons x xs ih => rw [itemsToJson, ih, List.map_cons]

theorem membersToJson_eq (xs : List (String × Variable)) :
    membersToJson xs = xs.map fun x => (x.1, x.2.toJson) := by
  induction xs with
  | nil => rfl
  | cons x xs ih =>
    obtain ⟨name, x⟩ := x
    rw [membersToJson, ih, List.map_cons]

/-- Numbers are written as words of 64 bits. -/
theorem WellFormed.integral (wellFormed : x.WellFormed) (floatless : x.Floatless) :
    x.toJson.Integral := by
  induction wellFormed with
  | int signed => exact Json.integral_int.mpr (.inl signed)
  | float => cases floatless _ List.mem_cons_self
  | bool => exact Json.integral_bool _
  | string => exact Json.integral_string _
  | array _ ih =>
    rw [toJson, itemsToJson_eq, Json.integral_array, List.forall_mem_map]
    exact fun x there => ih x there (floatless.item x there)
  | object _ _ _ ih =>
    rw [toJson, membersToJson_eq, Json.integral_object, List.forall_mem_map]
    exact fun x there => ih x there (floatless.member x there)

/-- What is written shows the variable. -/
theorem WellFormed.shows (wellFormed : x.WellFormed) (floatless : x.Floatless) :
    (Json.Node.ofJson x.toJson).Shows x := by
  induction wellFormed with
  | int => exact .int
  | float => cases floatless _ List.mem_cons_self
  | bool => exact .bool
  | string => exact .string
  | @array m element xs _ ih =>
    rw [toJson, Json.Node.ofJson, itemsToJson_eq, Json.Node.ofItems_eq, List.map_map]
    refine .array (List.length_map _) fun n x there => ?_
    rw [← List.map_prod_right_eq_zip] at there
    obtain ⟨x, part, same⟩ := List.mem_map.mp there
    cases same
    exact ih x part (floatless.item x part)
  | @object m t xs distinct names _ ih =>
    have keys : (Json.Node.ofEntries (membersToJson xs)).map (·.1) = xs.map (some ·.1) := by
      rw [Json.Node.ofEntries_eq, membersToJson_eq, List.map_map, List.map_map]
      rfl
    have shown : (xs.map (some ·.1)).Sublist (t.members.map (some ·.1)) := by
      simpa only [List.map_map, Function.comp_def] using names.map some
    have once : (t.members.map (some ·.1)).Nodup := by
      simpa only [List.map_map, Function.comp_def] using
        distinct.map fun _ _ => Option.some.inj
    rw [toJson, Json.Node.ofJson]
    refine .object keys ?_ ?_ fun e x there => ?_
    · rw [keys]
      exact once.sublist shown
    · rw [keys]
      exact shown
    · rw [Json.Node.ofEntries_eq, membersToJson_eq, List.map_map,
        ← List.map_prod_right_eq_zip] at there
      obtain ⟨x, part, same⟩ := List.mem_map.mp there
      cases same
      exact ih x part (floatless.member x part)

mutual
/-- The tree of what is written has the value that is given away. -/
theorem value?_toJson (x : Variable) :
    (Json.Node.ofJson x.toJson).value? = some x.toValue := by
  cases x with
  | int | float | bool | string | nil => rfl
  | array m element xs =>
    rw [toJson, Json.Node.ofJson, Json.Node.value?, valueItems?_toJson xs]
    rfl
  | object m t xs =>
    rw [toJson, Json.Node.ofJson, Json.Node.value?, valueEntries?_toJson xs]
    rfl

theorem valueItems?_toJson (xs : List Variable) :
    Json.Node.valueItems? (Json.Node.ofItems (itemsToJson xs)) = some (itemsToValue xs) := by
  cases xs with
  | nil => rfl
  | cons x xs =>
    rw [itemsToJson, Json.Node.ofItems, Json.Node.valueItems?, value?_toJson x,
      valueItems?_toJson xs]
    rfl

theorem valueEntries?_toJson (xs : List (String × Variable)) :
    Json.Node.valueEntries? (Json.Node.ofEntries (membersToJson xs)) =
      some (membersToValue xs) := by
  cases xs with
  | nil => rfl
  | cons x xs =>
    obtain ⟨name, x⟩ := x
    rw [membersToJson, Json.Node.ofEntries, Json.Node.valueEntries?, value?_toJson x,
      valueEntries?_toJson xs]
    rfl
end

/-- The text of a variable has a tree, which shows the variable and has the value that is given
away. A reader gets that value from the text, unless it is nested deeper than the reader follows. -/
theorem shows_text (reachable : x.Reachable) (floatless : x.Floatless) :
    (∃ tree, Json.Node.tree? x.toJson.text.toList = some tree ∧ tree.Shows x ∧
        tree.value? = some x.toValue) ∧
      Json.parse? x.toJson.text =
        if x.toJson.depth ≤ Json.Node.depthLimit then some x.toValue else none := by
  have wellFormed := reachable.wellFormed
  have integral := wellFormed.integral floatless
  have whole := Json.Node.tree?_chars integral
  rw [Json.parse?, Json.text, String.toList_ofList, Json.Node.parse?_eq, whole]
  refine ⟨⟨_, rfl, wellFormed.shows floatless, value?_toJson x⟩, ?_⟩
  rw [Option.map_some, Option.bind_eq_bind, Option.bind_some]
  split
  next shallow => rw [Json.Node.cut_ofJson _ _ shallow, value?_toJson]
  next deep => exact Json.Node.value?_cut_of_deep _ _ (Nat.not_le.mp deep)

/-- A comment whose text has a quote, a backslash, a line break, a control character and letters
that are not ASCII, with a reply. -/
def quotingComment : Json :=
  .object [("replies", .array [.object [("text", .string "👍"), ("votes", .number (.int (-1)))]]),
    ("text", .string "say \"né\"\\\n\x01")]

theorem shows_text_comment :
    let x := (setValue comments quotingComment (.object (.ofItems "Comment") commentType [])).2
    x.Reachable ∧ x.Floatless ∧
      x.toJson.text =
        "\x7b\"text\":\"say \\\"né\\\"\\\\\\n\\u0001\"," ++
          "\"replies\":[\x7b\"text\":\"👍\",\"votes\":-1\x7d]\x7d" ∧
      (∃ tree, Json.Node.tree? x.toJson.text.toList = some tree ∧ tree.Shows x ∧
        tree.value? = some x.toValue) ∧
      Json.parse? x.toJson.text = some x.toValue := by
  intro x
  have distinct : comments.Distinct := by
    unfold TypeRegistry.Distinct
    decide
  have created : comments.create (.ofItems "Comment") =
      .ok (.object (.ofItems "Comment") commentType []) := rfl
  have reachable : x.Reachable := .set quotingComment distinct (.created distinct created)
  have floatless : x.Floatless := by
    unfold Floatless
    decide
  obtain ⟨shown, read⟩ := shows_text reachable floatless
  exact ⟨reachable, floatless, rfl, shown, read⟩

end Variable

end ApiGateway
