import ApiGateway.Proofs.Json.Parts
import ApiGateway.Proofs.Reading.Keyed
import ApiGateway.Reading.Basic

/-
What readers can give.

A reader works through the views of a tree. What a view gives depends on the format, and so does
what an action gives. Both are parameters here: an action of a lawful kind can give some values
(`MonadAttach.CanReturn`), and the views of a sound tree give sound trees, words of 64 bits and
values of them (`SoundViews`). From that alone, whatever a reader gives has the properties that the
readers of its parts ensure (`Yields.mapOf?`, `Yields.members?` and the like).

* `LawfulAttempt` - failing gives nothing.
* `Yields` - whatever an action gives has a property.
* `SoundTrees`, `SoundViews` - trees whose numbers have at most 64 bits.
-/

namespace ApiGateway.Reading

open MonadAttach (CanReturn)

/-! ### Properties of results -/

/-- Actions that give nothing when they fail. -/
class LawfulAttempt (m : Type → Type) [Attempt m] [MonadAttach m] : Prop
    extends LawfulMonad m, LawfulMonadAttach m where
  not_canReturn_failure {α : Type} (a : α) : ¬CanReturn (failure : m α) a

instance lawfulAttemptOption : LawfulAttempt Option where
  not_canReturn_failure _ := nofun

instance lawfulAttemptState {σ : Type} : LawfulAttempt (StateT σ Option) where
  not_canReturn_failure _ := by
    rintro ⟨s, s', gives⟩
    cases gives

/-- Whatever the action gives has the property. -/
def Yields {m : Type → Type} [MonadAttach m] {α : Type} (x : m α) (P : α → Prop) : Prop :=
  ∀ a, CanReturn x a → P a

namespace Yields

variable {m : Type → Type} [Attempt m] [MonadAttach m] {α β : Type} {x : m α} {P Q : α → Prop}

omit [Attempt m] in
theorem imp (h : Yields x P) (weaker : ∀ a, P a → Q a) : Yields x Q := fun a gives =>
  weaker a (h a gives)

variable [LawfulAttempt m]

theorem pure {a : α} (holds : P a) : Yields (Pure.pure a : m α) P := by
  intro b gives
  rw [← LawfulMonadAttach.eq_of_canReturn_pure gives]
  exact holds

theorem failure : Yields (Alternative.failure : m α) P := fun a gives =>
  absurd gives (LawfulAttempt.not_canReturn_failure a)

theorem bind {f : α → m β} {R : β → Prop} (h : Yields x P) (next : ∀ a, P a → Yields (f a) R) :
    Yields (x >>= f) R := by
  intro b gives
  obtain ⟨a, first, second⟩ := LawfulMonadAttach.canReturn_bind_imp' gives
  exact next a (h a first) b second

/-- What follows may need to know nothing of what went before. -/
theorem andThen {f : α → m β} {R : β → Prop} (next : ∀ a, Yields (f a) R) : Yields (x >>= f) R :=
  bind (P := fun _ => True) (fun _ _ => trivial) fun a _ => next a

theorem getM {o : Option α} (holds : ∀ a ∈ o, P a) : Yields (o.getM : m α) P := by
  cases o with
  | none => exact failure
  | some a => exact pure (holds a rfl)

theorem mapM {f : β → m α} {bs : List β} (each : ∀ b ∈ bs, Yields (f b) P) :
    Yields (bs.mapM f) fun as => ∀ a ∈ as, P a := by
  induction bs with
  | nil =>
    rw [List.mapM_nil]
    exact pure nofun
  | cons b bs ih =>
    rw [List.forall_mem_cons] at each
    rw [List.mapM_cons]
    exact each.1.bind fun a first => (ih each.2).bind fun as later =>
      pure (List.forall_mem_cons.mpr ⟨first, later⟩)

end Yields

/-! ### Sound trees -/

namespace Content

mutual
/-- All natural numbers take at most 64 bits. -/
def Sound : Content → Prop
  | .natural n => n < 2 ^ 64
  | .sequence items => SoundItems items
  | .mapping entries => SoundEntries entries
  | _ => True

def SoundItems : List Content → Prop
  | [] => True
  | v :: vs => Sound v ∧ SoundItems vs

def SoundEntries : List (Content × Content) → Prop
  | [] => True
  | (k, v) :: es => (Sound k ∧ Sound v) ∧ SoundEntries es
end

theorem soundItems_iff {items : List Content} : SoundItems items ↔ ∀ v ∈ items, v.Sound := by
  induction items with
  | nil => simp [SoundItems]
  | cons v vs ih => rw [SoundItems, ih, List.forall_mem_cons]

theorem soundEntries_iff {entries : List (Content × Content)} :
    SoundEntries entries ↔ ∀ e ∈ entries, e.1.Sound ∧ e.2.Sound := by
  induction entries with
  | nil => simp [SoundEntries]
  | cons e es ih => rw [SoundEntries, ih, List.forall_mem_cons]

end Content

/-- The trees under the labels or at the positions of a record. -/
def Record.values {ν : Type} : Record ν → List ν
  | .labelled members => members.map (·.2)
  | .positional members => members

/-- A record with labels has the trees that its members were read as. -/
theorem Yields.labelled {m : Type → Type} [Attempt m] [MonadAttach m] [LawfulAttempt m]
    {ε ν : Type} {step : ε → m (Label × ν)} {es : List ε} {P : ν → Prop}
    (each : ∀ e ∈ es, Yields (step e) (P ·.2)) :
    Yields (do return Record.labelled (← es.mapM step)) fun r => ∀ w ∈ r.values, P w :=
  (Yields.mapM each).bind fun _ inside => Yields.pure (List.forall_mem_map.mpr inside)

/-- Trees of which some are sound. -/
class SoundTrees (ν : Type) where
  Sound : ν → Prop

open SoundTrees (Sound)

/-- The views of sound trees: natural numbers take at most 64 bits, values are as they are read
from a text, and what is within a sound tree is sound. -/
class SoundViews (ν : Type) (m : Type → Type) [Attempt m] [MonadAttach m] [Readable ν m]
    [SoundTrees ν] : Prop where
  natural (v : ν) (sound : Sound v) : Yields (natural? v) (· < 2 ^ 64)
  optional (v : ν) (sound : Sound v) : Yields (Readable.optional? v) fun w => ∀ w' ∈ w, Sound w'
  items (v : ν) (sound : Sound v) : Yields (items? v) fun vs => ∀ w ∈ vs, Sound w
  entries (v : ν) (sound : Sound v) : Yields (entries? v) fun es => ∀ e ∈ es, Sound e.2
  record (v : ν) (sound : Sound v) : Yields (Readable.record? v) fun r => ∀ w ∈ r.values, Sound w
  json (v : ν) (sound : Sound v) : Yields (json? v) fun j => j.Sorted ∧ j.Measured
  content (v : ν) (sound : Sound v) : Yields (content? v) Content.Sound

/-! ### Readers of parts -/

namespace Yields

variable {m : Type → Type} [Attempt m] [MonadAttach m] [LawfulAttempt m] {ν : Type} [Readable ν m]
  [SoundTrees ν] [SoundViews ν m] {α β : Type} {P : α → Prop} {v : ν}

theorem optional? {read : ν → m α} (each : ∀ w, Sound w → Yields (read w) P) (sound : Sound v) :
    Yields (Reading.optional? read v) fun a => ∀ a' ∈ a, P a' := by
  refine (SoundViews.optional v sound).bind fun w inside => ?_
  cases w with
  | none => exact pure nofun
  | some w =>
    refine (each w (inside w rfl)).bind fun a holds => pure ?_
    rintro _ ⟨⟩
    exact holds

theorem listOf? {read : ν → m α} (each : ∀ w, Sound w → Yields (read w) P) (sound : Sound v) :
    Yields (Reading.listOf? read v) fun as => ∀ a ∈ as, P a :=
  (SoundViews.items v sound).bind fun _ inside => mapM fun w there => each w (inside w there)

/-- A mapping has no key twice, and its values are what their reader gives. -/
theorem mapOf? [DecidableEq β] {readKey : ν → m β} {read : ν → m α}
    (each : ∀ w, Sound w → Yields (read w) P) (sound : Sound v) :
    Yields (Reading.mapOf? readKey read v) fun es =>
      (es.map Prod.fst).Nodup ∧ ∀ e ∈ es, P e.2 := by
  refine (SoundViews.entries v sound).bind fun es inside => ?_
  have read_all : Yields (es.mapM fun e => do return (← readKey e.1, ← read e.2)) fun es' =>
      ∀ e ∈ es', P e.2 :=
    mapM fun e there => andThen fun k => (each e.2 (inside e there)).bind fun a holds => pure holds
  refine read_all.bind fun es' holds => pure ⟨?_, fun e there => ?_⟩
  · have none_yet : (([] : List (β × α)).map Prod.fst).Nodup := List.nodup_nil
    exact nodup_foldl_putEntry none_yet es'
  · rcases mem_foldl_putEntry there with before | later
    · cases before
    · exact holds e later

theorem members? {names : List (List String)} (sound : Sound v) :
    Yields (Reading.members? names v) fun ms => ∀ w, some w ∈ ms → Sound w := by
  refine (SoundViews.record v sound).bind fun r inside => ?_
  cases r with
  | positional vs =>
    dsimp only
    split
    · exact failure
    · refine pure fun w there => ?_
      obtain ⟨i, -, found⟩ := List.mem_map.mp there
      exact inside w (List.mem_of_getElem? found)
  | labelled es =>
    dsimp only
    split
    · refine pure fun w there => ?_
      obtain ⟨i, -, found⟩ := List.mem_map.mp there
      obtain ⟨before, after, split, -⟩ := List.lookup_eq_some_iff.mp found
      have met : (i, w) ∈ es.filterMap fun m => (memberIndex names m.1).map (·, m.2) := by
        rw [split]
        exact List.mem_append_right _ List.mem_cons_self
      obtain ⟨⟨l, w'⟩, member, index⟩ := List.mem_filterMap.mp met
      obtain ⟨i', -, same⟩ := Option.map_eq_some_iff.mp index
      cases same
      exact inside w' (List.mem_map.mpr ⟨_, member, rfl⟩)
    · exact failure

variable {ms : List (Option ν)} {read : ν → m α}

omit [Readable ν m] [SoundViews ν m] in
theorem memberD {default : α} (each : ∀ w, Sound w → Yields (read w) P)
    (sound : ∀ w, some w ∈ ms → Sound w) (i : Nat) (absent : P default) :
    Yields (Reading.memberD ms i read default) P := by
  unfold Reading.memberD
  split
  next w found => exact each w (sound w (List.mem_of_getElem? found))
  next => exact pure absent

theorem optionalMember (each : ∀ w, Sound w → Yields (read w) P)
    (sound : ∀ w, some w ∈ ms → Sound w) (i : Nat) :
    Yields (Reading.optionalMember ms i read) fun a => ∀ a' ∈ a, P a' :=
  memberD (fun _ inside => optional? each inside) sound i nofun

end Yields

end ApiGateway.Reading
