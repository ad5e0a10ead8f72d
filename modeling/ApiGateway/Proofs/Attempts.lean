import Mathlib.Data.List.Forall2

/-
Attempts: steps that may fail, and what becomes of a sequence of them.

When a sequence gives a result, each step gave one (`bind_eq_ok_iff`, `mapM_eq_ok_iff`). Steps that
do not depend on each other give one when each can (`exists_mapM_iff`, `exists_foldlM_iff`) and fail
as the first of them that does (`mapM_eq_error_iff`, `foldlM_eq_error_iff`). A sequence of steps
whose outcome a condition decides is decided by all the conditions (`Decides.mapM`), and one of steps
that only fail in some way only fails in that way (`OnlyFails.mapM`).
-/

namespace ApiGateway

variable {ε α β : Type}

theorem bind_eq_ok_iff {x : Except ε α} {f : α → Except ε β} {b : β} :
    x >>= f = .ok b ↔ ∃ a, x = .ok a ∧ f a = .ok b := by
  cases x with
  | error e =>
    constructor
    · intro h
      cases h
    · rintro ⟨a, h, -⟩
      cases h
  | ok a =>
    constructor
    · intro h
      exact ⟨a, rfl, h⟩
    · rintro ⟨a', h, hf⟩
      cases h
      exact hf

theorem mapError_eq_ok_iff {ε' : Type} {x : Except ε α} {f : ε → ε'} {a : α} :
    x.mapError f = .ok a ↔ x = .ok a := by
  cases x <;> simp [Except.mapError]

theorem map_eq_ok_iff {x : Except ε α} {f : α → β} {b : β} :
    x.map f = .ok b ↔ ∃ a, x = .ok a ∧ f a = b := by
  cases x <;> simp [Except.map]

theorem map_eq_error_iff {x : Except ε α} {f : α → β} {e : ε} :
    x.map f = .error e ↔ x = .error e := by
  cases x <;> simp [Except.map]

theorem mapError_eq_error_iff {ε' : Type} {x : Except ε α} {f : ε → ε'} {e' : ε'} :
    x.mapError f = .error e' ↔ ∃ e, x = .error e ∧ f e = e' := by
  cases x <;> simp [Except.mapError]

/-- A sequence fails when its first step does, or when that gives a result and what follows fails. -/
theorem bind_eq_error_iff {x : Except ε α} {f : α → Except ε β} {e : ε} :
    x >>= f = .error e ↔ x = .error e ∨ ∃ a, x = .ok a ∧ f a = .error e := by
  cases x with
  | error e' =>
    constructor
    · intro h
      cases h
      exact .inl rfl
    · rintro (h | ⟨a, h, -⟩)
      · cases h
        rfl
      · cases h
  | ok a =>
    constructor
    · intro h
      exact .inr ⟨a, rfl, h⟩
    · rintro (h | ⟨a', h, hf⟩)
      · cases h
      · cases h
        exact hf

/-- Steps over a list succeed together when each succeeds on its own. -/
theorem mapM_eq_ok_iff {f : α → Except ε β} {as : List α} {bs : List β} :
    as.mapM f = .ok bs ↔ List.Forall₂ (fun a b => f a = .ok b) as bs := by
  induction as generalizing bs with
  | nil =>
    rw [List.mapM_nil, List.forall₂_nil_left_iff]
    exact ⟨fun h => by cases h; rfl, fun h => by subst h; rfl⟩
  | cons a as ih =>
    rw [List.mapM_cons, bind_eq_ok_iff]
    constructor
    · rintro ⟨b, hb, rest⟩
      obtain ⟨bs', hbs, same⟩ := bind_eq_ok_iff.mp rest
      cases same
      exact .cons hb (ih.mp hbs)
    · intro h
      cases h with
      | cons hb hbs => exact ⟨_, hb, bind_eq_ok_iff.mpr ⟨_, ih.mpr hbs, rfl⟩⟩

/-- What steps over a list gave, one of them gave. -/
theorem exists_of_mem_mapM {f : α → Except ε β} {as : List α} {bs : List β}
    (h : as.mapM f = .ok bs) {b : β} (hb : b ∈ bs) : ∃ a ∈ as, f a = .ok b := by
  have each := mapM_eq_ok_iff.mp h
  clear h
  induction each with
  | nil => exact absurd hb List.not_mem_nil
  | cons first _ ih =>
    rcases List.mem_cons.mp hb with rfl | later
    · exact ⟨_, List.mem_cons_self, first⟩
    · obtain ⟨a, ha, same⟩ := ih later
      exact ⟨a, List.mem_cons_of_mem _ ha, same⟩

/-- What each result says of the element that it comes from, all results say of all elements. -/
theorem forall_mapM_iff {f : α → Except ε β} {as : List α} {bs : List β} (h : as.mapM f = .ok bs)
    {P : α → Prop} {Q : β → Prop} (each : ∀ a b, f a = .ok b → (Q b ↔ P a)) :
    (∀ b ∈ bs, Q b) ↔ ∀ a ∈ as, P a := by
  have results := mapM_eq_ok_iff.mp h
  clear h
  induction results with
  | nil => simp
  | cons first _ ih =>
    rw [List.forall_mem_cons, List.forall_mem_cons]
    exact and_congr (each _ _ first) ih

/-- Steps that go alike on each element go alike over a list. -/
theorem mapM_congr {f g : α → Except ε β} {as : List α} (same : ∀ a ∈ as, f a = g a) :
    as.mapM f = as.mapM g := by
  induction as with
  | nil => rfl
  | cons a as ih =>
    rw [List.forall_mem_cons] at same
    rw [List.mapM_cons, List.mapM_cons, same.1, ih same.2]

/-- Steps of which none can fail succeed together. -/
theorem exists_mapM {f : α → Except ε β} {as : List α} (each : ∀ a ∈ as, ∃ b, f a = .ok b) :
    ∃ bs, as.mapM f = .ok bs := by
  induction as with
  | nil => exact ⟨[], rfl⟩
  | cons a as ih =>
    rw [List.forall_mem_cons] at each
    obtain ⟨b, hb⟩ := each.1
    obtain ⟨bs, hbs⟩ := ih each.2
    exact ⟨b :: bs, by rw [List.mapM_cons, hb, hbs]; rfl⟩

/-- Steps over a list succeed together exactly when each can. -/
theorem exists_mapM_iff {f : α → Except ε β} {as : List α} :
    (∃ bs, as.mapM f = .ok bs) ↔ ∀ a ∈ as, ∃ b, f a = .ok b := by
  refine ⟨fun ⟨bs, done⟩ => ?_, exists_mapM⟩
  have results := mapM_eq_ok_iff.mp done
  exact ((List.forall₂_and_left as bs).mp (results.imp fun _ b h => ⟨⟨b, h⟩, h⟩)).1

/-- Steps over a list fail as the first of them does that fails. -/
theorem mapM_eq_error_iff {f : α → Except ε β} {as : List α} {e : ε} :
    as.mapM f = .error e ↔ ∃ before a after, as = before ++ a :: after ∧
      (∀ a' ∈ before, ∃ b, f a' = .ok b) ∧ f a = .error e := by
  induction as with
  | nil =>
    refine ⟨nofun, ?_⟩
    rintro ⟨before, a, after, same, -⟩
    simp at same
  | cons a as ih =>
    rw [List.mapM_cons, bind_eq_error_iff]
    constructor
    · rintro (failed | ⟨b, passed, rest⟩)
      · exact ⟨[], a, as, rfl, nofun, failed⟩
      · rcases bind_eq_error_iff.mp rest with later | ⟨bs, -, ⟨⟩⟩
        obtain ⟨before, a', after, rfl, good, failed⟩ := ih.mp later
        exact ⟨a :: before, a', after, rfl, List.forall_mem_cons.mpr ⟨⟨b, passed⟩, good⟩, failed⟩
    · rintro ⟨before, a', after, same, good, failed⟩
      rw [List.cons_eq_append_iff] at same
      rcases same with ⟨rfl, first⟩ | ⟨before, rfl, rfl⟩
      · cases first
        exact .inl failed
      · obtain ⟨⟨b, passed⟩, good⟩ := List.forall_mem_cons.mp good
        refine .inr ⟨b, passed, bind_eq_error_iff.mpr (.inl ?_)⟩
        exact ih.mpr ⟨before, a', after, rfl, good, failed⟩

/-- Steps that each are steps over parts fail as all the parts do, one after another. -/
theorem mapM_mapM_eq_error_iff {γ δ : Type} {parts : α → List γ} {f : γ → Except ε δ}
    {g : α → List δ → β} {as : List α} {e : ε} :
    (as.mapM fun a => do return g a (← (parts a).mapM f)) = .error e ↔
      (as.flatMap parts).mapM f = .error e := by
  induction as with
  | nil => exact ⟨nofun, nofun⟩
  | cons a as ih =>
    rw [List.mapM_cons, List.flatMap_cons, List.mapM_append]
    cases (parts a).mapM f with
    | error e' =>
      constructor
      · intro failed
        cases failed
        rfl
      · intro failed
        cases failed
        rfl
    | ok ds =>
      simp only [bind_eq_error_iff, ← ih]
      simp [pure, Except.pure, bind, Except.bind]

/-! ### Steps on their own -/

section Apart

variable {γ : Type} {step : β → α → Except ε β} {alone : α → Except ε γ} {as : List α} {e : ε}

/-- Steps that go each on its own, whatever came before, succeed together when each does. -/
theorem exists_foldlM_iff (apart : ∀ b a, ∃ f, step b a = (alone a).map f) (b : β) :
    (∃ b', as.foldlM step b = .ok b') ↔ ∀ a ∈ as, ∃ c, alone a = .ok c := by
  induction as generalizing b with
  | nil => exact ⟨fun _ => nofun, fun _ => ⟨b, rfl⟩⟩
  | cons a as ih =>
    obtain ⟨f, taken⟩ := apart b a
    rw [List.foldlM_cons, List.forall_mem_cons, taken]
    cases own : alone a with
    | error e => exact ⟨nofun, fun ⟨⟨_, same⟩, _⟩ => by cases same⟩
    | ok c => exact (ih (f c)).trans ⟨fun rest => ⟨⟨c, rfl⟩, rest⟩, fun all => all.2⟩

/-- They fail as the first of them does that fails. -/
theorem foldlM_eq_error_iff (apart : ∀ b a, ∃ f, step b a = (alone a).map f) (b : β) :
    as.foldlM step b = .error e ↔ ∃ before a after, as = before ++ a :: after ∧
      (∀ a' ∈ before, ∃ c, alone a' = .ok c) ∧ alone a = .error e := by
  induction as generalizing b with
  | nil =>
    refine ⟨nofun, fun ⟨before, a, after, same, _⟩ => ?_⟩
    cases before <;> cases same
  | cons a as ih =>
    obtain ⟨f, taken⟩ := apart b a
    rw [List.foldlM_cons, taken]
    cases own : alone a with
    | error e' =>
      constructor
      · intro failed
        cases failed
        exact ⟨[], a, as, rfl, nofun, own⟩
      · rintro ⟨before, a', after, same, passed, failed⟩
        cases before with
        | nil =>
          cases same
          cases own.symm.trans failed
          rfl
        | cons a'' before =>
          cases same
          obtain ⟨c, same⟩ := passed a List.mem_cons_self
          cases own.symm.trans same
    | ok c =>
      refine (ih (f c)).trans ⟨?_, ?_⟩
      · rintro ⟨before, a', after, rfl, passed, failed⟩
        exact ⟨a :: before, a', after, rfl, List.forall_mem_cons.mpr ⟨⟨c, own⟩, passed⟩, failed⟩
      · rintro ⟨before, a', after, same, passed, failed⟩
        cases before with
        | nil =>
          cases same
          cases own.symm.trans failed
        | cons a'' before =>
          cases same
          exact ⟨before, a', after, rfl, (List.forall_mem_cons.mp passed).2, failed⟩

end Apart

/-! ### Decided attempts -/

/-- An attempt succeeds exactly when a condition is met, and otherwise fails in one of some ways. -/
structure Decides (x : Except ε α) (met : Prop) (fails : ε → Prop) : Prop where
  ok_iff : (∃ a, x = .ok a) ↔ met
  of_error : ∀ e, x = .error e → fails e

namespace Decides

variable {x : Except ε α} {met : Prop} {fails : ε → Prop}

theorem of_ok {a : α} (h : x = .ok a) (holds : met) : Decides x met fails := by
  subst h
  exact ⟨⟨fun _ => holds, fun _ => ⟨a, rfl⟩⟩, nofun⟩

theorem of_failed {e : ε} (h : x = .error e) (missed : ¬met) (fault : fails e) :
    Decides x met fails := by
  subst h
  exact ⟨⟨nofun, fun holds => absurd holds missed⟩, fun _ same => by cases same; exact fault⟩

theorem mapError {ε' : Type} {f : ε → ε'} (h : Decides x met fails) :
    Decides (x.mapError f) met fun e' => ∃ e, fails e ∧ e' = f e := by
  refine ⟨?_, fun e' failed => ?_⟩
  · rw [← h.ok_iff]
    exact exists_congr fun a => mapError_eq_ok_iff
  · cases x with
    | ok a => cases failed
    | error e =>
      cases failed
      exact ⟨e, h.of_error e rfl, rfl⟩

/-- What follows and cannot fail changes nothing. -/
theorem bind {f : α → Except ε β} (h : Decides x met fails) (follows : ∀ a, ∃ b, f a = .ok b) :
    Decides (x >>= f) met fails := by
  cases x with
  | ok a =>
    obtain ⟨b, hb⟩ := follows a
    exact of_ok hb (h.ok_iff.mp ⟨a, rfl⟩)
  | error e =>
    refine of_failed rfl (fun holds => ?_) (h.of_error e rfl)
    obtain ⟨a, same⟩ := h.ok_iff.mpr holds
    cases same

/-- Steps over a list, each decided by a condition of its own. -/
theorem mapM {f : α → Except ε β} {met : α → Prop} {fails : α → ε → Prop} {as : List α}
    (each : ∀ a ∈ as, Decides (f a) (met a) (fails a)) :
    Decides (as.mapM f) (∀ a ∈ as, met a) fun e => ∃ a ∈ as, fails a e := by
  induction as with
  | nil => exact of_ok rfl nofun
  | cons a as ih =>
    rw [List.forall_mem_cons] at each
    have rest := ih each.2
    rw [List.mapM_cons]
    cases first : f a with
    | error e =>
      have head := each.1
      rw [first] at head
      refine of_failed rfl (fun holds => ?_) ⟨a, List.mem_cons_self, head.of_error e rfl⟩
      obtain ⟨b, same⟩ := head.ok_iff.mpr (holds a List.mem_cons_self)
      cases same
    | ok b =>
      have holds : met a := each.1.ok_iff.mp ⟨b, first⟩
      have both := rest.bind (f := fun bs => pure (b :: bs)) fun bs => ⟨b :: bs, rfl⟩
      refine ⟨both.ok_iff.trans ?_, fun e failed => ?_⟩
      · rw [List.forall_mem_cons]
        exact ⟨fun later => ⟨holds, later⟩, fun all => all.2⟩
      · obtain ⟨a', ha', fault⟩ := both.of_error e failed
        exact ⟨a', List.mem_cons_of_mem _ ha', fault⟩

end Decides

/-! ### Ways to fail -/

/-- An attempt that fails, fails in one of some ways. -/
def OnlyFails (x : Except ε α) (fails : ε → Prop) : Prop := ∀ e, x = .error e → fails e

namespace OnlyFails

variable {x : Except ε α} {fails : ε → Prop}

theorem ok (a : α) : OnlyFails (.ok a) fails := nofun

theorem error {e : ε} (fault : fails e) : OnlyFails (.error e : Except ε α) fails := by
  intro e' same
  cases same
  exact fault

theorem mapError {ε' : Type} {f : ε → ε'} {fails' : ε' → Prop} (h : OnlyFails x fails)
    (sent : ∀ e, fails e → fails' (f e)) : OnlyFails (x.mapError f) fails' := by
  cases x with
  | ok a => exact ok a
  | error e => exact error (sent e (h e rfl))

theorem map (h : OnlyFails x fails) (f : α → β) : OnlyFails (x.map f) fails := by
  cases x with
  | ok a => exact ok (f a)
  | error e => exact error (h e rfl)

theorem bind {f : α → Except ε β} (h : OnlyFails x fails)
    (next : ∀ a, x = .ok a → OnlyFails (f a) fails) : OnlyFails (x >>= f) fails := by
  cases x with
  | ok a => exact next a rfl
  | error e => exact error (h e rfl)

theorem mapM {f : α → Except ε β} {as : List α} (each : ∀ a ∈ as, OnlyFails (f a) fails) :
    OnlyFails (as.mapM f) fails := by
  induction as with
  | nil => exact ok []
  | cons a as ih =>
    rw [List.forall_mem_cons] at each
    rw [List.mapM_cons]
    exact each.1.bind fun b _ => (ih each.2).bind fun bs _ => ok (b :: bs)

theorem foldlM {f : β → α → Except ε β} {as : List α}
    (each : ∀ a ∈ as, ∀ b, OnlyFails (f b a) fails) (b : β) :
    OnlyFails (as.foldlM f b) fails := by
  induction as generalizing b with
  | nil => exact ok b
  | cons a as ih =>
    rw [List.forall_mem_cons] at each
    rw [List.foldlM_cons]
    exact (each.1 b).bind fun b' _ => ih each.2 b'

end OnlyFails

end ApiGateway
