import ApiGateway.Proofs.Reading.Outcomes
import ApiGateway.Reading.Content
import ApiGateway.Reading.Format

/-
The trees of both formats are sound.

A JSON text says numbers of at most 64 bits (`Json.Node.parse?_sound`); a scalar of a YAML text is
looked at when it is read, and nothing needs to be known of its tree before. So what a reader gives
for a text, in whatever format, has the properties that the reader ensures (`parse_yields`).
-/

namespace ApiGateway

/-! ### JSON -/

namespace Json.Node

mutual
/-- All integers take at most 64 bits. -/
def Sound : Node → Prop
  | .number (some (.int i)) => Number.Fits i
  | .array items => SoundItems items
  | .object entries => SoundEntries entries
  | _ => True

def SoundItems : List Node → Prop
  | [] => True
  | v :: vs => Sound v ∧ SoundItems vs

def SoundEntries : List (Option String × Node) → Prop
  | [] => True
  | (_, v) :: es => Sound v ∧ SoundEntries es
end

theorem soundItems_iff {items : List Node} : SoundItems items ↔ ∀ v ∈ items, v.Sound := by
  induction items with
  | nil => simp [SoundItems]
  | cons v vs ih => rw [SoundItems, ih, List.forall_mem_cons]

theorem soundEntries_iff {entries : List (Option String × Node)} :
    SoundEntries entries ↔ ∀ e ∈ entries, e.2.Sound := by
  induction entries with
  | nil => simp [SoundEntries]
  | cons e es ih => rw [SoundEntries, ih, List.forall_mem_cons]

mutual
theorem sound_cut (v : Node) (level : Nat) (sound : v.Sound) : (v.cut level).Sound := by
  cases level with
  | zero => cases v <;> first | exact sound | trivial
  | succ level =>
    cases v with
    | array items =>
      rw [cut, Sound]
      exact soundItems_cut items level sound
    | object entries =>
      rw [cut, Sound]
      exact soundEntries_cut entries level sound
    | null | bool | number | string | tooDeep => exact sound

theorem soundItems_cut (vs : List Node) (level : Nat) (sound : SoundItems vs) :
    SoundItems (cutItems level vs) := by
  cases vs with
  | nil => trivial
  | cons v vs => exact ⟨sound_cut v level sound.1, soundItems_cut vs level sound.2⟩

theorem soundEntries_cut (es : List (Option String × Node)) (level : Nat)
    (sound : SoundEntries es) : SoundEntries (cutEntries level es) := by
  cases es with
  | nil => trivial
  | cons e es =>
    cases e with
    | mk k v => exact ⟨sound_cut v level sound.1, soundEntries_cut es level sound.2⟩
end

theorem accumulate_lt {n : Nat} (fits : n < 2 ^ 64) (ds : List Char) :
    (accumulate n ds).1 < 2 ^ 64 := by
  induction ds generalizing n with
  | nil => exact fits
  | cons c ds ih =>
    rw [accumulate]
    split
    next below => exact ih below
    next => exact fits

theorem scaledNumber_ne_int {negative : Bool} {significand : Nat} {shift exponent i : Int} :
    scaledNumber negative significand shift exponent ≠ some (.int i) := by
  unfold scaledNumber
  split_ifs
  · exact nofun
  · exact nofun
  · intro same
    obtain ⟨x, -, named⟩ := Option.map_eq_some_iff.mp same
    cases named

/-- A number that is an integer takes at most 64 bits. -/
theorem numberValue_fits {negative : Bool} {whole : List Char} {fraction : Option (List Char)}
    {exponent : Option Int} {i : Int}
    (value : numberValue negative whole fraction exponent = some (.int i)) : Number.Fits i := by
  have fits := accumulate_lt (by decide : 0 < 2 ^ 64) whole
  unfold numberValue at value
  generalize accumulate 0 whole = scanned at fits value
  obtain ⟨significand, excess⟩ := scanned
  dsimp only at fits value
  split at value
  · split_ifs at value with overflow positive small
    · exact absurd value scaledNumber_ne_int
    · cases value
      refine .inr ?_
      simp only [Number.inUnsigned64, Bool.and_eq_true, decide_eq_true_eq]
      omega
    · cases value
      simp only [Bool.and_eq_true, decide_eq_true_eq] at small
      refine .inl ?_
      simp only [Number.inSigned64, Bool.and_eq_true, decide_eq_true_eq]
      have bound : significand ≤ 2 ^ 63 := small.2
      omega
    · cases value
  · exact absurd value scaledNumber_ne_int

theorem scanNumber_sound {cs rest : List Char} {v : Node} (scan : scanNumber cs = some (v, rest)) :
    v.Sound := by
  unfold scanNumber at scan
  split at scan
  next _ negative cs' signed =>
    dsimp only at scan
    split at scan
    · cases scan
    · obtain ⟨⟨fraction, rest'⟩, -, scan⟩ := Option.bind_eq_some_iff.mp scan
      obtain ⟨⟨exponent, rest''⟩, -, scan⟩ := Option.bind_eq_some_iff.mp scan
      cases scan
      dsimp only
      generalize shown : numberValue negative _ fraction exponent = value
      cases value with
      | none => trivial
      | some n =>
        cases n with
        | float x => trivial
        | int i => exact numberValue_fits shown

mutual
/-- What is read from a text is sound. -/
theorem scanValue_sound (fuel : Nat) {cs rest : List Char} {v : Node}
    (scan : scanValue fuel cs = some (v, rest)) : v.Sound := by
  cases fuel with
  | zero => cases scan
  | succ fuel =>
    rw [scanValue] at scan
    split at scan
    next => cases scan
    next c cs' =>
      split_ifs at scan with quote bracket brace null true false
      · obtain ⟨⟨s, rest'⟩, -, same⟩ := Option.map_eq_some_iff.mp scan
        cases same
        trivial
      · split at scan
        · cases scan
          trivial
        · obtain ⟨⟨vs, rest'⟩, items, same⟩ := Option.bind_eq_some_iff.mp scan
          cases same
          exact scanItems_sound fuel items
      · split at scan
        · cases scan
          trivial
        · obtain ⟨⟨es, rest'⟩, entries, same⟩ := Option.bind_eq_some_iff.mp scan
          cases same
          exact scanEntries_sound fuel entries
      · obtain ⟨rest', -, same⟩ := Option.map_eq_some_iff.mp scan
        cases same
        trivial
      · obtain ⟨rest', -, same⟩ := Option.map_eq_some_iff.mp scan
        cases same
        trivial
      · obtain ⟨rest', -, same⟩ := Option.map_eq_some_iff.mp scan
        cases same
        trivial
      · exact scanNumber_sound scan

theorem scanItems_sound (fuel : Nat) {cs rest : List Char} {vs : List Node}
    (scan : scanItems fuel cs = some (vs, rest)) : SoundItems vs := by
  cases fuel with
  | zero => cases scan
  | succ fuel =>
    rw [scanItems] at scan
    obtain ⟨⟨v, rest'⟩, first, scan⟩ := Option.bind_eq_some_iff.mp scan
    have sound := scanValue_sound fuel first
    dsimp only at scan
    split at scan
    · obtain ⟨⟨vs', rest''⟩, later, same⟩ := Option.bind_eq_some_iff.mp scan
      cases same
      exact ⟨sound, scanItems_sound fuel later⟩
    · cases scan
      exact ⟨sound, trivial⟩
    · cases scan

theorem scanEntries_sound (fuel : Nat) {cs rest : List Char} {es : List (Option String × Node)}
    (scan : scanEntries fuel cs = some (es, rest)) : SoundEntries es := by
  cases fuel with
  | zero => cases scan
  | succ fuel =>
    rw [scanEntries] at scan
    split at scan
    next cs' =>
      obtain ⟨⟨key, rest'⟩, -, scan⟩ := Option.bind_eq_some_iff.mp scan
      dsimp only at scan
      split at scan
      next rest'' =>
        obtain ⟨⟨v, rest'⟩, first, scan⟩ := Option.bind_eq_some_iff.mp scan
        have sound := scanValue_sound fuel first
        dsimp only at scan
        split at scan
        · obtain ⟨⟨es', rest'''⟩, later, same⟩ := Option.bind_eq_some_iff.mp scan
          cases same
          exact ⟨sound, scanEntries_sound fuel later⟩
        · cases scan
          exact ⟨sound, trivial⟩
        · cases scan
      next => cases scan
    next => cases scan
end

theorem parse?_sound {cs : List Char} {v : Node} (parsed : parse? cs = some v) : v.Sound := by
  obtain ⟨⟨node, rest⟩, scan, parsed⟩ := Option.bind_eq_some_iff.mp parsed
  dsimp only at parsed
  split at parsed
  · cases parsed
    exact sound_cut node depthLimit (scanValue_sound _ scan)
  · cases parsed


mutual
/-- The value of a sound tree is sorted, and its integers take at most 64 bits. -/
theorem value?_sound (v : Node) {j : Json} (sound : v.Sound) (value : value? v = some j) :
    j.Sorted ∧ j.Measured := by
  cases v with
  | null =>
    cases value
    simp [Json.Sorted, Json.Measured, parts]
  | bool b =>
    cases value
    simp [Json.Sorted, Json.Measured, parts]
  | string s =>
    obtain ⟨s', -, rfl⟩ := Option.map_eq_some_iff.mp value
    simp [Json.Sorted, Json.Measured, parts]
  | number n =>
    obtain ⟨n', rfl, rfl⟩ := Option.map_eq_some_iff.mp value
    refine ⟨by simp [Json.Sorted, parts], fun i there => ?_⟩
    cases List.mem_singleton.mp there
    exact sound
  | array items =>
    obtain ⟨vs, values, rfl⟩ := Option.map_eq_some_iff.mp value
    have each := valueItems?_sound items sound values
    exact ⟨sorted_array.mpr fun v there => (each v there).1,
      measured_array.mpr fun v there => (each v there).2⟩
  | object entries =>
    obtain ⟨es, values, rfl⟩ := Option.map_eq_some_iff.mp value
    have each := valueEntries?_sound entries sound values
    exact ⟨sorted_object.mpr ⟨sorted_sortEntries es, fun e there =>
        (each e (mem_of_mem_sortEntries there)).1⟩,
      measured_object.mpr fun e there => (each e (mem_of_mem_sortEntries there)).2⟩
  | tooDeep => cases value

theorem valueItems?_sound (items : List Node) {vs : List Json} (sound : SoundItems items)
    (values : valueItems? items = some vs) : ∀ v ∈ vs, v.Sorted ∧ v.Measured := by
  cases items with
  | nil =>
    cases values
    exact nofun
  | cons v items =>
    obtain ⟨j, first, values⟩ := Option.bind_eq_some_iff.mp values
    obtain ⟨js, later, same⟩ := Option.bind_eq_some_iff.mp values
    cases same
    exact List.forall_mem_cons.mpr
      ⟨value?_sound v sound.1 first, valueItems?_sound items sound.2 later⟩

theorem valueEntries?_sound (entries : List (Option String × Node)) {es : List (String × Json)}
    (sound : SoundEntries entries) (values : valueEntries? entries = some es) :
    ∀ e ∈ es, e.2.Sorted ∧ e.2.Measured := by
  cases entries with
  | nil =>
    cases values
    exact nofun
  | cons e entries =>
    cases e with
    | mk k v =>
      obtain ⟨key, -, values⟩ := Option.bind_eq_some_iff.mp values
      obtain ⟨j, first, values⟩ := Option.bind_eq_some_iff.mp values
      obtain ⟨js, later, same⟩ := Option.bind_eq_some_iff.mp values
      cases same
      exact List.forall_mem_cons.mpr
        ⟨value?_sound v sound.1 first, valueEntries?_sound entries sound.2 later⟩
end

end Json.Node

namespace Reading

open Json (Node Number.Fits)
open MonadAttach (CanReturn)

mutual
theorem contentOfJson?_sound (v : Node) {c : Content} (sound : v.Sound)
    (content : contentOfJson? v = some c) : c.Sound := by
  cases v with
  | null | bool =>
    cases content
    trivial
  | string s =>
    obtain ⟨s', -, rfl⟩ := Option.map_eq_some_iff.mp content
    trivial
  | number n =>
    match n with
    | none => cases content
    | some (.float x) =>
      cases content
      trivial
    | some (.int (.negSucc n)) =>
      cases content
      trivial
    | some (.int (.ofNat n)) =>
      cases content
      have bound := (show Number.Fits (.ofNat n) from sound).bounds.2
      rw [Int.ofNat_eq_natCast] at bound
      rw [Content.Sound]
      omega
  | array items =>
    obtain ⟨vs, contents, rfl⟩ := Option.map_eq_some_iff.mp content
    exact contentOfJsonItems?_sound items sound contents
  | object entries =>
    obtain ⟨es, contents, rfl⟩ := Option.map_eq_some_iff.mp content
    exact contentOfJsonEntries?_sound entries sound contents
  | tooDeep => cases content

theorem contentOfJsonItems?_sound (items : List Node) {vs : List Content}
    (sound : Node.SoundItems items) (contents : contentOfJsonItems? items = some vs) :
    Content.SoundItems vs := by
  cases items with
  | nil =>
    cases contents
    trivial
  | cons v items =>
    obtain ⟨c, first, contents⟩ := Option.bind_eq_some_iff.mp contents
    obtain ⟨cs, later, same⟩ := Option.bind_eq_some_iff.mp contents
    cases same
    exact ⟨contentOfJson?_sound v sound.1 first, contentOfJsonItems?_sound items sound.2 later⟩

theorem contentOfJsonEntries?_sound (entries : List (Option String × Node))
    {es : List (Content × Content)} (sound : Node.SoundEntries entries)
    (contents : contentOfJsonEntries? entries = some es) : Content.SoundEntries es := by
  cases entries with
  | nil =>
    cases contents
    trivial
  | cons e entries =>
    cases e with
    | mk k v =>
      obtain ⟨key, -, contents⟩ := Option.bind_eq_some_iff.mp contents
      obtain ⟨c, first, contents⟩ := Option.bind_eq_some_iff.mp contents
      obtain ⟨cs, later, same⟩ := Option.bind_eq_some_iff.mp contents
      cases same
      exact ⟨⟨trivial, contentOfJson?_sound v sound.1 first⟩,
        contentOfJsonEntries?_sound entries sound.2 later⟩
end

instance soundTreesJson : SoundTrees Node := ⟨Node.Sound⟩

instance soundViewsJson : SoundViews Node Option where
  natural v sound n gives := by
    cases v with
    | number value =>
      match value, gives with
      | some (.int (.ofNat n)), rfl =>
        have bound := (show Number.Fits (.ofNat n) from sound).bounds.2
        rw [Int.ofNat_eq_natCast] at bound
        omega
    | _ => cases gives
  optional v sound w gives w' there := by
    cases v <;> cases gives <;> cases there <;> exact sound
  items v sound vs gives w there := by
    cases v with
    | array items =>
      cases gives
      exact Node.soundItems_iff.mp sound w there
    | _ => cases gives
  entries v sound es gives e there := by
    cases v with
    | object entries =>
      cases gives
      obtain ⟨e', inside, rfl⟩ := List.mem_map.mp there
      exact Node.soundEntries_iff.mp sound e' inside
    | _ => cases gives
  record v sound r gives w there := by
    cases v with
    | array items =>
      cases gives
      exact Node.soundItems_iff.mp sound w there
    | object entries =>
      have inside := Node.soundEntries_iff.mp sound
      exact Yields.labelled (m := Option) (fun e there => Yields.andThen fun _ =>
        Yields.pure (inside e there)) r gives w there
    | _ => cases gives
  json v sound j gives := Node.value?_sound v sound gives
  content v sound c gives := contentOfJson?_sound v sound gives

/-! ### Content -/

instance soundTreesContent : SoundTrees Content := ⟨Content.Sound⟩

instance soundViewsContent : SoundViews Content Option where
  natural v sound n gives := by
    cases v with
    | natural n =>
      cases gives
      exact sound
    | minusZero =>
      cases gives
      decide
    | _ => cases gives
  optional v sound w gives w' there := by
    cases v <;> cases gives <;> cases there <;> exact sound
  items v sound vs gives w there := by
    cases v with
    | sequence items =>
      cases gives
      exact Content.soundItems_iff.mp sound w there
    | _ => cases gives
  entries v sound es gives e there := by
    cases v with
    | mapping entries =>
      cases gives
      exact (Content.soundEntries_iff.mp sound e there).2
    | _ => cases gives
  record v sound r gives w there := by
    cases v with
    | sequence items =>
      cases gives
      exact Content.soundItems_iff.mp sound w there
    | mapping entries =>
      have inside := Content.soundEntries_iff.mp sound
      exact Yields.labelled (m := Option) (fun e there => Yields.andThen fun _ =>
        Yields.pure (inside e there).2) r gives w there
    | _ => cases gives
  json v sound j gives := by cases gives
  content v sound c gives := by
    cases gives
    exact sound

end Reading

/-! ### YAML -/

namespace Yaml

namespace Meaning

theorem digits?_lt {base bound n : Nat} {cs : List Char} (value : digits? base bound cs = some n) :
    n < bound := by
  unfold digits? at value
  split at value
  · cases value
  · obtain ⟨n', -, value⟩ := Option.bind_eq_some_iff.mp value
    split at value
    next below =>
      cases value
      exact below
    next => cases value

theorem magnitude?_lt {bound n : Nat} {padded : Bool} {cs : List Char}
    (value : magnitude? bound padded cs = some n) : n < bound := by
  unfold magnitude? at value
  dsimp only at value
  split at value
  next n' marked =>
    cases value
    split at marked
    · exact digits?_lt marked
    · exact digits?_lt marked
    · exact digits?_lt marked
    · cases marked
  next =>
    split at value
    · cases value
    · exact digits?_lt value

theorem natural?_lt {bound n : Nat} {cs : List Char} (value : natural? bound cs = some n) :
    n < bound := by
  unfold natural? at value
  split at value <;> exact magnitude?_lt value

theorem minus?_le {bound n : Nat} {cs : List Char} (value : minus? bound cs = some n) :
    n ≤ bound := by
  unfold minus? at value
  split at value
  · exact Nat.le_of_lt_succ (magnitude?_lt value)
  · cases value

/-- An integer that a scalar denotes takes at most 64 bits. -/
theorem integer?_fits {cs : List Char} {i : Int} (value : integer? cs = some (some i)) :
    Json.Number.Fits i := by
  simp only [Json.Number.Fits, Json.Number.inSigned64, Json.Number.inUnsigned64, Bool.and_eq_true,
    decide_eq_true_eq]
  unfold integer? at value
  split at value
  next n natural =>
    cases value
    have below : n < 2 ^ 64 := natural?_lt natural
    omega
  next n _ minus =>
    cases value
    have bound : n ≤ 2 ^ 63 := minus?_le minus
    omega
  next => split at value <;> cases value

theorem ofPlain?_fits {s : String} {i : Int} (meaning : ofPlain? s = some (.integer i)) :
    Json.Number.Fits i := by
  unfold ofPlain? at meaning
  split at meaning
  · cases meaning
  · split at meaning
    · cases meaning
    · split at meaning
      next i' value =>
        cases meaning
        exact integer?_fits value
      next => cases meaning
      next =>
        split at meaning
        · cases meaning
        · split at meaning <;> cases meaning

theorem ofStyle?_fits {s : String} {style : Style} {i : Int}
    (meaning : ofStyle? s style = some (.integer i)) : Json.Number.Fits i := by
  unfold ofStyle? at meaning
  split at meaning
  · exact ofPlain?_fits meaning
  · cases meaning

theorem ofScalar?_fits {tag : Option Tag} {s : String} {style : Style} {i : Int}
    (meaning : ofScalar? tag s style = some (.integer i)) : Json.Number.Fits i := by
  unfold ofScalar? at meaning
  split at meaning
  · exact ofStyle?_fits meaning
  · split_ifs at meaning
    · obtain ⟨b, -, same⟩ := Option.map_eq_some_iff.mp meaning
      cases same
    · obtain ⟨value, integer, meaning⟩ := Option.bind_eq_some_iff.mp meaning
      obtain ⟨i', rfl, same⟩ := Option.bind_eq_some_iff.mp meaning
      cases same
      exact integer?_fits integer
    · obtain ⟨x, -, same⟩ := Option.map_eq_some_iff.mp meaning
      cases same
    · cases meaning
    · exact ofStyle?_fits meaning
    · cases meaning

end Meaning

open Reading (Yields Content SoundTrees SoundViews)

namespace Tree

theorem scalarJson?_sound {tag : Option Tag} {s : String} {style : Style} {j : Json}
    (value : scalarJson? tag s style = some j) : j.Sorted ∧ j.Measured := by
  obtain ⟨meaning, shown, value⟩ := Option.bind_eq_some_iff.mp value
  cases meaning with
  | integer i =>
    cases value
    refine ⟨by simp [Json.Sorted, Json.int, Json.parts], fun i' there => ?_⟩
    cases List.mem_singleton.mp there
    exact Meaning.ofScalar?_fits shown
  | float x =>
    cases x <;> cases value <;> simp [Json.Sorted, Json.Measured, Json.parts]
  | _ =>
    cases value
    simp [Json.Sorted, Json.Measured, Json.parts]

theorem scalarContent?_sound {tag : Option Tag} {s : String} {style : Style} {c : Content}
    (content : scalarContent? tag s style = some c) : c.Sound := by
  obtain ⟨meaning, shown, content⟩ := Option.bind_eq_some_iff.mp content
  match meaning with
  | .integer (.ofNat n) =>
    have bound := (Meaning.ofScalar?_fits shown).bounds.2
    rw [Int.ofNat_eq_natCast] at bound
    dsimp only at content
    split at content
    · cases content
      trivial
    · cases content
      rw [Content.Sound]
      omega
  | .integer (.negSucc n) | .null | .bool b | .float x | .text s =>
    cases content
    trivial

/-- The value of a tree is sorted, and its integers take at most 64 bits. -/
theorem json?_sound (anchors : List (Nat × Tree Nat)) (room : Nat) (t : Tree Nat) :
    Yields (t.json? anchors room) fun j => j.Sorted ∧ j.Measured := by
  induction room generalizing t with
  | zero =>
    refine Yields.andThen fun t' => ?_
    cases t' with
    | scalar p s style => exact Yields.getM fun j value => scalarJson?_sound value
    | _ => exact Yields.failure
  | succ room ih =>
    refine Yields.andThen fun t' => ?_
    cases t' with
    | scalar p s style => exact Yields.getM fun j value => scalarJson?_sound value
    | sequence p items =>
      dsimp only
      split
      · exact Yields.failure
      · refine (Yields.mapM fun t _ => ih t).bind fun vs each => Yields.pure ?_
        exact ⟨Json.sorted_array.mpr fun v there => (each v there).1,
          Json.measured_array.mpr fun v there => (each v there).2⟩
    | mapping p entries =>
      dsimp only
      split
      · exact Yields.failure
      · have read_all : ∀ e ∈ entries, Yields (do
            return (← (← e.1.follow anchors).text?.getM, ← e.2.json? anchors room))
            fun e : String × Json => e.2.Sorted ∧ e.2.Measured := fun e _ =>
          Yields.andThen fun _ => Yields.andThen fun _ => (ih e.2).bind fun _ sound =>
            Yields.pure sound
        refine (Yields.mapM read_all).bind fun es each => Yields.pure ?_
        exact ⟨Json.sorted_object.mpr ⟨Json.sorted_sortEntries es, fun e there =>
            (each e (Json.mem_of_mem_sortEntries there)).1⟩,
          Json.measured_object.mpr fun e there => (each e (Json.mem_of_mem_sortEntries there)).2⟩
    | _ => exact Yields.failure

theorem content?_sound (anchors : List (Nat × Tree Nat)) (room : Nat) (t : Tree Nat) :
    Yields (t.content? anchors room) Content.Sound := by
  induction room generalizing t with
  | zero =>
    refine Yields.andThen fun t' => ?_
    cases t' with
    | scalar p s style => exact Yields.getM fun j value => scalarContent?_sound value
    | _ => exact Yields.failure
  | succ room ih =>
    refine Yields.andThen fun t' => ?_
    cases t' with
    | scalar p s style => exact Yields.getM fun j value => scalarContent?_sound value
    | sequence p items =>
      dsimp only
      split
      · exact Yields.failure
      · exact (Yields.mapM fun t _ => ih t).bind fun vs each =>
          Yields.pure (Content.soundItems_iff.mpr each)
    | mapping p entries =>
      dsimp only
      split
      · exact Yields.failure
      · have read_all : ∀ e ∈ entries, Yields (do
            return (← e.1.content? anchors room, ← e.2.content? anchors room))
            fun e : Content × Content => e.1.Sound ∧ e.2.Sound := fun e _ =>
          (ih e.1).bind fun _ key => (ih e.2).bind fun _ value => Yields.pure ⟨key, value⟩
        exact (Yields.mapM read_all).bind fun es each =>
          Yields.pure (Content.soundEntries_iff.mpr each)
    | _ => exact Yields.failure

end Tree

theorem Node.view_yields {α : Type} {see : Tree Nat → Option α} {P : α → Prop} (v : Node)
    (each : ∀ t a, see t = some a → P a) : Yields (v.view see) P := by
  unfold Node.view
  refine Yields.andThen fun t => ?_
  cases t with
  | none => exact Yields.failure
  | some t => exact Yields.getM fun a seen => each t a seen

/-- A scalar is looked at only when it is read. -/
instance soundTreesYaml : SoundTrees Node := ⟨fun _ => True⟩

instance soundViewsYaml : SoundViews Node Visit where
  natural v _ := by
    refine v.view_yields fun t n value => ?_
    obtain ⟨s, -, value⟩ := Option.bind_eq_some_iff.mp value
    exact Meaning.natural?_lt value
  optional v _ := fun _ _ _ _ => trivial
  items v _ := fun _ _ _ _ => trivial
  entries v _ := fun _ _ _ _ => trivial
  record v _ := fun _ _ _ _ => trivial
  json v _ := by
    change Yields (match v.tree with
      | some t => t.json? v.anchors v.room
      | none => pure .null) _
    cases v.tree with
    | none => exact Yields.pure (by simp [Json.Sorted, Json.Measured, Json.parts])
    | some t => exact Tree.json?_sound v.anchors v.room t
  content v _ := by
    change Yields (match v.tree with
      | some t => t.content? v.anchors v.room
      | none => pure .null) _
    cases v.tree with
    | none => exact Yields.pure trivial
    | some t => exact Tree.content?_sound v.anchors v.room t

end Yaml

/-! ### Texts -/

namespace Reading

/-- What a reader ensures of the trees of every format, it ensures of what it gives for a text. -/
theorem parseAs?_yields {α : Type} {read : Reader α} {P : α → Prop}
    (ensures : ∀ {ν : Type} {m : Type → Type} [Attempt m] [Readable ν m] [MonadAttach m]
      [LawfulAttempt m] [SoundTrees ν] [SoundViews ν m] (v : ν), SoundTrees.Sound v →
        Yields (read v : m α) P)
    {text : String} {format : Format} {a : α} (parsed : parseAs? read text format = some a) :
    P a := by
  cases format with
  | json =>
    obtain ⟨v, tree, gives⟩ := Option.bind_eq_some_iff.mp parsed
    exact ensures v (Json.Node.parse?_sound tree) a gives
  | yaml =>
    obtain ⟨v, -, run⟩ := Option.bind_eq_some_iff.mp parsed
    obtain ⟨⟨a', left⟩, gives, rfl⟩ := Option.map_eq_some_iff.mp run
    exact ensures v trivial a' ⟨v.allowance, left, gives⟩

end Reading

end ApiGateway
