import ApiGateway.Proofs.Json.Quoting

/-
The bytes of a text, split into characters.

The lead byte of a character tells how many bytes follow and in which range the first of them is, so
that the bytes of a text are split into the bytes of its characters, one sequence for each
(`Text.sequences_encode`). None is broken, and a reader of the bytes sees the characters of the text
(`Json.Node.charsOfBytes_encode`).
-/

namespace ApiGateway

namespace Text

/-! ### One character -/

theorem continued_zero (lo hi : UInt8) (bs : Bytes) : continued 0 lo hi bs = 0 := by
  cases bs <;> rfl

theorem continued_succ {n : Nat} {lo hi b : UInt8} (within : (lo ≤ b && b ≤ hi) = true)
    (bs : Bytes) : continued (n + 1) lo hi (b :: bs) = 1 + continued n 0x80 0xBF bs := by
  rw [continued, if_pos within]

/-- Six bits behind the mark of a continuation. -/
theorem within_continuation :
    ∀ n < 64, (0x80 ≤ UInt8.ofNat (n + 128) && UInt8.ofNat (n + 128) ≤ 0xBF) = true := by decide

theorem continuation?_one :
    ∀ n < 128, continuation? (UInt8.ofNat n) = some (0, 0x80, 0xBF) := by decide

theorem continuation?_two :
    ∀ n < 32, 2 ≤ n → continuation? (UInt8.ofNat (n + 192)) = some (1, 0x80, 0xBF) := by decide

/-- The first continuation tells short forms and surrogates apart. -/
theorem continuation?_three : ∀ n < 16, continuation? (UInt8.ofNat (n + 224)) =
    some (2, if n = 0 then 0xA0 else 0x80, if n = 13 then 0x9F else 0xBF) := by decide

theorem continuation?_four : ∀ n < 5, continuation? (UInt8.ofNat (n + 240)) =
    some (3, if n = 0 then 0x90 else 0x80, if n = 4 then 0x8F else 0xBF) := by decide

theorem within_three : ∀ n < 16, ∀ k < 64, (n = 0 → 32 ≤ k) → (n = 13 → k < 32) →
    ((if n = 0 then 0xA0 else 0x80) ≤ UInt8.ofNat (k + 128) &&
      UInt8.ofNat (k + 128) ≤ if n = 13 then 0x9F else 0xBF) = true := by decide

theorem within_four : ∀ n < 5, ∀ k < 64, (n = 0 → 16 ≤ k) → (n = 4 → k < 16) →
    ((if n = 0 then 0x90 else 0x80) ≤ UInt8.ofNat (k + 128) &&
      UInt8.ofNat (k + 128) ≤ if n = 4 then 0x8F else 0xBF) = true := by decide

/-- Behind a lead byte, as many bytes belong to the sequence as continue it. -/
theorem sequences_cons {fuel n : Nat} {lo hi b : UInt8} {bs rest : Bytes}
    (lead : continuation? b = some (n, lo, hi)) (follow : continued n lo hi (bs ++ rest) = n)
    (length : bs.length = n) :
    sequences (fuel + 1) (b :: bs ++ rest) = (b :: bs) :: sequences fuel rest := by
  rw [List.cons_append, sequences, lead]
  dsimp only
  rw [follow, List.take_append_of_le_length (Nat.le_of_eq length.symm), ← length, List.take_length,
    List.drop_left]

/-- The bytes of a character are one sequence. -/
theorem sequences_encodeChar (fuel : Nat) (c : Char) (rest : Bytes) :
    sequences (fuel + 1) (String.utf8EncodeChar c ++ rest) =
      String.utf8EncodeChar c :: sequences fuel rest := by
  have valid : c.val.toNat < 0xD800 ∨ 0xDFFF < c.val.toNat ∧ c.val.toNat < 0x110000 := c.valid
  have six : ∀ n, n % 64 < 64 := fun n => Nat.mod_lt n (by decide)
  unfold String.utf8EncodeChar
  dsimp only
  generalize c.val.toNat = v at valid
  split
  next one =>
    exact sequences_cons (continuation?_one v (by omega)) (continued_zero _ _ _) rfl
  next =>
    split
    next two =>
      refine sequences_cons (continuation?_two (v / 64 % 32) (by omega) (by omega)) ?_ rfl
      rw [List.cons_append, continued_succ (within_continuation _ (six v)), continued_zero]
    next =>
      split
      next three =>
        have second := within_three (v / 4096 % 16) (by omega) (v / 64 % 64) (by omega) (by omega)
          (by omega)
        refine sequences_cons (continuation?_three (v / 4096 % 16) (by omega)) ?_ rfl
        rw [List.cons_append, continued_succ second, List.cons_append,
          continued_succ (within_continuation _ (six v)), continued_zero]
      next four =>
        have lead : v / 262144 % 8 < 5 := by omega
        have second := within_four (v / 262144 % 8) lead (v / 4096 % 64) (by omega) (by omega)
          (by omega)
        refine sequences_cons (continuation?_four (v / 262144 % 8) lead) ?_ rfl
        rw [List.cons_append, continued_succ second, List.cons_append,
          continued_succ (within_continuation _ (six (v / 64))), List.cons_append,
          continued_succ (within_continuation _ (six v)), continued_zero]

/-! ### Texts -/

theorem encode_eq (s : String) : encode s = s.toList.flatMap String.utf8EncodeChar := by
  have bytes : s.toByteArray = s.toList.utf8Encode := String.utf8Encode_toList.symm
  rw [encode, bytes, List.utf8Encode, List.data_toByteArray]

/-- Bytes stand for the text whose bytes they are. -/
theorem decode?_eq_some_iff {bs : Bytes} {s : String} : decode? bs = some s ↔ encode s = bs := by
  constructor
  · intro decoded
    unfold decode? String.fromUTF8? at decoded
    split at decoded
    · cases decoded
      rfl
    · cases decoded
  · rintro rfl
    exact decode?_encode s

theorem decode?_eq_none_iff {bs : Bytes} : decode? bs = none ↔ ∀ s, encode s ≠ bs := by
  simp only [Option.eq_none_iff_forall_ne_some, ne_eq, decode?_eq_some_iff]

/-- The bytes of a text are split into the bytes of its characters. -/
theorem sequences_encode {cs : List Char} {fuel : Nat}
    (enough : (cs.flatMap String.utf8EncodeChar).length ≤ fuel) :
    sequences fuel (cs.flatMap String.utf8EncodeChar) = cs.map String.utf8EncodeChar := by
  induction cs generalizing fuel with
  | nil => cases fuel <;> rfl
  | cons c cs ih =>
    have positive : 0 < (String.utf8EncodeChar c).length := by
      rw [String.length_utf8EncodeChar]
      exact c.utf8Size_pos
    rw [List.flatMap_cons, List.length_append] at enough
    obtain ⟨fuel, rfl⟩ : ∃ f, fuel = f + 1 := ⟨fuel - 1, by omega⟩
    rw [List.flatMap_cons, sequences_encodeChar, ih (by omega), List.map_cons]

theorem decode?_encodeChar (c : Char) :
    decode? (String.utf8EncodeChar c) = some (String.ofList [c]) := by
  have bytes : encode (String.ofList [c]) = String.utf8EncodeChar c := by
    rw [encode_eq, String.toList_ofList, List.flatMap_cons, List.flatMap_nil, List.append_nil]
  rw [← bytes, decode?_encode]

theorem ofNat_ne_zero {n : Nat} (positive : 0 < n) (byte : n < 256) : UInt8.ofNat n ≠ 0 := by
  intro zero
  have value := congrArg UInt8.toNat zero
  rw [UInt8.toNat_ofNat', Nat.mod_eq_of_lt byte] at value
  exact Nat.ne_of_gt positive value

/-- Only the null character has a zero byte. -/
theorem zero_mem_encodeChar {c : Char} : 0 ∈ String.utf8EncodeChar c ↔ c = '\x00' := by
  constructor
  · intro zero
    unfold String.utf8EncodeChar at zero
    dsimp only at zero
    have continues : ∀ n, 0 ≠ UInt8.ofNat (n % 64 + 128) := fun n =>
      (ofNat_ne_zero (by omega) (by omega)).symm
    split at zero
    next one =>
      rw [List.mem_singleton] at zero
      refine Decidable.byContradiction fun other => ?_
      have positive : 0 < c.val.toNat := Nat.pos_of_ne_zero fun null => other (Char.toNat_inj.mp null)
      exact ofNat_ne_zero positive (by omega) zero.symm
    next =>
      split at zero
      next =>
        have lead : 0 ≠ UInt8.ofNat (c.val.toNat / 64 % 32 + 192) :=
          (ofNat_ne_zero (by omega) (by omega)).symm
        simp only [List.mem_cons, List.not_mem_nil, lead, continues, or_self] at zero
      next =>
        split at zero
        next =>
          have lead : 0 ≠ UInt8.ofNat (c.val.toNat / 4096 % 16 + 224) :=
            (ofNat_ne_zero (by omega) (by omega)).symm
          simp only [List.mem_cons, List.not_mem_nil, lead, continues, or_self] at zero
        next =>
          have lead : 0 ≠ UInt8.ofNat (c.val.toNat / 262144 % 8 + 240) :=
            (ofNat_ne_zero (by omega) (by omega)).symm
          simp only [List.mem_cons, List.not_mem_nil, lead, continues, or_self] at zero
  · rintro rfl
    decide

theorem zero_mem_encode {s : String} : 0 ∈ encode s ↔ '\x00' ∈ s.toList := by
  simp only [encode_eq, List.mem_flatMap, zero_mem_encodeChar, exists_eq_right]

end Text

namespace Json.Node

/-- The characters of the bytes of a text are the characters of the text. -/
theorem charsOfBytes_encode (s : String) : charsOfBytes (Text.encode s) = s.toList := by
  rw [charsOfBytes, Text.encode_eq, Text.sequences_encode (Nat.le_refl _), List.flatMap_map]
  simp only [Text.decode?_encodeChar, String.toList_ofList]
  exact List.flatMap_singleton' s.toList

end Json.Node

end ApiGateway
