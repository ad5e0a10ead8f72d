import ApiGateway.Proxy.Frame
import Mathlib.Algebra.Group.Nat.Defs
import Mathlib.Tactic.Common

/-
Frames in a stream of bytes.

A frame is decided by its own bytes: more bytes after it do not change it, and a reader that finds a
frame at the front of a stream of written frames has found the first one of them. So the reader may
get the bytes in chunks of any length.

* `Frame.ofLittleEndian_littleEndian`, `Frame.next_encode` - what is written is read again.
* `Frame.next_append` - a frame at the front stays there when more bytes come.
* `Frame.Encodes` - bytes that are frames one after another; `Encodes.next` - the first of them.
-/

namespace ApiGateway

namespace Frame

theorem length_littleEndian (width n : Nat) : (littleEndian width n).length = width := by
  induction width generalizing n with
  | zero => rfl
  | succ width ih => simp [littleEndian, ih]

theorem ofLittleEndian_littleEndian (width n : Nat) (bound : n < 256 ^ width) :
    ofLittleEndian (littleEndian width n) = n := by
  induction width generalizing n with
  | zero =>
    have zero : n = 0 := by simpa using bound
    subst zero
    rfl
  | succ width ih =>
    have higher : n / 256 < 256 ^ width := by
      apply Nat.div_lt_of_lt_mul
      rw [Nat.mul_comm, ← Nat.pow_succ]
      exact bound
    have lowest : (UInt8.ofNat n).toNat = n % 256 := UInt8.toNat_ofNat'
    rw [littleEndian, ofLittleEndian, ih _ higher, lowest]
    exact Nat.mod_add_div n 256

theorem ofLittleEndian_lt (bs : Bytes) : ofLittleEndian bs < 256 ^ bs.length := by
  induction bs with
  | nil => decide
  | cons b bs ih =>
    have byte := b.toNat_lt
    rw [ofLittleEndian, List.length_cons, Nat.pow_succ]
    omega

/-- Bytes are those of the number that they say. -/
theorem littleEndian_ofLittleEndian (bs : Bytes) :
    littleEndian bs.length (ofLittleEndian bs) = bs := by
  induction bs with
  | nil => rfl
  | cons b bs ih =>
    have byte := b.toNat_lt
    have lowest : UInt8.ofNat (b.toNat + 256 * ofLittleEndian bs) = b := by
      apply UInt8.toNat_inj.mp
      rw [UInt8.toNat_ofNat']
      omega
    have higher : (b.toNat + 256 * ofLittleEndian bs) / 256 = ofLittleEndian bs := by omega
    rw [List.length_cons, ofLittleEndian, littleEndian, lowest, higher, ih]

@[simp] theorem ofCode?_code (kind : FrameKind) : FrameKind.ofCode? kind.code = some kind := by
  cases kind <;> rfl

theorem encode_eq_ok {f : Frame} {bytes : Bytes} (encoded : f.encode = .ok bytes) :
    f.body.length < 256 ^ 4 ∧
      bytes = littleEndian 8 f.id.toNat ++ [f.kind.code] ++ littleEndian 4 f.body.length ++
        f.body := by
  unfold encode at encoded
  split at encoded
  next short =>
    cases encoded
    exact ⟨short, rfl⟩
  next => cases encoded

/-- What comes after bytes with a whole header comes after what is behind the header. -/
theorem header_append (front : Bytes) (kind a b c d : UInt8) (rest more : Bytes) :
    front ++ kind :: a :: b :: c :: d :: rest ++ more =
      front ++ kind :: a :: b :: c :: d :: (rest ++ more) := by
  simp only [List.append_assoc, List.cons_append]

/-- What bytes say that have a whole header. -/
theorem next_header {front : Bytes} (eight : front.length = 8) (limit : Nat)
    (kind a b c d : UInt8) (rest : Bytes) :
    next limit (front ++ kind :: a :: b :: c :: d :: rest) =
      match FrameKind.ofCode? kind with
      | none => .fault (.unknownKind kind)
      | some kind =>
        let length := ofLittleEndian [a, b, c, d]
        if limit < length then .fault (.tooLarge length limit)
        else if rest.length < length then .more
        else .frame ⟨UInt64.ofNat (ofLittleEndian front), kind, rest.take length⟩
          (rest.drop length) := by
  cases code : FrameKind.ofCode? kind with
  | none => simp [next, List.drop_left' eight, code]
  | some kind => simp [next, List.drop_left' eight, List.take_left' eight, code]

/-- A frame that was written is read again, unless it is too long for the reader. -/
theorem next_encode {f : Frame} {bytes : Bytes} (encoded : f.encode = .ok bytes) (limit : Nat)
    (more : Bytes) :
    next limit (bytes ++ more) =
      if limit < f.body.length then .fault (.tooLarge f.body.length limit)
      else .frame f more := by
  obtain ⟨short, rfl⟩ := encode_eq_ok encoded
  have id : UInt64.ofNat (ofLittleEndian (littleEndian 8 f.id.toNat)) = f.id := by
    rw [ofLittleEndian_littleEndian _ _ f.id.toNat_lt]
    exact UInt64.ofNat_toNat
  have length := ofLittleEndian_littleEndian 4 f.body.length short
  obtain ⟨a, b, c, d, digits⟩ : ∃ a b c d, littleEndian 4 f.body.length = [a, b, c, d] :=
    ⟨_, _, _, _, rfl⟩
  rw [digits] at length ⊢
  have bytes : littleEndian 8 f.id.toNat ++ [f.kind.code] ++ [a, b, c, d] ++ f.body ++ more =
      littleEndian 8 f.id.toNat ++ f.kind.code :: a :: b :: c :: d :: (f.body ++ more) := by
    simp
  have enough : ¬ (f.body ++ more).length < f.body.length := by simp
  rw [bytes, next_header (length_littleEndian _ _), ofCode?_code, length, id]
  simp only [if_neg enough, List.take_left, List.drop_left]

/-- A frame at the front stays there when more bytes come. -/
theorem next_append {limit : Nat} {bytes rest : Bytes} {f : Frame}
    (found : next limit bytes = .frame f rest) (more : Bytes) :
    next limit (bytes ++ more) = .frame f (rest ++ more) := by
  have whole := found
  unfold next at found
  split at found
  next kind a b c d tail header =>
    have eight : (bytes.take 8).length = 8 := by
      have length := congrArg List.length header
      simp only [List.length_drop, List.length_cons] at length
      rw [List.length_take]
      omega
    have bytes_eq : bytes = bytes.take 8 ++ kind :: a :: b :: c :: d :: tail := by
      rw [← header, List.take_append_drop]
    rw [bytes_eq, next_header eight] at whole
    rw [bytes_eq, header_append, next_header eight]
    cases code : FrameKind.ofCode? kind with
    | none => simp [code] at whole
    | some kind =>
      simp only [code] at whole ⊢
      split at whole
      · cases whole
      next within =>
        split at whole
        · cases whole
        next enough =>
          have enough' : ¬ (tail ++ more).length < ofLittleEndian [a, b, c, d] := by
            rw [List.length_append]
            omega
          cases whole
          rw [if_neg within, if_neg enough', List.take_append_of_le_length (by omega),
            List.drop_append_of_le_length (by omega)]
  next => cases found

/-- The bytes are those of the frames, one after another. -/
inductive Encodes : List Frame → Bytes → Prop where
  | nil : Encodes [] []
  | cons {f : Frame} {bytes rest : Bytes} {fs : List Frame} (encoded : f.encode = .ok bytes)
      (others : Encodes fs rest) : Encodes (f :: fs) (bytes ++ rest)

theorem Encodes.concat {fs : List Frame} {bytes more : Bytes} {f : Frame}
    (encodes : Encodes fs bytes) (encoded : f.encode = .ok more) :
    Encodes (fs ++ [f]) (bytes ++ more) := by
  induction encodes with
  | nil => simpa using Encodes.cons encoded .nil
  | cons first _ ih =>
    rw [List.append_assoc]
    exact .cons first ih

/-- What a reader finds at the front of written frames is the first of them. -/
theorem Encodes.next {fs : List Frame} {limit : Nat} {bytes more rest : Bytes} {f : Frame}
    (encodes : Encodes fs (bytes ++ more)) (found : Frame.next limit bytes = .frame f rest) :
    ∃ others, fs = f :: others ∧ Encodes others (rest ++ more) := by
  have found := next_append found more
  generalize bytes ++ more = stream at encodes found
  cases encodes with
  | nil => cases found
  | cons encoded others =>
    rw [next_encode encoded] at found
    split at found
    · cases found
    · cases found
      exact ⟨_, rfl, others⟩

end Frame

end ApiGateway
