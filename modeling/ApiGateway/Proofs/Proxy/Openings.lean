import ApiGateway.Proofs.Proxy.Cutting

/-
What a stream opens with.

Any bytes may come, and a reader reports the first thing that is wrong with them: that they end
within the header, the kind, the length, that they end within the body. A header is taken whole
before it is looked at, and what comes after a frame is never taken.

* `Frame.Finds` - what is found at the front of the bytes of a stream, and the bytes behind it.
  Nothing else is possible (`Frame.exists_finds`).
* `Frame.Finds.found` - a reader finds it, in whatever chunks the bytes come.
* `Frame.classifies_readFrom` - both together.
-/

namespace ApiGateway

namespace FrameKind

theorem ofCode?_eq_some_iff {b : UInt8} {kind : FrameKind} :
    ofCode? b = some kind ↔ b = kind.code := by
  constructor
  · intro known
    unfold ofCode? at known
    split at known
    next call =>
      cases known
      exact call
    next =>
      split at known
      next reply =>
        cases known
        exact reply
      next => cases known
  · rintro rfl
    exact Frame.ofCode?_code kind

theorem ofCode?_eq_none_iff {b : UInt8} : ofCode? b = none ↔ b ≠ 0 ∧ b ≠ 1 := by
  unfold ofCode?
  split
  next call => simp [call]
  next other =>
    split
    next reply => simp [reply]
    next other' => simp [other, other']

end FrameKind

namespace Frame

/-! ### Headers -/

/-- The length of the body that a header announces. -/
def announced (bytes : Bytes) : Nat := ofLittleEndian ((bytes.drop 9).take 4)

section Header

variable {front rest body : Bytes} {kind a b c d : UInt8}

theorem announced_header (eight : front.length = 8) :
    announced (front ++ kind :: a :: b :: c :: d :: rest) = ofLittleEndian [a, b, c, d] := by
  have nine : (front ++ [kind]).length = 9 := by simp [eight]
  rw [announced, ← List.singleton_append, ← List.append_assoc, List.drop_left' nine]
  rfl

theorem getElem?_header (eight : front.length = 8) :
    (front ++ kind :: a :: b :: c :: d :: rest)[8]? = some kind := by
  rw [List.getElem?_append_right (Nat.le_of_eq eight), eight]
  rfl

theorem length_header (eight : front.length = 8) :
    (front ++ kind :: a :: b :: c :: d :: rest).length = headerLength + rest.length := by
  simp only [List.length_append, List.length_cons, eight, headerLength]
  omega

/-- Bytes with a whole header, of which the kind is known. -/
theorem exists_header_of_getElem? {bytes : Bytes} (whole : headerLength ≤ bytes.length)
    (eighth : bytes[8]? = some kind) : ∃ front a b c d rest, front.length = 8 ∧
      bytes = front ++ kind :: a :: b :: c :: d :: rest := by
  obtain ⟨front, kind', a, b, c, d, rest, eight, rfl⟩ := exists_header whole
  rw [getElem?_header eight] at eighth
  cases eighth
  exact ⟨front, a, b, c, d, rest, eight, rfl⟩

/-- A header and a body of the announced length are the bytes of a frame. -/
theorem encode_header (eight : front.length = 8) (kind : FrameKind)
    (length : body.length = ofLittleEndian [a, b, c, d]) :
    (⟨UInt64.ofNat (ofLittleEndian front), kind, body⟩ : Frame).encode =
      .ok (front ++ kind.code :: a :: b :: c :: d :: body) := by
  have short : body.length < Nat.pow 2 32 := by
    rw [length]
    exact Nat.lt_of_lt_of_le (ofLittleEndian_lt [a, b, c, d]) (by decide : 256 ^ 4 ≤ Nat.pow 2 32)
  have digits : littleEndian 4 body.length = [a, b, c, d] :=
    length ▸ littleEndian_ofLittleEndian [a, b, c, d]
  have bound : ofLittleEndian front < UInt64.size := by
    have lt := ofLittleEndian_lt front
    rw [eight] at lt
    exact lt
  have id : littleEndian 8 (UInt64.ofNat (ofLittleEndian front)).toNat = front := by
    rw [UInt64.toNat_ofNat_of_lt' bound, ← eight, littleEndian_ofLittleEndian]
  have frame : littleEndian 8 (UInt64.ofNat (ofLittleEndian front)).toNat ++ [kind.code] ++
      littleEndian 4 body.length ++ body = front ++ kind.code :: a :: b :: c :: d :: body := by
    rw [digits, id]
    simp
  rw [encode]
  exact (if_pos short).trans (congrArg Except.ok frame)

end Header

/-! ### What can be found -/

/-- What is found at the front of the bytes of a stream by a reader with a limit, and the bytes that
are left behind it. -/
inductive Finds (limit : Nat) (bytes : Bytes) :
    Except FrameError (Option Frame) → Bytes → Prop where
  | nothing : bytes = [] → Finds limit bytes (.ok none) []
  /-- The stream ends within the header. -/
  | header : bytes ≠ [] → bytes.length < headerLength → Finds limit bytes (.error .truncated) []
  | kind {b : UInt8} : headerLength ≤ bytes.length → bytes[8]? = some b → b ≠ 0 → b ≠ 1 →
    Finds limit bytes (.error (.unknownKind b)) (bytes.drop headerLength)
  | length {kind : FrameKind} : headerLength ≤ bytes.length → bytes[8]? = some kind.code →
    limit < announced bytes →
    Finds limit bytes (.error (.tooLarge (announced bytes) limit)) (bytes.drop headerLength)
  /-- The stream ends within the body. -/
  | body {kind : FrameKind} : headerLength ≤ bytes.length → bytes[8]? = some kind.code →
    announced bytes ≤ limit → bytes.length < headerLength + announced bytes →
    Finds limit bytes (.error .truncated) []
  | frame {f : Frame} {whole rest : Bytes} : f.encode = .ok whole → f.body.length ≤ limit →
    bytes = whole ++ rest → Finds limit bytes (.ok (some f)) rest

/-- Something is found in any bytes. -/
theorem exists_finds (limit : Nat) (bytes : Bytes) :
    ∃ outcome left, Finds limit bytes outcome left := by
  -- The cases are split in the order in which a reader looks at the bytes.
  by_cases ended : bytes = []
  · exact ⟨_, _, .nothing ended⟩
  by_cases whole : headerLength ≤ bytes.length
  case neg => exact ⟨_, _, .header ended (Nat.lt_of_not_le whole)⟩
  obtain ⟨front, byte, a, b, c, d, rest, eight, stream⟩ := exists_header whole
  have eighth : bytes[8]? = some byte := stream ▸ getElem?_header eight
  have announces : announced bytes = ofLittleEndian [a, b, c, d] := stream ▸ announced_header eight
  have long : bytes.length = headerLength + rest.length := stream ▸ length_header eight
  cases code : FrameKind.ofCode? byte with
  | none =>
    obtain ⟨notCall, notReply⟩ := FrameKind.ofCode?_eq_none_iff.mp code
    exact ⟨_, _, .kind whole eighth notCall notReply⟩
  | some kind =>
    obtain rfl := FrameKind.ofCode?_eq_some_iff.mp code
    by_cases large : limit < announced bytes
    · exact ⟨_, _, .length whole eighth large⟩
    by_cases lacking : rest.length < announced bytes
    · exact ⟨_, _, .body whole eighth (Nat.le_of_not_lt large) (by omega)⟩
    have body : (rest.take (announced bytes)).length = announced bytes :=
      List.length_take_of_le (Nat.le_of_not_lt lacking)
    have encoded := encode_header eight kind (body.trans announces)
    refine ⟨_, rest.drop (announced bytes), .frame encoded ?_ ?_⟩
    · exact Nat.le_trans (Nat.le_of_eq body) (Nat.le_of_not_lt large)
    · rw [header_append, List.take_append_drop]
      exact stream

/-! ### Reading -/

/-- What is there is found, and the bytes behind it are left. -/
theorem Finds.found {limit : Nat} {chunks : Chunks}
    {outcome : Except FrameError (Option Frame)} {left : Bytes}
    (finds : Finds limit chunks.flatten outcome left) (flowing : chunks.Flowing) :
    ((readFrom limit chunks).1, (readFrom limit chunks).2.flatten) = (outcome, left) := by
  cases finds with
  | nothing ended =>
    rw [readFrom_of_short flowing (by rw [ended]; decide), ended]
    rfl
  | header begun short =>
    rw [readFrom_of_short flowing short, if_neg (by simpa using begun)]
  | kind whole eighth notCall notReply =>
    obtain ⟨front, a, b, c, d, rest, eight, stream⟩ := exists_header_of_getElem? whole eighth
    rw [readFrom_header flowing eight stream, stream, drop_header eight,
      FrameKind.ofCode?_eq_none_iff.mpr ⟨notCall, notReply⟩]
  | length whole eighth large =>
    obtain ⟨front, a, b, c, d, rest, eight, stream⟩ := exists_header_of_getElem? whole eighth
    rw [stream, announced_header eight] at large
    rw [readFrom_header flowing eight stream, stream, drop_header eight, announced_header eight,
      ofCode?_code]
    exact if_pos large
  | body whole eighth within short =>
    obtain ⟨front, a, b, c, d, rest, eight, stream⟩ := exists_header_of_getElem? whole eighth
    rw [stream, announced_header eight] at within
    rw [stream, announced_header eight, length_header eight] at short
    rw [readFrom_header flowing eight stream, ofCode?_code]
    dsimp only
    rw [if_neg (Nat.not_lt.mpr within), if_pos (Nat.lt_of_add_lt_add_left short)]
  | frame encoded fits stream =>
    obtain ⟨found, -, behind⟩ := readFrom_eq flowing limit
    rw [stream, read_encode encoded fits] at found behind
    rw [found, behind _ _ rfl]
    rfl

/-- **A reader classifies every stream.** In whatever chunks the bytes of a stream come, it finds
what they open with and nothing else: the end, the first fault, or the frame whose bytes stand in
front. What is left for the next reader are the bytes behind that. -/
theorem classifies_readFrom {chunks : Chunks} (flowing : chunks.Flowing) (limit : Nat) :
    (readFrom limit chunks).2.Flowing ∧
      ∀ outcome left, Finds limit chunks.flatten outcome left ↔
        (readFrom limit chunks).1 = outcome ∧ (readFrom limit chunks).2.flatten = left := by
  refine ⟨flowing_readFrom flowing limit, fun outcome left => ⟨fun finds => ?_, ?_⟩⟩
  · exact Prod.mk.inj (finds.found flowing)
  · rintro ⟨rfl, rfl⟩
    obtain ⟨outcome, left, finds⟩ := exists_finds limit chunks.flatten
    obtain ⟨same, same'⟩ := Prod.mk.inj (finds.found flowing)
    rwa [same, same']

/-- A reply in three chunks, with a byte after it. -/
theorem classifies_readFrom_threeChunks :
    let chunks : Chunks := [[7, 0, 0], [0, 0, 0, 0, 0, 1, 1], [0, 0, 0, 0x61, 9]]
    chunks.Flowing ∧ (readFrom 1 chunks).2.Flowing ∧
      ∀ outcome left, Finds 1 chunks.flatten outcome left ↔
        .ok (some ⟨7, .reply, [0x61]⟩) = outcome ∧ [9] = left := by
  intro chunks
  have flowing : ∀ chunk ∈ chunks, chunk ≠ [] := by decide
  exact ⟨flowing, classifies_readFrom flowing 1⟩

end Frame

end ApiGateway
