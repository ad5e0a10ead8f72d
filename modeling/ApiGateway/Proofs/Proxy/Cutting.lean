import ApiGateway.Proofs.Attempts
import ApiGateway.Proofs.Proxy.Framing
import ApiGateway.Proxy.Chunks

/-
Frames from a stream that comes in chunks and is cut anywhere.

The chunks of a stream do not matter to its reader (`Frame.readFrom_eq`), which reads on until there
is no frame (`Frame.readAllFrom_eq`), and the bytes of a frame that are cut say only that more must
come (`Frame.read_cut`). So a reader gets the frames that lie wholly before the cut, and finds out
whether the cut lies between two frames (`Frame.readAllFrom_cut`).
-/

namespace ApiGateway

/-! ### Chunks -/

namespace Chunks

/-- No chunk is empty: the stream ends after the last. -/
def Flowing (chunks : Chunks) : Prop := ∀ chunk ∈ chunks, chunk ≠ []

variable {chunks : Chunks}

/-- What is read are the first bytes of the stream, however they come. -/
theorem fill_eq (flowing : chunks.Flowing) (wanted : Nat) :
    ∃ rest, fill wanted chunks = (chunks.flatten.take wanted, rest) ∧
      rest.flatten = chunks.flatten.drop wanted ∧ rest.Flowing := by
  induction chunks generalizing wanted with
  | nil => exact ⟨[], by simp [fill], by simp, nofun⟩
  | cons chunk chunks ih =>
    obtain ⟨first, others⟩ := List.forall_mem_cons.mp flowing
    have nonempty : ¬ chunk.isEmpty = true := by simpa using first
    rw [fill, if_neg nonempty]
    by_cases within : wanted < chunk.length
    · refine ⟨chunk.drop wanted :: chunks, ?_, ?_, ?_⟩
      · rw [if_pos within, List.flatten_cons, List.take_append_of_le_length (Nat.le_of_lt within)]
      · rw [List.flatten_cons, List.flatten_cons,
          List.drop_append_of_le_length (Nat.le_of_lt within)]
      · refine List.forall_mem_cons.mpr ⟨?_, others⟩
        rw [ne_eq, List.drop_eq_nil_iff]
        exact Nat.not_le.mpr within
    · obtain ⟨rest, filled, bytes, flows⟩ := ih others (wanted - chunk.length)
      have beyond : chunk.length ≤ wanted := Nat.le_of_not_lt within
      refine ⟨rest, ?_, ?_, flows⟩
      · rw [if_neg within, filled, List.flatten_cons, List.take_append,
          List.take_of_length_le beyond]
      · rw [bytes, List.flatten_cons, List.drop_append, List.drop_eq_nil_of_le beyond,
          List.nil_append]

/-- A byte string comes through a pipe whole and in order. -/
theorem flatten_ofBytes (length : Nat) (bytes : Bytes) :
    (ofBytes length bytes).flatten = bytes := by
  have all : ∀ fuel (bytes : Bytes), bytes.length ≤ fuel →
      (pieces length fuel bytes).flatten = bytes := by
    intro fuel
    induction fuel with
    | zero =>
      intro bytes short
      rw [pieces, List.eq_nil_of_length_eq_zero (Nat.le_zero.mp short), List.flatten_nil]
    | succ fuel ih =>
      intro bytes short
      rw [pieces]
      split
      next empty => rw [List.isEmpty_iff.mp empty, List.flatten_nil]
      next =>
        have shorter : (bytes.drop (length + 1)).length ≤ fuel := by
          rw [List.length_drop]
          omega
        rw [List.flatten_cons, ih _ shorter, List.take_append_drop]
  exact all bytes.length bytes (Nat.le_refl _)

theorem flowing_ofBytes (length : Nat) (bytes : Bytes) : (ofBytes length bytes).Flowing := by
  have all : ∀ fuel (bytes : Bytes), (pieces length fuel bytes).Flowing := by
    intro fuel
    induction fuel with
    | zero => exact fun _ => nofun
    | succ fuel ih =>
      intro bytes
      rw [pieces]
      split
      next => exact nofun
      next nonempty =>
        refine List.forall_mem_cons.mpr ⟨?_, ih _⟩
        simpa using nonempty
  exact all bytes.length bytes

end Chunks

namespace Frame

/-! ### Reading does not depend on the chunks -/

/-- Bytes that make a whole header. -/
theorem exists_header {bytes : Bytes} (whole : headerLength ≤ bytes.length) :
    ∃ front kind a b c d rest, front.length = 8 ∧
      bytes = front ++ kind :: a :: b :: c :: d :: rest := by
  have eight : (bytes.take 8).length = 8 := by
    rw [List.length_take]
    exact Nat.min_eq_left (Nat.le_trans (by decide) whole)
  have long : 5 ≤ (bytes.drop 8).length := by
    rw [List.length_drop]
    exact Nat.le_sub_of_add_le whole
  match header : bytes.drop 8, long with
  | kind :: a :: b :: c :: d :: rest, _ =>
    exact ⟨bytes.take 8, kind, a, b, c, d, rest, eight, by rw [← header, List.take_append_drop]⟩

section Header

variable {front : Bytes} (eight : front.length = 8) (kind a b c d : UInt8) (rest : Bytes)

include eight

theorem take_header : (front ++ kind :: a :: b :: c :: d :: rest).take headerLength =
    front ++ [kind, a, b, c, d] := by
  have whole : (front ++ [kind, a, b, c, d]).length = headerLength := by simp [eight, headerLength]
  exact header_append front kind a b c d [] rest ▸ List.take_left' whole

theorem drop_header : (front ++ kind :: a :: b :: c :: d :: rest).drop headerLength = rest := by
  have whole : (front ++ [kind, a, b, c, d]).length = headerLength := by simp [eight, headerLength]
  exact header_append front kind a b c d [] rest ▸ List.drop_left' whole

end Header

/-- Less than a header says nothing. -/
theorem next_of_short {bytes : Bytes} (short : bytes.length < headerLength) (limit : Nat) :
    next limit bytes = .more := by
  unfold next
  split
  next kind a b c d rest header =>
    have length := congrArg List.length header
    simp only [List.length_drop, List.length_cons] at length
    unfold headerLength at short
    omega
  next => rfl

/-- What is left of chunks that do not end are such chunks. -/
theorem flowing_readFrom {chunks : Chunks} (flowing : chunks.Flowing) (limit : Nat) :
    (readFrom limit chunks).2.Flowing := by
  obtain ⟨behind, filled, -, flows⟩ := Chunks.fill_eq flowing headerLength
  unfold readFrom
  rw [filled]
  dsimp only
  split
  next kind a b c d header =>
    cases FrameKind.ofCode? kind with
    | none => exact flows
    | some kind' =>
      dsimp only
      split
      next => exact flows
      next =>
        obtain ⟨left, body, -, flows'⟩ := Chunks.fill_eq flows (ofLittleEndian [a, b, c, d])
        rw [body]
        dsimp only
        split <;> exact flows'
  next => exact flows

/-- A stream that ends within a header is read to its end. -/
theorem readFrom_of_short {chunks : Chunks} (flowing : chunks.Flowing)
    (short : chunks.flatten.length < headerLength) (limit : Nat) :
    ((readFrom limit chunks).1, (readFrom limit chunks).2.flatten) =
      (if chunks.flatten.isEmpty then .ok none else .error .truncated, []) := by
  obtain ⟨rest, filled, left, -⟩ := Chunks.fill_eq flowing headerLength
  rw [List.drop_of_length_le (Nat.le_of_lt short)] at left
  unfold readFrom
  rw [filled, List.take_of_length_le (Nat.le_of_lt short)]
  dsimp only
  split
  next kind a b c d header =>
    have length := congrArg List.length header
    simp only [List.length_drop, List.length_cons, List.length_nil] at length
    unfold headerLength at short
    omega
  next => rw [left]

/-- Behind a header that can be read, a body is read to its end or to the end of the stream. -/
theorem readFrom_header {chunks : Chunks} (flowing : chunks.Flowing) {front rest : Bytes}
    (eight : front.length = 8) {kind a b c d : UInt8}
    (stream : chunks.flatten = front ++ kind :: a :: b :: c :: d :: rest) (limit : Nat) :
    ((readFrom limit chunks).1, (readFrom limit chunks).2.flatten) =
      match FrameKind.ofCode? kind with
      | none => (.error (.unknownKind kind), rest)
      | some kind =>
        let length := ofLittleEndian [a, b, c, d]
        if limit < length then (.error (.tooLarge length limit), rest)
        else if rest.length < length then (.error .truncated, [])
        else (.ok (some ⟨UInt64.ofNat (ofLittleEndian front), kind, rest.take length⟩),
          rest.drop length) := by
  obtain ⟨behind, filled, left, flows⟩ := Chunks.fill_eq flowing headerLength
  rw [stream, take_header eight] at filled
  rw [stream, drop_header eight] at left
  unfold readFrom
  rw [filled]
  dsimp only
  rw [List.drop_left' eight, List.take_left' eight]
  dsimp only
  cases FrameKind.ofCode? kind with
  | none => rw [left]
  | some kind' =>
    dsimp only
    generalize ofLittleEndian [a, b, c, d] = length
    obtain ⟨afterBody, body, after, -⟩ := Chunks.fill_eq flows length
    rw [left] at body after
    rw [body]
    dsimp only
    by_cases large : limit < length
    · rw [if_pos large, if_pos large, left]
    rw [if_neg large, if_neg large]
    by_cases lacking : rest.length < length
    · have short : (rest.take length).length < length :=
        Nat.lt_of_le_of_lt (List.length_take_le' _ _) lacking
      rw [if_pos lacking, if_pos short, after, List.drop_of_length_le (Nat.le_of_lt lacking)]
    · have enough : ¬ (rest.take length).length < length := by
        rw [List.length_take, Nat.min_eq_left (Nat.le_of_not_lt lacking)]
        exact Nat.lt_irrefl _
      rw [if_neg lacking, if_neg enough, after]

/-- What a reader of chunks has to do with their bytes: it finds the same, and leaves the bytes
after the frame. -/
def ReadsAs (found : Except FrameError (Option Frame) × Chunks)
    (said : Except FrameError (Option (Frame × Bytes))) : Prop :=
  found.1 = said.map (·.map (·.1)) ∧ found.2.Flowing ∧
    ∀ f bytes, said = .ok (some (f, bytes)) → found.2.flatten = bytes

/-- A reader gets from the chunks of a stream what its bytes say. -/
theorem readFrom_eq {chunks : Chunks} (flowing : chunks.Flowing) (limit : Nat) :
    ReadsAs (readFrom limit chunks) (read limit chunks.flatten) := by
  have flows := flowing_readFrom flowing limit
  by_cases whole : headerLength ≤ chunks.flatten.length
  case neg =>
    obtain ⟨outcome, left⟩ :=
      Prod.mk.inj (readFrom_of_short flowing (Nat.lt_of_not_le whole) limit)
    rw [ReadsAs, outcome, left, read, next_of_short (Nat.lt_of_not_le whole)]
    dsimp only
    split
    · exact ⟨rfl, flows, nofun⟩
    · exact ⟨rfl, flows, nofun⟩
  obtain ⟨front, kind, a, b, c, d, rest, eight, stream⟩ := exists_header whole
  have found := readFrom_header flowing eight stream limit
  have begun : ¬ (front ++ kind :: a :: b :: c :: d :: rest).isEmpty = true := by simp
  rw [stream, read, next_header eight]
  cases code : FrameKind.ofCode? kind with
  | none =>
    rw [code] at found
    exact ⟨(Prod.mk.inj found).1, flows, nofun⟩
  | some kind' =>
    rw [code] at found
    dsimp only at found ⊢
    generalize ofLittleEndian [a, b, c, d] = length at found ⊢
    by_cases large : limit < length
    · rw [if_pos large] at found ⊢
      exact ⟨(Prod.mk.inj found).1, flows, nofun⟩
    rw [if_neg large] at found ⊢
    by_cases lacking : rest.length < length
    · rw [if_pos lacking] at found ⊢
      dsimp only
      rw [if_neg begun]
      exact ⟨(Prod.mk.inj found).1, flows, nofun⟩
    · rw [if_neg lacking] at found ⊢
      refine ⟨(Prod.mk.inj found).1, flows, ?_⟩
      rintro f bytes ⟨⟩
      exact (Prod.mk.inj found).2

/-! ### Reading on -/

/-- A frame takes its header from the bytes at least. -/
theorem length_lt_of_read {limit : Nat} {bytes rest : Bytes} {f : Frame}
    (found : read limit bytes = .ok (some (f, rest))) : rest.length < bytes.length := by
  unfold read at found
  by_cases whole : headerLength ≤ bytes.length
  case neg =>
    rw [next_of_short (Nat.lt_of_not_le whole)] at found
    dsimp only at found
    split at found <;> cases found
  obtain ⟨front, kind, a, b, c, d, tail, eight, rfl⟩ := exists_header whole
  have behind : ∀ length, (tail.drop length).length <
      (front ++ kind :: a :: b :: c :: d :: tail).length := by
    intro length
    rw [List.length_drop, List.length_append]
    simp only [List.length_cons]
    omega
  rw [next_header eight] at found
  cases code : FrameKind.ofCode? kind with
  | none => simp [code] at found
  | some kind' =>
    simp only [code] at found
    by_cases large : limit < ofLittleEndian [a, b, c, d]
    · rw [if_pos large] at found
      cases found
    rw [if_neg large] at found
    by_cases lacking : tail.length < ofLittleEndian [a, b, c, d]
    · rw [if_pos lacking] at found
      simp at found
    rw [if_neg lacking] at found
    cases found
    exact behind _

/-- Reading goes on from frame to frame by what the bytes say. -/
theorem readFrames_succ {chunks : Chunks} (flowing : chunks.Flowing) (limit fuel : Nat) :
    readFrames limit (fuel + 1) chunks =
      match read limit chunks.flatten with
      | .ok (some (f, _)) =>
        (f :: (readFrames limit fuel (readFrom limit chunks).2).1,
          (readFrames limit fuel (readFrom limit chunks).2).2)
      | .ok none => ([], none)
      | .error e => ([], some e) := by
  have said := (readFrom_eq flowing limit).1
  rw [readFrames]
  generalize readFrom limit chunks = outcome at said ⊢
  obtain ⟨outcome, rest⟩ := outcome
  dsimp only at said
  subst said
  rcases read limit chunks.flatten with e | (_ | ⟨f, bytes⟩) <;> rfl

/-- Fuel that exceeds the number of bytes never ends the reading. -/
theorem readFrames_stable {chunks : Chunks} (flowing : chunks.Flowing) {limit fuel fuel' : Nat}
    (enough : chunks.flatten.length < fuel) (enough' : chunks.flatten.length < fuel') :
    readFrames limit fuel chunks = readFrames limit fuel' chunks := by
  induction fuel generalizing chunks fuel' with
  | zero => exact absurd enough (Nat.not_lt_zero _)
  | succ fuel ih =>
    obtain ⟨fuel', rfl⟩ : ∃ k, fuel' = k + 1 := ⟨fuel' - 1, by omega⟩
    obtain ⟨-, flows, left⟩ := readFrom_eq flowing limit
    rw [readFrames_succ flowing, readFrames_succ flowing]
    cases said : read limit chunks.flatten with
    | error e => rfl
    | ok found =>
      cases found with
      | none => rfl
      | some found =>
        have shorter := length_lt_of_read said
        rw [← left _ _ said] at shorter
        dsimp only
        rw [ih flows (Nat.lt_of_lt_of_le shorter (Nat.le_of_lt_succ enough))
          (Nat.lt_of_lt_of_le shorter (Nat.le_of_lt_succ enough'))]

/-- All frames of a stream: the first, and all those of what is left. -/
theorem readAllFrom_eq {chunks : Chunks} (flowing : chunks.Flowing) (limit : Nat) :
    readAllFrom limit chunks =
      match read limit chunks.flatten with
      | .ok (some (f, _)) =>
        (f :: (readAllFrom limit (readFrom limit chunks).2).1,
          (readAllFrom limit (readFrom limit chunks).2).2)
      | .ok none => ([], none)
      | .error e => ([], some e) := by
  obtain ⟨-, flows, left⟩ := readFrom_eq flowing limit
  rw [readAllFrom, readFrames_succ flowing]
  cases said : read limit chunks.flatten with
  | error e => rfl
  | ok found =>
    cases found with
    | none => rfl
    | some found =>
      have shorter := length_lt_of_read said
      rw [← left _ _ said] at shorter
      dsimp only
      rw [readFrames_stable flows shorter (Nat.lt_succ_self _)]
      rfl

/-! ### Reading up to a cut -/

/-- The first bytes of a frame say that more must come. -/
theorem next_cut {f : Frame} {bytes : Bytes} (encoded : f.encode = .ok bytes) {limit : Nat}
    (fits : f.body.length ≤ limit) {count : Nat} (cut : count < bytes.length) :
    next limit (bytes.take count) = .more := by
  by_cases whole : headerLength ≤ (bytes.take count).length
  case neg => exact next_of_short (Nat.lt_of_not_le whole) limit
  obtain ⟨front, kind, a, b, c, d, rest, eight, first⟩ := exists_header whole
  -- The whole frame has the same header, and says that its body is longer than what is left.
  have frame := next_encode encoded limit []
  rw [List.append_nil, if_neg (Nat.not_lt.mpr fits), ← List.take_append_drop count bytes, first,
    header_append, next_header eight] at frame
  rw [first, next_header eight]
  cases code : FrameKind.ofCode? kind with
  | none => simp [code] at frame
  | some kind' =>
    simp only [code] at frame ⊢
    split at frame
    · cases frame
    next within =>
      split at frame
      · cases frame
      next =>
        rw [if_neg within, if_pos]
        injection frame with _ nothing
        have dropped : (bytes.drop count).length = bytes.length - count := List.length_drop
        have sizes := congrArg List.length nothing
        simp only [List.length_drop, List.length_append, List.length_nil] at sizes
        omega

/-- What a cut frame says at the end of a stream. -/
theorem read_cut {f : Frame} {bytes : Bytes} (encoded : f.encode = .ok bytes) {limit : Nat}
    (fits : f.body.length ≤ limit) {count : Nat} (cut : count < bytes.length) :
    read limit (bytes.take count) = if count = 0 then .ok none else .error .truncated := by
  rw [read, next_cut encoded fits cut]
  dsimp only
  by_cases nothing : count = 0
  · subst nothing
    rfl
  · have some : ¬ (bytes.take count).isEmpty = true := by
      rw [List.isEmpty_iff, ← List.length_eq_zero_iff, List.length_take,
        Nat.min_eq_left (Nat.le_of_lt cut)]
      exact nothing
    rw [if_neg some, if_neg nothing]

/-- A whole frame is read, and what comes after it is left. -/
theorem read_encode {f : Frame} {bytes : Bytes} (encoded : f.encode = .ok bytes) {limit : Nat}
    (fits : f.body.length ≤ limit) (more : Bytes) :
    read limit (bytes ++ more) = .ok (some (f, more)) := by
  rw [read, next_encode encoded, if_neg (Nat.not_lt.mpr fits)]

/-- What a reader finds in a stream of frames of which some first bytes came: the frames that lie
wholly within them, and then the end of the stream, or a cut if the bytes end within a frame. -/
structure UpTo (fs : List Frame) (encoded : List Bytes) (count : Nat)
    (found : List Frame × Option FrameError) (whole : Nat) : Prop where
  le : whole ≤ fs.length
  iff : ∀ i ≤ fs.length, i ≤ whole ↔ (encoded.take i).flatten.length ≤ count
  frames : found.1 = fs.take whole
  ended : found.2 = if (encoded.take whole).flatten.length = count then none else some .truncated

/-- One frame more at the front, of which all bytes came. -/
theorem UpTo.cons {fs : List Frame} {encoded : List Bytes} {count whole : Nat}
    {found : List Frame × Option FrameError} {f : Frame} {first : Bytes}
    (rest : UpTo fs encoded (count - first.length) found whole) (came : first.length ≤ count) :
    UpTo (f :: fs) (first :: encoded) count (f :: found.1, found.2) (whole + 1) where
  le := Nat.succ_le_succ rest.le
  iff := by
    intro i hi
    cases i with
    | zero => simp
    | succ i =>
      have same := rest.iff i (Nat.le_of_succ_le_succ hi)
      rw [List.take_succ_cons, List.flatten_cons, List.length_append]
      omega
  frames := by rw [rest.frames, List.take_succ_cons]
  ended := by
    rw [rest.ended, List.take_succ_cons, List.flatten_cons, List.length_append]
    exact if_congr (by omega) rfl rfl

/-- A cut within the first frame, or in front of it. -/
theorem UpTo.cut {fs : List Frame} {encoded : List Bytes} {count : Nat} {f : Frame}
    {first : Bytes} (cut : count < first.length) :
    UpTo (f :: fs) (first :: encoded) count
      ([], if count = 0 then none else some .truncated) 0 where
  le := Nat.zero_le _
  iff := by
    intro i _
    cases i with
    | zero => simp
    | succ i =>
      rw [List.take_succ_cons, List.flatten_cons, List.length_append]
      omega
  frames := rfl
  ended := if_congr eq_comm rfl rfl

theorem readAllFrom_upTo {fs : List Frame} {encoded : List Bytes} {limit : Nat}
    (each : List.Forall₂ (fun f bytes => f.encode = .ok bytes) fs encoded)
    (fits : ∀ f ∈ fs, f.body.length ≤ limit) {count : Nat} {chunks : Chunks}
    (flowing : chunks.Flowing) (kept : count ≤ encoded.flatten.length)
    (bytes : chunks.flatten = encoded.flatten.take count) :
    ∃ whole, UpTo fs encoded count (readAllFrom limit chunks) whole := by
  induction each generalizing count chunks with
  | nil =>
    obtain rfl : count = 0 := Nat.le_zero.mp kept
    rw [readAllFrom_eq flowing, bytes]
    exact ⟨0, Nat.le_refl _, by simp, rfl, rfl⟩
  | @cons f first fs encoded encodes _ ih =>
    obtain ⟨-, flows, left⟩ := readFrom_eq flowing limit
    obtain ⟨within, others⟩ := List.forall_mem_cons.mp fits
    rw [List.flatten_cons] at bytes kept
    rw [readAllFrom_eq flowing]
    by_cases cut : count < first.length
    · rw [bytes, List.take_append_of_le_length (Nat.le_of_lt cut), read_cut encodes within cut]
      have upTo : UpTo (f :: fs) (first :: encoded) count _ 0 := .cut cut
      refine ⟨0, ?_⟩
      split at upTo
      next nothing => rwa [if_pos nothing]
      next some => rwa [if_neg some]
    · have came : first.length ≤ count := Nat.le_of_not_lt cut
      have whole : read limit chunks.flatten =
          .ok (some (f, encoded.flatten.take (count - first.length))) := by
        rw [bytes, List.take_append, List.take_of_length_le came, read_encode encodes within]
      rw [List.length_append] at kept
      obtain ⟨others, upTo⟩ := ih others flows (by omega) (left f _ whole)
      rw [whole]
      exact ⟨others + 1, upTo.cons came⟩

/-- **A cut stream gives the frames before the cut.** Frames within the limits are written one after
another, and some first bytes of them come in chunks of any kind. The reader finds the frames that
lie wholly within these bytes, as they were, and then the end of the stream exactly if the bytes end
with a frame. -/
theorem readAllFrom_cut {fs : List Frame} {limit : Nat}
    (fits : ∀ f ∈ fs, f.body.length ≤ limit ∧ f.body.length ≤ 2 ^ 32 - 1) :
    ∃ encoded, fs.mapM encode = .ok encoded ∧
      ∀ count ≤ encoded.flatten.length, ∀ chunks : Chunks, chunks.Flowing →
        chunks.flatten = encoded.flatten.take count →
        ∃ whole, UpTo fs encoded count (readAllFrom limit chunks) whole := by
  have short : ∀ f ∈ fs, ∃ bytes, f.encode = .ok bytes := by
    intro f hf
    have bound : f.body.length < Nat.pow 2 32 := Nat.lt_of_le_of_lt (fits f hf).2 (by decide)
    exact ⟨_, by rw [encode, if_pos bound]⟩
  obtain ⟨encoded, written⟩ := exists_mapM short
  refine ⟨encoded, written, fun count kept chunks flowing bytes => ?_⟩
  exact readAllFrom_upTo (mapM_eq_ok_iff.mp written) (fun f hf => (fits f hf).1) flowing kept bytes

/-- Two frames through a pipe of five bytes, cut within the body of the second. -/
theorem readAllFrom_cut_secondBody :
    let fs : List Frame := [⟨7, .call, [0x61]⟩, ⟨UInt64.ofNat (2 ^ 64 - 1), .reply, [0x62, 0x63]⟩]
    (∀ f ∈ fs, f.body.length ≤ 2 ∧ f.body.length ≤ 2 ^ 32 - 1) ∧
      ∃ encoded, fs.mapM encode = .ok encoded ∧ 28 ≤ encoded.flatten.length ∧
        (Chunks.ofBytes 4 (encoded.flatten.take 28)).Flowing ∧
        (Chunks.ofBytes 4 (encoded.flatten.take 28)).flatten = encoded.flatten.take 28 ∧
        ∃ whole, UpTo fs encoded 28
          (readAllFrom 2 (Chunks.ofBytes 4 (encoded.flatten.take 28))) whole := by
  intro fs
  have fits : ∀ f ∈ fs, f.body.length ≤ 2 ∧ f.body.length ≤ 2 ^ 32 - 1 := by decide
  obtain ⟨encoded, written, reads⟩ := readAllFrom_cut fits
  have bytes : encoded.flatten.length = 29 := by
    have same : fs.mapM encode = .ok [_, _] := rfl
    cases written.symm.trans same
    rfl
  have kept : 28 ≤ encoded.flatten.length := by rw [bytes]; decide
  have flowing := Chunks.flowing_ofBytes 4 (encoded.flatten.take 28)
  have flatten := Chunks.flatten_ofBytes 4 (encoded.flatten.take 28)
  exact ⟨fits, encoded, written, kept, flowing, flatten, reads 28 kept _ flowing flatten⟩

end Frame

end ApiGateway
