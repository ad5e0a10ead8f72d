import ApiGateway.Proxy.Frame

/-
Frames from a stream that comes in chunks.

A reader that asks a stream for bytes gets some of them, and none only when the stream has ended.

* `Chunks.ofBytes` - a byte string as it comes through a pipe.
* `Chunks.fill` - reads until as many bytes are there as are wanted, or until the stream ends.
* `Frame.readFrom` - reads a frame: its header, then a body of the length that the header says.
* `Frame.readAllFrom` - frames up to the end of the stream or up to a fault.
-/

namespace ApiGateway

/-- What a stream still gives, as it comes. An empty chunk is the end. -/
abbrev Chunks := List Bytes

namespace Chunks

/-- The pieces of a byte string, each but the last of the given length plus one. The fuel is at
least the length of the string. -/
def pieces (length : Nat) : Nat → Bytes → Chunks
  | 0, _ => []
  | fuel + 1, bytes =>
    if bytes.isEmpty then []
    else bytes.take (length + 1) :: pieces length fuel (bytes.drop (length + 1))

/-- A byte string through a pipe that holds the given number of bytes plus one. -/
def ofBytes (length : Nat) (bytes : Bytes) : Chunks := pieces length bytes.length bytes

/-- Reads until as many bytes are there as are wanted, and leaves what comes after them. No more is
taken from a chunk than is still wanted. -/
def fill : Nat → Chunks → Bytes × Chunks
  | _, [] => ([], [])
  | wanted, chunk :: chunks =>
    if chunk.isEmpty then ([], chunk :: chunks)
    else if wanted < chunk.length then (chunk.take wanted, chunk.drop wanted :: chunks)
    else
      let (more, chunks) := fill (wanted - chunk.length) chunks
      (chunk ++ more, chunks)

end Chunks

namespace Frame

/-- Reads a frame; none where the stream ends before it. -/
def readFrom (limit : Nat) (chunks : Chunks) : Except FrameError (Option Frame) × Chunks :=
  let (header, chunks) := Chunks.fill headerLength chunks
  match header.drop 8 with
  | [kind, a, b, c, d] =>
    match FrameKind.ofCode? kind with
    | none => (.error (.unknownKind kind), chunks)
    | some kind =>
      let length := ofLittleEndian [a, b, c, d]
      if limit < length then (.error (.tooLarge length limit), chunks)
      else
        let (body, chunks) := Chunks.fill length chunks
        if body.length < length then (.error .truncated, chunks)
        else (.ok (some ⟨UInt64.ofNat (ofLittleEndian (header.take 8)), kind, body⟩), chunks)
  | _ => (if header.isEmpty then .ok none else .error .truncated, chunks)

/-- Reads frames, and the fault that ends them, if one does. The fuel exceeds the number of
frames. -/
def readFrames (limit : Nat) : Nat → Chunks → List Frame × Option FrameError
  | 0, _ => ([], none)
  | fuel + 1, chunks =>
    match readFrom limit chunks with
    | (.ok (some f), chunks) =>
      let (fs, fault) := readFrames limit fuel chunks
      (f :: fs, fault)
    | (.ok none, _) => ([], none)
    | (.error e, _) => ([], some e)

/-- All frames of a stream, and the fault that ends it, if one does. Each frame takes a byte at
least. -/
def readAllFrom (limit : Nat) (chunks : Chunks) : List Frame × Option FrameError :=
  readFrames limit (chunks.flatten.length + 1) chunks

end Frame

end ApiGateway
