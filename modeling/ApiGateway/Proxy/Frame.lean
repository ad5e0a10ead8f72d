import ApiGateway.Text.Utf8

/-
Frames: messages as bytes.

A frame is an identifier of eight bytes, a byte for the kind, a length of four bytes and a body of
that length; numbers have their least byte first.

* `Frame.encode` - the bytes of a frame.
* `Frame.next` - what the bytes at hand say: a frame with the rest, a fault, or that more must come.
* `Frame.read` - the same where no more can come.
-/

namespace ApiGateway

inductive FrameKind where
  | call
  | reply
deriving DecidableEq, Repr

structure Frame where
  /-- Zero on an outgoing frame asks for a fresh identifier. -/
  id : UInt64
  kind : FrameKind
  body : Bytes
deriving DecidableEq, Repr

inductive FrameError where
  /-- The stream ended inside a frame. -/
  | truncated
  | unknownKind (byte : UInt8)
  | tooLarge (length limit : Nat)
deriving DecidableEq, Repr

namespace FrameError

def message : FrameError → String
  | .truncated => "stream ended inside a frame"
  | .unknownKind b => "unknown message kind " ++ toString b.toNat
  | .tooLarge length limit =>
    "frame body of " ++ toString length ++ " bytes exceeds limit of " ++ toString limit

end FrameError

namespace FrameKind

def code : FrameKind → UInt8
  | .call => 0
  | .reply => 1

def ofCode? (b : UInt8) : Option FrameKind :=
  if b = 0 then some .call else if b = 1 then some .reply else none

end FrameKind

namespace Frame

/-- A number as bytes, the least first. -/
def littleEndian : Nat → Nat → Bytes
  | 0, _ => []
  | width + 1, n => UInt8.ofNat n :: littleEndian width (n / 256)

/-- The number of bytes, the least first. -/
def ofLittleEndian : Bytes → Nat
  | [] => 0
  | b :: bs => b.toNat + 256 * ofLittleEndian bs

def headerLength : Nat := 13

/-- The bytes of a frame; a body must have a length of four bytes. -/
def encode (f : Frame) : Except FrameError Bytes :=
  if f.body.length < Nat.pow 2 32 then
    .ok (littleEndian 8 f.id.toNat ++ [f.kind.code] ++ littleEndian 4 f.body.length ++ f.body)
  else .error (.tooLarge f.body.length (Nat.pow 2 32 - 1))

/-- What the bytes at hand say. -/
inductive Progress where
  /-- A frame begins, or nothing: more bytes must come. -/
  | more
  | fault (error : FrameError)
  | frame (frame : Frame) (rest : Bytes)
deriving DecidableEq, Repr

/-- Looks for a frame at the front, of a body no longer than a limit. A fault shows in the header,
whatever follows it. -/
def next (limit : Nat) (bytes : Bytes) : Progress :=
  match bytes.drop 8 with
  | kind :: a :: b :: c :: d :: rest =>
    match FrameKind.ofCode? kind with
    | none => .fault (.unknownKind kind)
    | some kind =>
      let length := ofLittleEndian [a, b, c, d]
      if limit < length then .fault (.tooLarge length limit)
      else if rest.length < length then .more
      else .frame ⟨UInt64.ofNat (ofLittleEndian (bytes.take 8)), kind, rest.take length⟩
        (rest.drop length)
  | _ => .more

/-- Reads a frame where the bytes end the stream; none when there are none. -/
def read (limit : Nat) (bytes : Bytes) : Except FrameError (Option (Frame × Bytes)) :=
  match next limit bytes with
  | .frame f rest => .ok (some (f, rest))
  | .fault e => .error e
  | .more => if bytes.isEmpty then .ok none else .error .truncated

end Frame

end ApiGateway
