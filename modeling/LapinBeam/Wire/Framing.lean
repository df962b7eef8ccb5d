import LapinBeam.Lib.StreamDecoder
import LapinBeam.Wire.Bincode

/-!
# Length-prefixed framing

A frame is the length of the body as four little-endian bytes, then the body. `FrameDecoder` is the
buffering decoder of the read loop: it appends what was read and takes complete frames off the
front.
-/

namespace LapinBeam

open StreamDecoder

/-- A length prefix followed by the encoded message. The length is cast to `u32`, so it wraps. -/
def encodeFrame (bincode : Bincode) (msg : WireMessage) : Except CodecError Bytes :=
  match bincode.encodeToVec msg with
  | .error e => .error e
  | .ok body => .ok (LittleEndian.encode 4 (body.length % 2 ^ 32) ++ body)

inductive FrameError
  | tooLarge (len : Nat)
  | decode (error : CodecError)
deriving DecidableEq, Repr

/-- How `decode` can end other than by returning messages: with an error, or, in a build with debug assertions, with a panic when the codec did not consume the whole body. -/
inductive Abort
  | error (error : FrameError)
  | assertion (consumed len : Nat)
deriving DecidableEq, Repr

structure FrameDecoder where
  buf : Bytes
deriving DecidableEq

/-- One turn of the loop of `FrameDecoder.decode`. -/
def nextFrame (bincode : Bincode) (debugAssertions : Bool) (buf : Bytes) :
    Scan UInt8 WireMessage Abort :=
  if buf.length < 4 then .more
  else
    let len := LittleEndian.decode (buf.take 4)
    if maxFrameSize < len then .fault (.error (.tooLarge len)) buf
    else if buf.length < 4 + len then .more
    else
      let body := (buf.drop 4).take len
      let rest := (buf.drop 4).drop len
      match bincode.decodeFromSlice body with
      | .error e => .fault (.error (.decode e)) rest
      | .ok (msg, consumed) =>
          if debugAssertions ∧ consumed ≠ len then .fault (.assertion consumed len) rest
          else .item msg rest

namespace FrameDecoder

def new : FrameDecoder := ⟨[]⟩

/-- Feeds the buffer with raw bytes and extracts as many complete frames as possible. -/
def decode (bincode : Bincode) (debugAssertions : Bool) (decoder : FrameDecoder) (data : Bytes) :
    Except Abort (List WireMessage) × FrameDecoder :=
  let buffer := decoder.buf ++ data
  let (result, buf) := drain (nextFrame bincode debugAssertions) (buffer.length + 1) buffer []
  (result, ⟨buf⟩)

end FrameDecoder

/-- The bytes the writer puts on the socket for a message: its frame, or nothing if it does not encode. -/
def frameBytes (bincode : Bincode) (msg : WireMessage) : Bytes :=
  match encodeFrame bincode msg with
  | .ok frame => frame
  | .error _ => []

/-- The body of the message is within the limit the decoder enforces. -/
def FitsFrame (bincode : Bincode) (msg : WireMessage) : Prop :=
  ∃ body, bincode.encodeToVec msg = .ok body ∧ body.length ≤ maxFrameSize

section Frames

variable {bincode : Bincode} {msg : WireMessage} {body : Bytes}

theorem encodeFrame_of_encode (hbody : bincode.encodeToVec msg = .ok body) :
    encodeFrame bincode msg = .ok (LittleEndian.encode 4 (body.length % 2 ^ 32) ++ body) := by
  simp only [encodeFrame, hbody]

theorem frameBytes_of_encode (hbody : bincode.encodeToVec msg = .ok body) :
    frameBytes bincode msg = LittleEndian.encode 4 (body.length % 2 ^ 32) ++ body := by
  simp only [frameBytes, encodeFrame_of_encode hbody]

theorem lt_of_le_maxFrameSize {n : Nat} (hle : n ≤ maxFrameSize) : n < 2 ^ 32 :=
  Nat.lt_of_le_of_lt hle (by decide)

theorem decode_header {n : Nat} (hlt : n < 2 ^ 32) (rest : Bytes) :
    LittleEndian.decode ((LittleEndian.encode 4 (n % 2 ^ 32) ++ rest).take 4) = n := by
  rw [List.take_left' (LittleEndian.length_encode 4 _), Nat.mod_eq_of_lt hlt]
  exact LittleEndian.decode_encode_of_lt hlt

theorem framing_nextFrame (hlawful : bincode.Lawful) (debugAssertions : Bool) :
    Framing (nextFrame bincode debugAssertions) (frameBytes bincode) (FitsFrame bincode) where
  scan_nil := rfl
  frame_pos := by
    rintro msg ⟨body, hbody, -⟩
    rw [frameBytes_of_encode hbody]
    simp
  scan_frame := by
    rintro msg rest ⟨body, hbody, hle⟩
    have hlt := lt_of_le_maxFrameSize hle
    rw [frameBytes_of_encode hbody, List.append_assoc]
    have hdrop : (LittleEndian.encode 4 (body.length % 2 ^ 32) ++ (body ++ rest)).drop 4 =
        body ++ rest := List.drop_left' (LittleEndian.length_encode 4 _)
    have hdecode : bincode.decodeFromSlice body = .ok (msg, body.length) :=
      hlawful.decode_encode msg body hbody (by omega)
    unfold nextFrame
    rw [decode_header hlt, if_neg (by simp), if_neg (by omega), if_neg (by simp), hdrop]
    simp only [List.take_left, List.drop_left, hdecode, ne_eq, not_true_eq_false, and_false,
      ↓reduceIte]
  scan_partial := by
    rintro msg part ⟨body, hbody, hle⟩ hbytes hshort
    have hlt := lt_of_le_maxFrameSize hle
    rw [frameBytes_of_encode hbody] at hbytes hshort
    unfold nextFrame
    by_cases hheader : part.length < 4
    · rw [if_pos hheader]
    · -- the prefix is complete and the body is not
      have htake : part.take 4 =
          (LittleEndian.encode 4 (body.length % 2 ^ 32) ++ body).take 4 := by
        obtain ⟨rest, heq⟩ := hbytes
        rw [← heq, List.take_append_of_le_length (by omega)]
      have hincomplete : part.length < 4 + body.length := by
        rwa [List.length_append, LittleEndian.length_encode] at hshort
      rw [if_neg hheader, htake, decode_header hlt, if_neg (by omega), if_pos hincomplete]

end Frames

end LapinBeam
