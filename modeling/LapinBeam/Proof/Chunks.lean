import LapinBeam.Lib.Chunking
import LapinBeam.Wire.Framing

/-!
# The same stream in other pieces

TCP decides which frames share a read. `decode` takes all complete frames off its buffer before it
returns, and when it comes to one that is malformed it returns the error alone: the frames taken off
in the same call are dropped. So what is delivered depends on where the stream was cut, unless there
is nothing in front of the malformed frame. The error itself, and the frame it is found at, do not.
-/

namespace LapinBeam

open StreamDecoder

namespace FrameDecoder

def extracted (bincode : Bincode) (debugAssertions : Bool) (decoder : FrameDecoder) (data : Bytes) :
    Nat :=
  let buffer := decoder.buf ++ data
  count (nextFrame bincode debugAssertions) (buffer.length + 1) buffer

structure Delivery where
  messages : List WireMessage
  ended : Option (Abort × Nat)
deriving DecidableEq

def feed (bincode : Bincode) (debugAssertions : Bool) : FrameDecoder → List Bytes → Delivery
  | _, [] => ⟨[], none⟩
  | decoder, chunk :: rest =>
      match decoder.decode bincode debugAssertions chunk with
      | (.error abort, _) =>
          ⟨[], some (abort, decoder.extracted bincode debugAssertions chunk)⟩
      | (.ok frames, later) =>
          let delivery := feed bincode debugAssertions later rest
          ⟨frames ++ delivery.messages,
            delivery.ended.map fun (abort, index) => (abort, frames.length + index)⟩

end FrameDecoder

section Stable

def readBody (bincode : Bincode) (debugAssertions : Bool) (body rest : Bytes) :
    Scan UInt8 WireMessage Abort :=
  match bincode.decodeFromSlice body with
  | .error e => .fault (.error (.decode e)) rest
  | .ok (msg, consumed) =>
      if debugAssertions ∧ consumed ≠ body.length then .fault (.assertion consumed body.length) rest
      else .item msg rest

theorem readBody_cases (bincode : Bincode) (debugAssertions : Bool) (body : Bytes) :
    (∃ msg, ∀ rest, readBody bincode debugAssertions body rest = .item msg rest) ∨
      ∃ abort, ∀ rest, readBody bincode debugAssertions body rest = .fault abort rest := by
  simp only [readBody]
  split
  · exact .inr ⟨_, fun _ => rfl⟩
  · split
    · exact .inr ⟨_, fun _ => rfl⟩
    · exact .inl ⟨_, fun _ => rfl⟩

def framed (body : Bytes) : Bytes := LittleEndian.encode 4 body.length ++ body

theorem framed_ne_nil (body : Bytes) : framed body ≠ [] := by
  simp [framed, LittleEndian.encode]

theorem nextFrame_framed {bincode : Bincode} {debugAssertions : Bool} {body : Bytes}
    (hle : body.length ≤ maxFrameSize) (rest : Bytes) :
    nextFrame bincode debugAssertions (framed body ++ rest) =
      readBody bincode debugAssertions body rest := by
  have hheader : (LittleEndian.encode 4 body.length).length = 4 := LittleEndian.length_encode 4 _
  have hbody : LittleEndian.decode (LittleEndian.encode 4 body.length) = body.length :=
    LittleEndian.decode_encode_of_lt (lt_of_le_maxFrameSize hle)
  have hlong : ¬ (LittleEndian.encode 4 body.length ++ (body ++ rest)).length < 4 := by simp
  have hwhole :
      ¬ (LittleEndian.encode 4 body.length ++ (body ++ rest)).length < 4 + body.length := by simp
  rw [framed, List.append_assoc]
  simp only [nextFrame, List.take_left' hheader, List.drop_left' hheader, hbody, if_neg hlong,
    if_neg (Nat.not_lt.mpr hle), if_neg hwhole, List.take_left, List.drop_left]
  rfl

/-- Part of a frame: its length is not there yet, or is within the limit and the body is not there yet. -/
def PartialFrame (buf : Bytes) : Prop :=
  buf.length < 4 ∨ LittleEndian.decode (buf.take 4) ≤ maxFrameSize ∧
    buf.length < 4 + LittleEndian.decode (buf.take 4)

theorem nextFrame_of_incomplete {bincode : Bincode} {debugAssertions : Bool} {buf : Bytes}
    (hpart : PartialFrame buf) : nextFrame bincode debugAssertions buf = .more := by
  rcases hpart with hheader | ⟨hlimit, hbody⟩
  · exact if_pos hheader
  · simp [nextFrame, hbody, Nat.not_lt.mpr hlimit]

def OversizedFrame (buf : Bytes) : Prop :=
  4 ≤ buf.length ∧ maxFrameSize < LittleEndian.decode (buf.take 4)

theorem nextFrame_of_oversized {bincode : Bincode} {debugAssertions : Bool} {buf : Bytes}
    (hoversized : OversizedFrame buf) : nextFrame bincode debugAssertions buf =
      .fault (.error (.tooLarge (LittleEndian.decode (buf.take 4)))) buf := by
  simp only [nextFrame, if_neg (Nat.not_lt.mpr hoversized.1), if_pos hoversized.2]

theorem OversizedFrame.take_append {buf : Bytes} (hoversized : OversizedFrame buf) (more : Bytes) :
    (buf ++ more).take 4 = buf.take 4 :=
  List.take_append_of_le_length hoversized.1

theorem OversizedFrame.append {buf : Bytes} (hoversized : OversizedFrame buf) (more : Bytes) :
    OversizedFrame (buf ++ more) := by
  refine ⟨?_, by rw [hoversized.take_append]; exact hoversized.2⟩
  have hlong := hoversized.1
  rw [List.length_append]
  omega

theorem frame_cases (buffer : Bytes) :
    PartialFrame buffer ∨ OversizedFrame buffer ∨
      ∃ body rest, buffer = framed body ++ rest ∧ body.length ≤ maxFrameSize := by
  by_cases hshort : buffer.length < 4
  · exact .inl (.inl hshort)
  by_cases hlarge : maxFrameSize < LittleEndian.decode (buffer.take 4)
  · exact .inr (.inl ⟨Nat.not_lt.mp hshort, hlarge⟩)
  by_cases hpart : buffer.length < 4 + LittleEndian.decode (buffer.take 4)
  · exact .inl (.inr ⟨Nat.not_lt.mp hlarge, hpart⟩)
  · have hheader : (buffer.take 4).length = 4 := List.length_take_of_le (by omega)
    have hlength : ((buffer.drop 4).take (LittleEndian.decode (buffer.take 4))).length =
        LittleEndian.decode (buffer.take 4) := by
      rw [List.length_take, List.length_drop]
      omega
    have hencode : LittleEndian.encode 4 (LittleEndian.decode (buffer.take 4)) = buffer.take 4 := by
      have hdecode := LittleEndian.encode_decode (buffer.take 4)
      rwa [hheader] at hdecode
    refine .inr (.inr ⟨(buffer.drop 4).take (LittleEndian.decode (buffer.take 4)),
      (buffer.drop 4).drop (LittleEndian.decode (buffer.take 4)), ?_, ?_⟩)
    · rw [framed, hlength, hencode, List.append_assoc, List.take_append_drop,
        List.take_append_drop]
    · rw [hlength]
      exact Nat.not_lt.mp hlarge

theorem stable_nextFrame (bincode : Bincode) (debugAssertions : Bool) :
    Stable (nextFrame bincode debugAssertions) where
  scan_nil := rfl
  scan_item := by
    intro buffer msg rest hscan
    rcases frame_cases buffer with hpart | hoversized | ⟨body, left, rfl, hle⟩
    · cases hscan.symm.trans (nextFrame_of_incomplete hpart)
    · cases hscan.symm.trans (nextFrame_of_oversized hoversized)
    · rw [nextFrame_framed hle] at hscan
      rcases readBody_cases bincode debugAssertions body with ⟨other, hitem⟩ | ⟨abort, hfault⟩
      · cases hscan.symm.trans (hitem left)
        exact ⟨framed body, framed_ne_nil body, rfl, fun more => by rw [nextFrame_framed hle, hitem]⟩
      · cases hscan.symm.trans (hfault left)
  scan_fault := by
    intro buffer abort rest hscan more
    rcases frame_cases buffer with hpart | hoversized | ⟨body, left, rfl, hle⟩
    · cases hscan.symm.trans (nextFrame_of_incomplete hpart)
    · cases hscan.symm.trans (nextFrame_of_oversized hoversized)
      refine ⟨buffer ++ more, ?_⟩
      rw [nextFrame_of_oversized (hoversized.append more), hoversized.take_append]
    · rw [nextFrame_framed hle] at hscan
      rcases readBody_cases bincode debugAssertions body with ⟨msg, hitem⟩ | ⟨other, hfault⟩
      · cases hscan.symm.trans (hitem left)
      · cases hscan.symm.trans (hfault left)
        exact ⟨rest ++ more, by rw [List.append_assoc, nextFrame_framed hle, hfault]⟩

end Stable

/-! ### Any chunks of one stream -/

namespace FrameDecoder

variable {bincode : Bincode} {debugAssertions : Bool} {decoder : FrameDecoder} {data : Bytes}
  {msgs : List WireMessage} {tail : Bytes} {fault : Option Abort}

theorem decode_of_splits (hsplits : Splits (nextFrame bincode debugAssertions)
      (decoder.buf ++ data) msgs tail fault) :
    decoder.decode bincode debugAssertions data = (fault.elim (.ok msgs) .error, ⟨tail⟩) := by
  simp only [decode, (stable_nextFrame bincode debugAssertions).drain_eq hsplits
    (Nat.lt_succ_self _), List.nil_append]

theorem extracted_of_splits
    (hsplits : Splits (nextFrame bincode debugAssertions) (decoder.buf ++ data) msgs tail fault) :
    decoder.extracted bincode debugAssertions data = msgs.length :=
  (stable_nextFrame bincode debugAssertions).count_eq hsplits (Nat.lt_succ_self _)

theorem feed_of_splits {chunks : List Bytes}
    (hidle : nextFrame bincode debugAssertions decoder.buf = .more)
    (hsplits : Splits (nextFrame bincode debugAssertions) (decoder.buf ++ chunks.flatten) msgs tail
      fault) :
    (decoder.feed bincode debugAssertions chunks).ended = fault.map (·, msgs.length) ∧
      (decoder.feed bincode debugAssertions chunks).messages <+: msgs ∧
      (fault = none → (decoder.feed bincode debugAssertions chunks).messages = msgs) := by
  have hstable := stable_nextFrame bincode debugAssertions
  induction chunks generalizing decoder msgs tail fault with
  | nil =>
      rw [List.flatten_nil, List.append_nil] at hsplits
      obtain ⟨rfl, rfl, rfl⟩ := hsplits.unique (.more hidle)
      exact ⟨rfl, List.prefix_rfl, fun _ => rfl⟩
  | cons chunk rest ih =>
      obtain ⟨first, left, found, hfirst⟩ := hstable.exists_splits (decoder.buf ++ chunk)
      rw [List.flatten_cons, ← List.append_assoc] at hsplits
      cases found with
      | some abort =>
          obtain ⟨left', hwhole⟩ := hstable.splits_fault hfirst rest.flatten
          obtain ⟨rfl, -, rfl⟩ := hsplits.unique hwhole
          simp only [feed, decode_of_splits hfirst, Option.elim, extracted_of_splits hfirst]
          exact ⟨rfl, List.nil_prefix, fun hnone => by cases hnone⟩
      | none =>
          obtain ⟨later, left', fault', hlater⟩ := hstable.exists_splits (left ++ rest.flatten)
          obtain ⟨rfl, rfl, rfl⟩ := hsplits.unique (hstable.splits_append hfirst hlater)
          have hleft : nextFrame bincode debugAssertions (FrameDecoder.mk left).buf = .more :=
            hfirst.scan_tail
          obtain ⟨hended, hpart, hall⟩ := ih hleft hlater
          simp only [feed, decode_of_splits hfirst, Option.elim]
          refine ⟨?_, (List.prefix_append_right_inj first).mpr hpart, fun hnone => ?_⟩
          · rw [hended, Option.map_map, List.length_append]
            rfl
          · rw [hall hnone]

end FrameDecoder

/-- All ways to cut the stream deliver the same messages, and end alike. -/
def ChunkingIrrelevant (bincode : Bincode) (debugAssertions : Bool) (stream : Bytes) : Prop :=
  ∀ chunks others : List Bytes, chunks.flatten = stream → others.flatten = stream →
    (FrameDecoder.new.feed bincode debugAssertions chunks).messages =
        (FrameDecoder.new.feed bincode debugAssertions others).messages ∧
      (FrameDecoder.new.feed bincode debugAssertions chunks).ended =
        (FrameDecoder.new.feed bincode debugAssertions others).ended

/-- It does not matter how a stream is cut if and only if no frame in front of a malformed one is valid: it has no malformed frame, or that is the first one. -/
theorem chunkingIrrelevant_iff (bincode : Bincode) (debugAssertions : Bool) (stream : Bytes) :
    ChunkingIrrelevant bincode debugAssertions stream ↔
      ∀ msgs tail abort, Splits (nextFrame bincode debugAssertions) stream msgs tail (some abort) →
        msgs = [] := by
  have hstable := stable_nextFrame bincode debugAssertions
  constructor
  · intro hirrelevant msgs tail abort hsplits
    cases hsplits with
    | fault => rfl
    | @item _ rest _ msg later _ hscan hrest =>
        -- One chunk, against one for the first frame and one for the rest.
        obtain ⟨used, -, rfl, hitem⟩ := hstable.scan_item hscan
        have hused : Splits (nextFrame bincode debugAssertions) (FrameDecoder.new.buf ++ used) [msg] []
            none := by
          have hfirst := hitem []
          rw [List.append_nil] at hfirst
          exact .item hfirst (.more hstable.scan_nil)
        have hwhole : Splits (nextFrame bincode debugAssertions)
            (FrameDecoder.new.buf ++ (used ++ rest)) (msg :: later) tail (some abort) :=
          .item hscan hrest
        have hsame := (hirrelevant [used, rest] [used ++ rest] (by simp) (by simp)).1
        simp only [FrameDecoder.feed, FrameDecoder.decode_of_splits hused,
          FrameDecoder.decode_of_splits hwhole, Option.elim] at hsame
        cases hsame
  · intro hfirst chunks others hchunks hothers
    obtain ⟨msgs, tail, fault, hsplits⟩ := hstable.exists_splits stream
    have hfeed : ∀ chunks : List Bytes, chunks.flatten = stream →
        (FrameDecoder.new.feed bincode debugAssertions chunks).messages = msgs ∧
          (FrameDecoder.new.feed bincode debugAssertions chunks).ended =
            fault.map (·, msgs.length) := by
      rintro chunks rfl
      have hidle : nextFrame bincode debugAssertions FrameDecoder.new.buf = .more :=
        hstable.scan_nil
      obtain ⟨hended, hpart, hall⟩ := FrameDecoder.feed_of_splits hidle hsplits
      refine ⟨?_, hended⟩
      cases fault with
      | none => exact hall rfl
      | some abort =>
          rw [hfirst msgs tail abort hsplits] at hpart ⊢
          exact List.prefix_nil.mp hpart
    rw [(hfeed chunks hchunks).1, (hfeed chunks hchunks).2, (hfeed others hothers).1,
      (hfeed others hothers).2]
    exact ⟨rfl, rfl⟩

/-- A heartbeat and an oversized frame: the heartbeat is delivered if they come in two reads, and dropped if they come in one. -/
theorem chunking_matters :
    FrameDecoder.new.feed .standard false
        [frameBytes .standard (.heartbeat 1 "a@h:1"), [255, 255, 255, 255]] =
      ⟨[.heartbeat 1 "a@h:1"], some (.error (.tooLarge 4294967295), 1)⟩ ∧
    FrameDecoder.new.feed .standard false
        [frameBytes .standard (.heartbeat 1 "a@h:1") ++ [255, 255, 255, 255]] =
      ⟨[], some (.error (.tooLarge 4294967295), 1)⟩ := by
  decide +kernel

end LapinBeam
