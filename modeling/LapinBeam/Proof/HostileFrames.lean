import LapinBeam.Proof.Chunks

/-!
# Frames of a hostile peer

The length in front of a frame is the peer's word. What `decode` keeps between two reads is a part
of one frame, whatever lengths were declared, so its buffer is bounded. It does not hold the peer to
the length of the message: a message followed by further bytes in the same frame trips the
assertion in a debug build, and is accepted in a release build.
-/

namespace LapinBeam

open StreamDecoder

section Residual

theorem PartialFrame.length_lt {buf : Bytes} (hpart : PartialFrame buf) :
    buf.length < maxFrameSize + 4 := by
  rcases hpart with hheader | ⟨hlimit, hbody⟩ <;> omega

theorem partialFrame_of_more {bincode : Bincode} {debugAssertions : Bool} {buf : Bytes}
    (hmore : nextFrame bincode debugAssertions buf = .more) : PartialFrame buf := by
  rcases frame_cases buf with hpart | hoversized | ⟨body, rest, rfl, hle⟩
  · exact hpart
  · cases hmore.symm.trans (nextFrame_of_oversized hoversized)
  · rw [nextFrame_framed hle] at hmore
    rcases readBody_cases bincode debugAssertions body with ⟨msg, hitem⟩ | ⟨abort, hfault⟩
    · cases hmore.symm.trans (hitem rest)
    · cases hmore.symm.trans (hfault rest)

namespace FrameDecoder

def fed (bincode : Bincode) (debugAssertions : Bool) (chunks : List Bytes) : FrameDecoder :=
  chunks.foldl (fun decoder chunk => (decoder.decode bincode debugAssertions chunk).2) new

theorem partialFrame_of_decode {bincode : Bincode} {debugAssertions : Bool}
    {decoder later : FrameDecoder} {data : Bytes} {msgs : List WireMessage}
    (hdecode : decoder.decode bincode debugAssertions data = (.ok msgs, later)) :
    PartialFrame later.buf := by
  obtain ⟨found, tail, fault, hsplits⟩ :=
    (stable_nextFrame bincode debugAssertions).exists_splits (decoder.buf ++ data)
  rw [decode_of_splits hsplits] at hdecode
  cases fault with
  | some abort => cases (Prod.mk.inj hdecode).1
  | none =>
      obtain rfl := (Prod.mk.inj hdecode).2
      exact partialFrame_of_more hsplits.scan_tail

/-- **The memory of the decoder is bounded**: after every call that returns `Ok` the buffer holds part of a single frame, and less than `maxFrameSize + 4` bytes. -/
theorem residual_buffer_bounded {bincode : Bincode} {debugAssertions : Bool} {chunks : List Bytes}
    {chunk : Bytes} {msgs : List WireMessage} {later : FrameDecoder}
    (hdecode : (fed bincode debugAssertions chunks).decode bincode debugAssertions chunk =
      (.ok msgs, later)) :
    PartialFrame later.buf ∧ later.buf.length < maxFrameSize + 4 :=
  ⟨partialFrame_of_decode hdecode, (partialFrame_of_decode hdecode).length_lt⟩

theorem residual_buffer_bounded_split :
    (fed .standard true [[5, 0]]).decode .standard true [0, 0, 1] = (.ok [], ⟨[5, 0, 0, 0, 1]⟩) ∧
    PartialFrame [5, 0, 0, 0, 1] := by
  have hdecode : (fed .standard true [[5, 0]]).decode .standard true [0, 0, 1] =
      (.ok [], ⟨[5, 0, 0, 0, 1]⟩) := by decide +kernel
  exact ⟨hdecode, (residual_buffer_bounded hdecode).1⟩

end FrameDecoder

end Residual

/-! ### Bytes behind a message -/

def Padded (bincode : Bincode) (body : Bytes) : Prop :=
  ∃ n msg, n < body.length ∧ bincode.decodeFromSlice (body.take n) = .ok (msg, n)

def Whole (bincode : Bincode) (body : Bytes) : Prop :=
  ∃ msg, bincode.decodeFromSlice body = .ok (msg, body.length)

/-- No frame of a stream that follows whole ones only has a body with bytes behind a message. -/
def Unpadded (bincode : Bincode) (stream : Bytes) : Prop :=
  ∀ (bodies : List Bytes) (body rest : Bytes), stream = bodies.flatMap framed ++ (framed body ++ rest) →
    (∀ earlier ∈ bodies, earlier.length ≤ maxFrameSize ∧ Whole bincode earlier) →
    body.length ≤ maxFrameSize → ¬ Padded bincode body

namespace Bincode.Streaming

variable {bincode : Bincode} {body : Bytes} (hstreaming : bincode.Streaming)

include hstreaming

theorem padded_iff : Padded bincode body ↔
    ∃ msg consumed, bincode.decodeFromSlice body = .ok (msg, consumed) ∧ consumed ≠ body.length := by
  constructor
  · rintro ⟨n, msg, hlt, hdecode⟩
    have hlength : (body.take n).length = n := List.length_take_of_le hlt.le
    have hwhole := hstreaming.decode_append (by rwa [hlength]) (body.drop n)
    rw [List.take_append_drop, hlength] at hwhole
    exact ⟨msg, n, hwhole, hlt.ne⟩
  · rintro ⟨msg, consumed, hdecode, hne⟩
    obtain ⟨hle, htake⟩ := hstreaming.decode_take hdecode
    exact ⟨consumed, msg, by omega, htake⟩

end Bincode.Streaming

section Frames

variable {bincode : Bincode} {debugAssertions : Bool} {stream more body : Bytes}

theorem readBody_of_whole (hwhole : Whole bincode body) :
    ∃ msg, ∀ rest, readBody bincode debugAssertions body rest = .item msg rest := by
  obtain ⟨msg, hdecode⟩ := hwhole
  exact ⟨msg, fun rest => by simp [readBody, hdecode]⟩

theorem nextFrame_ne_assertion {consumed len : Nat} {rest : Bytes} :
    nextFrame bincode false stream ≠ .fault (.assertion consumed len) rest := by
  intro hfault
  rcases frame_cases stream with hpart | hoversized | ⟨body, left, rfl, hle⟩
  · cases hfault.symm.trans (nextFrame_of_incomplete hpart)
  · cases hfault.symm.trans (nextFrame_of_oversized hoversized)
  · rw [nextFrame_framed hle, readBody] at hfault
    split at hfault
    · cases hfault
    · simp at hfault

theorem Unpadded.not_padded (hunpadded : Unpadded bincode (framed body ++ more))
    (hle : body.length ≤ maxFrameSize) : ¬ Padded bincode body :=
  hunpadded [] body more rfl (by simp) hle

theorem Unpadded.behind (hunpadded : Unpadded bincode (framed body ++ more))
    (hle : body.length ≤ maxFrameSize) (hwhole : Whole bincode body) : Unpadded bincode more := by
  intro bodies later rest hmore hearlier
  refine hunpadded (body :: bodies) later rest (by simp [hmore]) fun earlier hmem => ?_
  rcases List.mem_cons.mp hmem with rfl | hmem
  · exact ⟨hle, hwhole⟩
  · exact hearlier earlier hmem

theorem Bincode.Streaming.readBody_cases (hstreaming : bincode.Streaming)
    (hpadded : ¬ Padded bincode body) :
    (Whole bincode body ∧ ∃ msg, ∀ debugAssertions rest,
      readBody bincode debugAssertions body rest = .item msg rest) ∨
    ∃ e, ∀ debugAssertions rest,
      readBody bincode debugAssertions body rest = .fault (.error (.decode e)) rest := by
  cases hdecode : bincode.decodeFromSlice body with
  | error e => exact .inr ⟨e, fun _ _ => by simp [readBody, hdecode]⟩
  | ok out =>
      obtain ⟨msg, consumed⟩ := out
      obtain rfl : consumed = body.length := by
        by_contra hne
        exact hpadded (hstreaming.padded_iff.mpr ⟨msg, consumed, hdecode, hne⟩)
      exact .inl ⟨⟨msg, hdecode⟩, msg, fun _ _ => by simp [readBody, hdecode]⟩

end Frames

section Builds

variable {bincode : Bincode} {stream more tail : Bytes} {msgs : List WireMessage}
  {fault : Option Abort} (hstreaming : bincode.Streaming)

include hstreaming

theorem Unpadded.nextFrame_eq (hunpadded : Unpadded bincode (stream ++ more)) :
    nextFrame bincode false stream = nextFrame bincode true stream ∧
      ∀ msg rest, nextFrame bincode true stream = .item msg rest →
        Unpadded bincode (rest ++ more) := by
  rcases frame_cases stream with hpart | hoversized | ⟨body, left, rfl, hle⟩
  · simp [nextFrame_of_incomplete hpart]
  · simp [nextFrame_of_oversized hoversized]
  · rw [List.append_assoc] at hunpadded
    rw [nextFrame_framed hle, nextFrame_framed hle]
    rcases hstreaming.readBody_cases (hunpadded.not_padded hle) with
      ⟨hwhole, msg, hitem⟩ | ⟨e, herror⟩
    · refine ⟨by rw [hitem, hitem], fun other rest hscan => ?_⟩
      cases hscan.symm.trans (hitem true left)
      exact hunpadded.behind hle hwhole
    · refine ⟨by rw [herror, herror], fun other rest hscan => ?_⟩
      cases hscan.symm.trans (herror true left)

theorem Unpadded.splits (hunpadded : Unpadded bincode (stream ++ more))
    (hsplits : Splits (nextFrame bincode true) stream msgs tail fault) :
    Splits (nextFrame bincode false) stream msgs tail fault ∧
      (fault = none → Unpadded bincode (tail ++ more)) := by
  induction hsplits with
  | more hscan =>
      exact ⟨.more ((hunpadded.nextFrame_eq hstreaming).1.trans hscan), fun _ => hunpadded⟩
  | fault hscan =>
      refine ⟨.fault ((hunpadded.nextFrame_eq hstreaming).1.trans hscan), fun hnone => ?_⟩
      cases hnone
  | item hscan _ ih =>
      obtain ⟨hsame, hbehind⟩ := hunpadded.nextFrame_eq hstreaming
      obtain ⟨hrest, htail⟩ := ih (hbehind _ _ hscan)
      exact ⟨.item (hsame.trans hscan) hrest, htail⟩

theorem splits_padded {bodies : List Bytes} {body : Bytes}
    (hearlier : ∀ earlier ∈ bodies, earlier.length ≤ maxFrameSize ∧ Whole bincode earlier)
    (hle : body.length ≤ maxFrameSize) (hpadded : Padded bincode body) (rest : Bytes) :
    ∃ msgs consumed, Splits (nextFrame bincode true)
      (bodies.flatMap framed ++ (framed body ++ rest)) msgs rest
      (some (.assertion consumed body.length)) := by
  induction bodies with
  | nil =>
      obtain ⟨msg, consumed, hdecode, hne⟩ := hstreaming.padded_iff.mp hpadded
      refine ⟨[], consumed, .fault ?_⟩
      rw [List.flatMap_nil, List.nil_append, nextFrame_framed hle]
      simp [readBody, hdecode, hne]
  | cons first bodies ih =>
      obtain ⟨hfirst, hwhole⟩ := hearlier first List.mem_cons_self
      obtain ⟨msgs, consumed, hrest⟩ := ih fun earlier hmem =>
        hearlier earlier (List.mem_cons_of_mem _ hmem)
      obtain ⟨msg, hitem⟩ := readBody_of_whole hwhole
      refine ⟨msg :: msgs, consumed, .item ?_ hrest⟩
      rw [List.flatMap_cons, List.append_assoc, nextFrame_framed hfirst, hitem]

end Builds

theorem fault_ne_assertion {bincode : Bincode} {stream tail : Bytes} {msgs : List WireMessage}
    {fault : Option Abort} (hsplits : Splits (nextFrame bincode false) stream msgs tail fault)
    (consumed len : Nat) : fault ≠ some (.assertion consumed len) := by
  induction hsplits with
  | more => simp
  | fault hscan =>
      rintro hfault
      obtain rfl := Option.some.inj hfault
      exact nextFrame_ne_assertion hscan
  | item _ _ ih => exact ih

namespace FrameDecoder

variable {bincode : Bincode}

theorem feed_eq_of_unpadded (hstreaming : bincode.Streaming) {chunks : List Bytes}
    {decoder : FrameDecoder} (hunpadded : Unpadded bincode (decoder.buf ++ chunks.flatten)) :
    decoder.feed bincode false chunks = decoder.feed bincode true chunks := by
  induction chunks generalizing decoder with
  | nil => rfl
  | cons chunk rest ih =>
      rw [List.flatten_cons, ← List.append_assoc] at hunpadded
      obtain ⟨msgs, tail, fault, hdebug⟩ :=
        (stable_nextFrame bincode true).exists_splits (decoder.buf ++ chunk)
      obtain ⟨hrelease, htail⟩ := hunpadded.splits hstreaming hdebug
      cases fault with
      | some abort =>
          simp only [feed, decode_of_splits hdebug, decode_of_splits hrelease, Option.elim,
            extracted_of_splits hdebug, extracted_of_splits hrelease]
      | none =>
          have hlater : feed bincode false ⟨tail⟩ rest = feed bincode true ⟨tail⟩ rest :=
            ih (htail rfl)
          simp only [feed, decode_of_splits hdebug, decode_of_splits hrelease, Option.elim, hlater]

theorem ended_release_ne (chunks : List Bytes) (consumed len index : Nat) :
    (new.feed bincode false chunks).ended ≠ some (.assertion consumed len, index) := by
  obtain ⟨msgs, tail, fault, hsplits⟩ :=
    (stable_nextFrame bincode false).exists_splits chunks.flatten
  have hidle : nextFrame bincode false new.buf = .more := (stable_nextFrame bincode false).scan_nil
  rw [(feed_of_splits hidle hsplits).1]
  cases fault with
  | none => simp
  | some abort =>
      have hne := fault_ne_assertion hsplits consumed len
      simp_all

/-- **The assertion holds, and the builds agree, exactly for streams without padding**: those in which no frame behind whole messages has bytes behind its own. -/
theorem assertion_valid_iff (hstreaming : bincode.Streaming) (chunks : List Bytes) :
    ((∀ consumed len index,
        (new.feed bincode true chunks).ended ≠ some (.assertion consumed len, index)) ↔
      Unpadded bincode chunks.flatten) ∧
    (new.feed bincode false chunks = new.feed bincode true chunks ↔
      Unpadded bincode chunks.flatten) := by
  have hpadded : (∀ consumed len index,
      (new.feed bincode true chunks).ended ≠ some (.assertion consumed len, index)) →
      Unpadded bincode chunks.flatten := by
    intro hvalid bodies body rest hstream hearlier hle hpadded
    obtain ⟨msgs, consumed, hsplits⟩ := splits_padded hstreaming hearlier hle hpadded rest
    rw [← hstream] at hsplits
    have hidle : nextFrame bincode true new.buf = .more := (stable_nextFrame bincode true).scan_nil
    exact hvalid consumed body.length msgs.length (feed_of_splits hidle hsplits).1
  have hagree : Unpadded bincode chunks.flatten →
      new.feed bincode false chunks = new.feed bincode true chunks :=
    fun hunpadded => feed_eq_of_unpadded hstreaming hunpadded
  refine ⟨⟨hpadded, fun hunpadded => ?_⟩, ⟨fun hsame => hpadded ?_, hagree⟩⟩
  · rw [← hagree hunpadded]
    exact ended_release_ne chunks
  · rw [← hsame]
    exact ended_release_ne chunks

theorem assertion_valid_iff_heartbeat :
    Unpadded .standard (frameBytes .standard (.heartbeat 1 "a@h:1")) := by
  have hended : (new.feed .standard true [frameBytes .standard (.heartbeat 1 "a@h:1")]).ended =
      none := by decide +kernel
  have hvalid := (assertion_valid_iff Bincode.standard_streaming
    [frameBytes .standard (.heartbeat 1 "a@h:1")]).1.mp (by rw [hended]; simp)
  rwa [List.flatten_singleton] at hvalid

/-- A heartbeat with one more byte in its frame: a debug build panics, and a release build delivers the heartbeat. -/
theorem padded_frame_not_rejected :
    let body := Bincode.writeMessage (.heartbeat 1 "a@h:1") ++ [0]
    new.feed .standard true [framed body] = ⟨[], some (.assertion (body.length - 1) body.length, 0)⟩ ∧
    new.feed .standard false [framed body] = ⟨[.heartbeat 1 "a@h:1"], none⟩ := by
  decide +kernel

end FrameDecoder

end LapinBeam
