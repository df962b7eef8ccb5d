import LapinBeam.Transport.State
import LapinBeam.Wire.Framing

/-!
# The sender's limit and the receiver's

`send_data_bytes` bounds the payload by `maxFrameSize`; the decoder of the peer bounds the whole
body, payload and headers together. The peer accepts what passes the sender's check exactly when
the headers still fit, which the check does not ask.
-/

namespace LapinBeam

open StreamDecoder

/-- The frame of `msg` announces the length of its body, and a fresh decoder reads the message back from it. -/
def FrameAccepted (bincode : Bincode) (debugAssertions : Bool) (msg : WireMessage) : Prop :=
  ∃ body frame, bincode.encodeToVec msg = .ok body ∧ encodeFrame bincode msg = .ok frame ∧
    LittleEndian.decode (frame.take 4) = body.length ∧
    (FrameDecoder.new.decode bincode debugAssertions frame).1 = .ok [msg]

section Decode

variable {bincode : Bincode} {msg : WireMessage} {body frame : Bytes}

theorem decode_of_tooLarge (debugAssertions : Bool) (hbytes : 4 ≤ frame.length)
    (hlarge : maxFrameSize < LittleEndian.decode (frame.take 4)) :
    (FrameDecoder.new.decode bincode debugAssertions frame).1 =
      .error (.error (.tooLarge (LittleEndian.decode (frame.take 4)))) := by
  have hscan : nextFrame bincode debugAssertions frame =
      .fault (.error (.tooLarge (LittleEndian.decode (frame.take 4)))) frame := by
    rw [nextFrame, if_neg (by omega), if_pos hlarge]
  simp only [FrameDecoder.decode, FrameDecoder.new, List.nil_append, drain, hscan]

theorem decode_of_fits (hlawful : bincode.Lawful) (debugAssertions : Bool)
    (hfits : FitsFrame bincode msg) :
    (FrameDecoder.new.decode bincode debugAssertions (frameBytes bincode msg)).1 = .ok [msg] := by
  have hframing := framing_nextFrame hlawful debugAssertions
  have hscan := hframing.scan_frame msg [] hfits
  have hpos := hframing.frame_pos msg hfits
  rw [List.append_nil] at hscan
  obtain ⟨fuel, hfuel⟩ : ∃ fuel, (frameBytes bincode msg).length = fuel + 1 :=
    ⟨_, (Nat.sub_add_cancel hpos).symm⟩
  simp only [FrameDecoder.decode, FrameDecoder.new, List.nil_append, hfuel, drain, hscan,
    hframing.scan_nil]

theorem frameAccepted_iff (hlawful : bincode.Lawful) (debugAssertions : Bool)
    (hbody : bincode.encodeToVec msg = .ok body) :
    FrameAccepted bincode debugAssertions msg ↔ body.length ≤ maxFrameSize := by
  constructor
  · rintro ⟨body', frame, hbody', hframe, hheader, hdecode⟩
    obtain rfl : body = body' := Except.ok.inj (hbody.symm.trans hbody')
    obtain rfl : _ = frame := Except.ok.inj ((encodeFrame_of_encode hbody).symm.trans hframe)
    by_contra hlarge
    rw [decode_of_tooLarge debugAssertions (by simp) (by omega)] at hdecode
    cases hdecode
  · intro hle
    refine ⟨body, frameBytes bincode msg, hbody, ?_, ?_,
      decode_of_fits hlawful debugAssertions ⟨body, hbody, hle⟩⟩
    · rw [encodeFrame_of_encode hbody, frameBytes_of_encode hbody]
    · rw [frameBytes_of_encode hbody]
      exact decode_header (lt_of_le_maxFrameSize hle) body

end Decode

namespace Transport

theorem checkData_eq_ok {transport : Transport} {dstActor : String} {payload : Bytes}
    {replyTo : Option String} {correlationId : Option UInt64} {msg : WireMessage} :
    transport.checkData dstActor payload replyTo correlationId = .ok msg ↔
      payload.length ≤ maxFrameSize ∧
        transport.dataMessage dstActor payload replyTo correlationId = msg := by
  rw [checkData]
  split
  · exact ⟨nofun, fun h => absurd h.1 (Nat.not_le_of_lt ‹_›)⟩
  · exact ⟨fun h => ⟨Nat.le_of_not_lt ‹_›, Except.ok.inj h⟩, fun h => congrArg Except.ok h.2⟩

/-- Of the sends that pass the sender's check, the peer's decoder accepts exactly those whose whole body, headers included, is within the limit. -/
theorem accepted_send_fits_frame {bincode : Bincode} (hlawful : bincode.Lawful)
    (hsized : bincode.Sized) (debugAssertions : Bool) (transport : Transport) {dstActor : String}
    {payload : Bytes} {replyTo : Option String} {correlationId : Option UInt64} {msg : WireMessage}
    (hcheck : transport.checkData dstActor payload replyTo correlationId = .ok msg) :
    FrameAccepted bincode debugAssertions msg ↔
      wireSize (transport.dataMessage dstActor payload replyTo correlationId) ≤ maxFrameSize := by
  obtain ⟨-, rfl⟩ := checkData_eq_ok.mp hcheck
  obtain ⟨body, hbody⟩ := hlawful.encode_ok
    (transport.dataMessage dstActor payload replyTo correlationId)
  rw [frameAccepted_iff hlawful debugAssertions hbody, hsized.length_encode _ body hbody]

def fresh : Transport := listen ⟨"n", "h", 1⟩ {} fun _ => { capacity := 256 }

theorem accepted_send_fits_frame_small :
    FrameAccepted .standard true (fresh.dataMessage "x" [49] none none) :=
  (accepted_send_fits_frame Bincode.standard_lawful Bincode.standard_sized true fresh
    (checkData_eq_ok.mpr ⟨by decide, rfl⟩)).mpr (by decide +kernel)

def fullPayload : Bytes := 34 :: List.replicate (maxFrameSize - 2) 97 ++ [34]

theorem length_fullPayload : fullPayload.length = maxFrameSize := by
  have hmax : 2 ≤ maxFrameSize := by decide
  rw [fullPayload, List.length_append, List.length_cons, List.length_replicate,
    List.length_singleton]
  omega

theorem wireSize_fullPayload {payload : Bytes} (hlen : payload.length = maxFrameSize) :
    wireSize (fresh.dataMessage "x" payload none none) = maxFrameSize + 18 := by
  simp only [wireSize, dataMessage, hlen]
  decide +kernel

theorem tooLarge_of_length_eq {payload : Bytes} (hlen : payload.length = maxFrameSize) :
    ∃ msg frame, fresh.checkData "x" payload none none = .ok msg ∧
      encodeFrame .standard msg = .ok frame ∧
      ∃ len, (FrameDecoder.new.decode .standard true frame).1 = .error (.error (.tooLarge len)) := by
  have hdecode : LittleEndian.decode ((LittleEndian.encode 4
      ((Bincode.writeMessage (fresh.dataMessage "x" payload none none)).length % 2 ^ 32) ++
        Bincode.writeMessage (fresh.dataMessage "x" payload none none)).take 4) =
      maxFrameSize + 18 := by
    rw [Bincode.length_writeMessage, wireSize_fullPayload hlen]
    exact decode_header (by decide) _
  refine ⟨_, _, checkData_eq_ok.mpr ⟨Nat.le_of_eq hlen, rfl⟩,
    encodeFrame_of_encode rfl, _, decode_of_tooLarge true (by simp) ?_⟩
  rw [hdecode]
  omega

/-- The send of `fullPayload` is accepted, and the peer's decoder drops the connection over its frame. -/
theorem full_payload_too_large :
    ∃ msg frame, fresh.checkData "x" fullPayload none none = .ok msg ∧
      encodeFrame .standard msg = .ok frame ∧
      ∃ len, (FrameDecoder.new.decode .standard true frame).1 = .error (.error (.tooLarge len)) :=
  tooLarge_of_length_eq length_fullPayload

end Transport

end LapinBeam
