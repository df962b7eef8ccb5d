import LapinBeam.Proof.DeepPayloads
import LapinBeam.Proof.Delivery
import LapinBeam.Proof.TypedPayloads
import Mathlib.Data.List.Forall2

/-!
# A value on its way to another node

`_send_remote` encodes a value and hands the payload to the core, which turns it into bytes; the
bytes travel in a frame, and the receiving node turns them into objects that its callback decodes.
Each stage has its own view of a Python value, and `Value.obj` takes that of the codec to that of
the core. What is delivered on a connection is then, value by value, what was sent on it.
-/

namespace LapinBeam.Codec

open LapinBeam.Convert (Obj SerdeJson pyString pyToJsonBytes bytesToPy)

variable (typeName : ClassId → String)

mutual

/-- A value as `convert.rs` sees it. -/
def Value.obj : Value → Obj
  | .none => .none
  | .bool value => .bool value
  | .int value => .int value
  | .float bits => .float bits
  | .str value => pyString value
  | .list items => .list (objItems items)
  | .tuple items => .tuple (objItems items)
  | .dict entries => .dict (objEntries entries)
  | .object cls _ => .other (typeName cls)

def Value.objItems : List Value → List Obj
  | [] => []
  | item :: items => item.obj :: objItems items

def Value.objEntries : List (Value × Value) → List (Obj × Obj)
  | [] => []
  | (key, value) :: entries => (key.obj, value.obj) :: objEntries entries

end

mutual

theorem untupled_obj : ∀ {value image : Value}, value.jsonImage = some image →
    (value.obj typeName).untupled = image.obj typeName
  | .list items, image, himage | .tuple items, image, himage => by
      obtain ⟨images, himages, rfl⟩ := Option.map_eq_some_iff.mp himage
      exact congrArg Obj.list (untupled_objItems himages)
  | .dict entries, image, himage => by
      obtain ⟨images, himages, rfl⟩ := Option.map_eq_some_iff.mp himage
      exact congrArg Obj.dict (untupled_objEntries himages)
  | .none, image, himage | .bool _, image, himage | .int _, image, himage
  | .float _, image, himage | .str _, image, himage => by
      cases himage
      rfl

theorem untupled_objItems : ∀ {items images : List Value}, Value.jsonItems items = some images →
    Obj.untupledItems (Value.objItems typeName items) = Value.objItems typeName images
  | [], images, himages => by
      cases himages
      rfl
  | item :: items, images, himages => by
      obtain ⟨image, himage, hrest⟩ := Option.bind_eq_some_iff.mp himages
      obtain ⟨rest, hitems, hcons⟩ := Option.bind_eq_some_iff.mp hrest
      cases hcons
      exact congrArg₂ List.cons (untupled_obj himage) (untupled_objItems hitems)

theorem untupled_objEntries : ∀ {entries images : List (Value × Value)},
    Value.jsonEntries entries = some images →
    Obj.untupledEntries (Value.objEntries typeName entries) = Value.objEntries typeName images
  | [], images, himages => by
      cases himages
      rfl
  | (.str key, value) :: entries, images, himages => by
      obtain ⟨image, himage, hrest⟩ := Option.bind_eq_some_iff.mp himages
      obtain ⟨rest, hentries, hcons⟩ := Option.bind_eq_some_iff.mp hrest
      cases hcons
      exact congrArg₂ List.cons (congrArg _ (untupled_obj himage)) (untupled_objEntries hentries)

end

namespace Interpreter

variable (interpreter : Interpreter) (serde : SerdeJson)

/-- `_send_remote` encodes a portable value as `payload`, and that as the bytes of a message. Dictionaries have each key once; floats and what the receiver finds too deep are left out. -/
structure Sends (value : Value) (bytes : Bytes) (payload : Value) : Prop where
  portable : interpreter.Portable value
  encoded : interpreter.encodePayload value = .ok payload
  written : pyToJsonBytes serde (payload.obj typeName) = .ok bytes
  keys : (payload.obj typeName).distinctKeys
  floats : (payload.obj typeName).floatFree = true
  depth : (payload.obj typeName).depth < 128

/-- `bytes_to_py` reads the bytes, and the callback decodes what it has read to the value. -/
def Receives (bytes : Bytes) (value : Value) : Prop :=
  ∃ image : Value, bytesToPy serde bytes = .ok (image.obj typeName) ∧
    interpreter.decodePayload image = .ok value

variable {typeName interpreter serde}

theorem Sends.receives (hserde : serde.Lawful) {value payload : Value} {bytes : Bytes}
    (hsends : interpreter.Sends typeName serde value bytes payload) :
    interpreter.Receives typeName serde bytes (interpreter.untuple value) := by
  obtain ⟨encoded, image, decoded, hencoded, himage, hdecoded, huntuple⟩ := hsends.portable.carried
  obtain rfl : encoded.getD value = payload := by
    have hpayload := hsends.encoded
    rw [encodePayload, hencoded] at hpayload
    exact Except.ok.inj hpayload
  obtain ⟨tree, htree, rfl⟩ := Convert.serialize_of_bytes hsends.written
  refine ⟨image, ?_, ?_⟩
  · rw [Convert.bytesToPy_toVec hserde htree hsends.floats, if_pos hsends.depth,
      (Convert.faithful_of_serialize htree).visits hsends.keys, untupled_obj typeName himage]
  · rw [decodePayload, hdecoded, ← huntuple]
    rfl

end Interpreter

end LapinBeam.Codec

namespace LapinBeam.Link

open Codec

/-- The messages of actors, among handshakes, heartbeats and errors. -/
def data (msgs : List WireMessage) : List WireMessage := msgs.filter fun msg => msg.kind = .data

/-- **A value arrives as it was sent**, tuples apart: whatever the batches and the chunks, what the `Data` messages delivered on a connection are decoded to is, in order, what was sent. -/
theorem values_arrive {interpreter : Interpreter} {typeName : ClassId → String}
    {serde : Convert.SerdeJson} (hserde : serde.Lawful) {bincode : Bincode}
    (hlawful : bincode.Lawful) {debugAssertions : Bool} {capacity : Nat} {link : Link}
    {values : List Value}
    (hreach : Machine.Reachable (step bincode debugAssertions) (Link.new capacity) link)
    (hfits : ∀ msg ∈ link.enqueued, FitsFrame bincode msg)
    (hsent : List.Forall₂ (fun msg value => ∃ payload,
      interpreter.Sends typeName serde value msg.payload payload) (data link.enqueued) values) :
    List.Forall₂ (fun msg value =>
        interpreter.Receives typeName serde msg.payload (interpreter.untuple value))
      (data link.delivered) (values.take (data link.delivered).length) := by
  obtain ⟨left, henqueued, -⟩ := (inOrder_of_reachable hlawful hreach hfits).transit
  have hdelivered : (data link.enqueued).take (data link.delivered).length =
      data link.delivered := by
    simp only [henqueued, data, List.append_assoc, List.filter_append, List.take_left]
  have harrive := hsent.imp fun msg value ⟨payload, hsends⟩ => hsends.receives hserde
  have htaken := List.forall₂_take (data link.delivered).length harrive
  rwa [hdelivered] at htaken

namespace Fixed

def payload : Value :=
  envelope "app.shapes.Point" (.dict [(.str "at", .tuple [.int 1, .int 2])])

def message : WireMessage :=
  { WireMessage.heartbeat 1 "a@h:1" with
    kind := .data
    payload := Convert.Fixed.serde.toVec (.obj [("__lb_type__", .str "app.shapes.Point"),
      ("data", .obj [("at", .arr [.int ⟨1, by decide⟩, .int ⟨2, by decide⟩])])]) }

theorem sends_point : Codec.Fixed.interpreter.Sends (fun _ => "") Convert.Fixed.serde
    Codec.Fixed.point message.payload payload where
  portable := .custom rfl rfl rfl rfl
  encoded := rfl
  written := by decide +kernel
  keys := by
    simp [payload, envelope, reserved, Value.obj, Value.objItems, Value.objEntries,
      Convert.pyString, Convert.Obj.distinctKeys, Convert.Obj.distinctKeysItems,
      Convert.Obj.distinctKeysEntries]
  floats := rfl
  depth := by decide

end Fixed

theorem values_arrive_point :
    ∃ link, Machine.Reachable (step .standard true) (Link.new 1) link ∧
      link.delivered = [.heartbeat 0 "a@h:1", Fixed.message] ∧
      Codec.Fixed.interpreter.Receives (fun _ => "") Convert.Fixed.serde Fixed.message.payload
        Codec.Fixed.point := by
  have hrun : (Machine.runWhere (step .standard true) (fun _ _ => True) (Link.new 1)
      [.enqueue (.heartbeat 0 "a@h:1"), .recv, .enqueue Fixed.message, .tryRecv, .tryRecvEmpty,
        .write 500, .read 3, .read 500]).map (fun link => (link.enqueued, link.delivered)) =
      some ([.heartbeat 0 "a@h:1", Fixed.message], [.heartbeat 0 "a@h:1", Fixed.message]) := by
    decide +kernel
  obtain ⟨link, hreach, hobserved⟩ := Machine.exists_reachableWhere hrun
  obtain ⟨henqueued, hdelivered⟩ := Prod.mk.inj hobserved
  have hfits : ∀ msg ∈ link.enqueued, FitsFrame .standard msg := by
    rw [henqueued]
    exact List.forall_mem_cons.mpr ⟨⟨_, rfl, by decide +kernel⟩,
      List.forall_mem_singleton.mpr ⟨_, rfl, by decide +kernel⟩⟩
  have hsent : List.Forall₂ (fun msg value => ∃ payload, Codec.Fixed.interpreter.Sends
      (fun _ => "") Convert.Fixed.serde value msg.payload payload)
      (data link.enqueued) [Codec.Fixed.point] := by
    rw [henqueued]
    exact .cons ⟨_, Fixed.sends_point⟩ .nil
  have harrive := values_arrive Convert.Fixed.lawful Bincode.standard_lawful hreach hfits hsent
  rw [hdelivered] at harrive
  obtain ⟨hreceives, -⟩ := List.forall₂_cons.mp harrive
  exact ⟨link, hreach, hdelivered, hreceives⟩

end LapinBeam.Link
