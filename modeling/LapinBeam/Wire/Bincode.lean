import LapinBeam.Lib.LittleEndian
import LapinBeam.Wire.Message

/-!
# The bincode codec

The crate encodes a `WireMessage` with `bincode` under its standard configuration. The codec is not
part of this repository, so the development takes it as a parameter with the properties it relies
on: encoding succeeds and decoding undoes it (`Lawful`), the encoding has the length the format
prescribes (`Sized`), and decoding looks at nothing behind the bytes it takes (`Streaming`).
`Bincode.standard` is the format itself, and has all three.
-/

namespace LapinBeam

/-- A codec error, as the text it displays: all the crate does with one is log it. -/
abbrev CodecError := String

structure Bincode where
  encodeToVec : WireMessage → Except CodecError Bytes
  /-- The decoded message and the number of bytes it took. -/
  decodeFromSlice : Bytes → Except CodecError (WireMessage × Nat)

/-- Encoding a message succeeds, and decoding its bytes gives it back and consumes them all. The bytes are a `Vec`, so their length is a machine word. -/
structure Bincode.Lawful (bincode : Bincode) : Prop where
  encode_ok : ∀ msg, ∃ body, bincode.encodeToVec msg = .ok body
  decode_encode : ∀ msg body, bincode.encodeToVec msg = .ok body → body.length < 2 ^ 64 →
    bincode.decodeFromSlice body = .ok (msg, body.length)

/-- Bytes of a variable-length integer: one below 251, else a marker and two, four or eight. -/
def varintSize (n : Nat) : Nat :=
  if n < 251 then 1 else if n < 2 ^ 16 then 3 else if n < 2 ^ 32 then 5 else 9

def sequenceSize (length : Nat) : Nat := varintSize length + length

def optionSize {α : Type} (size : α → Nat) : Option α → Nat
  | none => 1
  | some value => 1 + size value

/-- Length of a message's encoding: the version byte, the fields in order, one byte for the kind. -/
def wireSize (msg : WireMessage) : Nat :=
  1 + varintSize msg.msgId.toNat + sequenceSize msg.src.utf8ByteSize +
    sequenceSize msg.dstActor.utf8ByteSize + 1 + sequenceSize msg.payload.length +
    optionSize (fun name => sequenceSize name.utf8ByteSize) msg.replyTo +
    optionSize (fun id => varintSize id.toNat) msg.correlationId

structure Bincode.Sized (bincode : Bincode) : Prop where
  length_encode : ∀ msg body, bincode.encodeToVec msg = .ok body → body.length = wireSize msg

/-- Decoding takes bytes off the front and has no use for those behind them. -/
structure Bincode.Streaming (bincode : Bincode) : Prop where
  decode_take : ∀ {input msg consumed}, bincode.decodeFromSlice input = .ok (msg, consumed) →
    consumed ≤ input.length ∧
      bincode.decodeFromSlice (input.take consumed) = .ok (msg, consumed)
  decode_append : ∀ {input msg}, bincode.decodeFromSlice input = .ok (msg, input.length) →
    ∀ more, bincode.decodeFromSlice (input ++ more) = .ok (msg, input.length)

namespace Bincode

def writeVarint (n : Nat) : Bytes :=
  if n < 251 then [UInt8.ofNat n]
  else if n < 2 ^ 16 then 251 :: LittleEndian.encode 2 n
  else if n < 2 ^ 32 then 252 :: LittleEndian.encode 4 n
  else 253 :: LittleEndian.encode 8 n

def writeBytes (bytes : Bytes) : Bytes := writeVarint bytes.length ++ bytes

def writeString (s : String) : Bytes := writeBytes s.toUTF8.data.toList

def writeOption {α : Type} (write : α → Bytes) : Option α → Bytes
  | none => [0]
  | some value => 1 :: write value

def kindIndex : MessageKind → Nat
  | .handshake => 0
  | .data => 1
  | .heartbeat => 2
  | .error => 3

def writeMessage (msg : WireMessage) : Bytes :=
  [msg.version] ++ writeVarint msg.msgId.toNat ++ writeString msg.src ++
    writeString msg.dstActor ++ writeVarint (kindIndex msg.kind) ++ writeBytes msg.payload ++
    writeOption writeString msg.replyTo ++
    writeOption (fun id => writeVarint id.toNat) msg.correlationId

abbrev Reader := StateT Bytes (Except CodecError)

def readByte : Reader UInt8 := fun input =>
  match input with
  | [] => .error "unexpected end"
  | byte :: rest => .ok (byte, rest)

def readExact (count : Nat) : Reader Bytes := fun input =>
  if count ≤ input.length then .ok (input.take count, input.drop count)
  else .error "unexpected end"

/-- Only a 64-bit integer may have the marker of eight bytes. -/
def readVarint (wide : Bool) : Reader Nat := do
  let marker ← readByte
  if marker < 251 then return marker.toNat
  else if marker = 251 then return LittleEndian.decode (← readExact 2)
  else if marker = 252 then return LittleEndian.decode (← readExact 4)
  else if wide ∧ marker = 253 then return LittleEndian.decode (← readExact 8)
  else throw "invalid integer"

def readBytes : Reader Bytes := do
  readExact (← readVarint true)

def readString : Reader String := do
  match String.fromUTF8? ⟨(← readBytes).toArray⟩ with
  | some s => return s
  | none => throw "invalid utf8"

def readOption {α : Type} (read : Reader α) : Reader (Option α) := do
  let tag ← readByte
  if tag = 0 then return none
  else if tag = 1 then return some (← read)
  else throw "invalid option tag"

def readKind : Reader MessageKind := do
  match (← readVarint false) with
  | 0 => return .handshake
  | 1 => return .data
  | 2 => return .heartbeat
  | 3 => return .error
  | _ => throw "invalid variant"

def readMessage : Reader WireMessage := do
  let version ← readByte
  let msgId ← readVarint true
  let src ← readString
  let dstActor ← readString
  let kind ← readKind
  let payload ← readBytes
  let replyTo ← readOption readString
  let correlationId ← readOption (readVarint true)
  return { version, msgId := UInt64.ofNat msgId, src, dstActor, kind, payload, replyTo
           correlationId := correlationId.map UInt64.ofNat }

def standard : Bincode where
  encodeToVec msg := .ok (writeMessage msg)
  decodeFromSlice input :=
    match readMessage input with
    | .ok (msg, rest) => .ok (msg, input.length - rest.length)
    | .error e => .error e

/-! ### The standard configuration has these properties -/

theorem length_writeVarint (n : Nat) : (writeVarint n).length = varintSize n := by
  unfold writeVarint varintSize
  split
  · rfl
  split
  · simp
  split <;> simp

theorem length_writeBytes (bytes : Bytes) :
    (writeBytes bytes).length = sequenceSize bytes.length := by
  simp [writeBytes, sequenceSize, length_writeVarint]

theorem length_writeString (s : String) :
    (writeString s).length = sequenceSize s.utf8ByteSize := by
  rw [writeString, length_writeBytes]
  rfl

theorem length_writeOption {α : Type} {write : α → Bytes} {size : α → Nat}
    (hsize : ∀ value, (write value).length = size value) (value : Option α) :
    (writeOption write value).length = optionSize size value := by
  cases value with
  | none => rfl
  | some value => simp [writeOption, optionSize, hsize, Nat.add_comm]

theorem varintSize_kindIndex (kind : MessageKind) : varintSize (kindIndex kind) = 1 := by
  cases kind <;> rfl

theorem length_writeMessage (msg : WireMessage) : (writeMessage msg).length = wireSize msg := by
  simp only [writeMessage, List.length_append, List.length_singleton, length_writeVarint,
    length_writeString, length_writeBytes, varintSize_kindIndex, length_writeOption length_writeString,
    length_writeOption fun id : UInt64 => length_writeVarint id.toNat, wireSize]

/-- `read` takes exactly `bytes` off any input that starts with them, and yields `value`. -/
def Reads {α : Type} (read : Reader α) (bytes : Bytes) (value : α) : Prop :=
  ∀ rest, read (bytes ++ rest) = .ok (value, rest)

theorem Reads.bind {α β : Type} {read : Reader α} {next : α → Reader β} {first second : Bytes}
    {value : α} {result : β} (hfirst : Reads read first value)
    (hsecond : Reads (next value) second result) :
    Reads (read >>= next) (first ++ second) result := by
  intro rest
  rw [List.append_assoc]
  change (read (first ++ (second ++ rest)) >>= fun out => next out.1 out.2) = _
  rw [hfirst (second ++ rest)]
  exact hsecond rest

theorem Reads.pure {α : Type} (value : α) : Reads (Pure.pure value : Reader α) [] value :=
  fun _ => rfl

theorem Reads.map {α β : Type} {read : Reader α} {bytes : Bytes} {value : α}
    (hread : Reads read bytes value) (f : α → β) :
    Reads (read >>= fun out => Pure.pure (f out)) bytes (f value) := by
  intro rest
  change (read (bytes ++ rest) >>= fun out => Except.ok (f out.1, out.2)) = _
  rw [hread rest]
  rfl

theorem reads_readByte (byte : UInt8) : Reads readByte [byte] byte := fun _ => rfl

theorem reads_readExact (bytes : Bytes) : Reads (readExact bytes.length) bytes bytes := by
  intro rest
  simp [readExact]

theorem reads_readVarint {n : Nat} (hlt : n < 2 ^ 64) :
    Reads (readVarint true) (writeVarint n) n := by
  have hfixed : ∀ width, n < 256 ^ width →
      Reads (readExact width >>= fun bytes => Pure.pure (LittleEndian.decode bytes))
        (LittleEndian.encode width n) n := by
    intro width hwidth
    have hread := (reads_readExact (LittleEndian.encode width n)).map LittleEndian.decode
    rwa [LittleEndian.length_encode, LittleEndian.decode_encode_of_lt hwidth] at hread
  unfold writeVarint readVarint
  split
  · rename_i hsmall
    intro rest
    have hbyte : (UInt8.ofNat n).toNat = n := by
      rw [UInt8.toNat_ofNat', Nat.mod_eq_of_lt (by omega)]
    have hmarker : UInt8.ofNat n < 251 := by
      rw [UInt8.lt_iff_toNat_lt, hbyte]
      exact hsmall
    change (if UInt8.ofNat n < 251 then Pure.pure (UInt8.ofNat n).toNat else _ : Reader Nat) rest = _
    rw [if_pos hmarker, hbyte]
    rfl
  split
  · exact (reads_readByte 251).bind (hfixed 2 (by omega))
  split
  · exact (reads_readByte 252).bind (hfixed 4 (by omega))
  · exact (reads_readByte 253).bind (hfixed 8 (by omega))

theorem reads_readBytes {bytes : Bytes} (hlt : bytes.length < 2 ^ 64) :
    Reads readBytes (writeBytes bytes) bytes :=
  (reads_readVarint hlt).bind (reads_readExact bytes)

theorem fromUTF8?_toUTF8 (s : String) :
    String.fromUTF8? ⟨s.toUTF8.data.toList.toArray⟩ = some s := by
  rw [Array.toArray_toList]
  change String.fromUTF8? s.toByteArray = some s
  rw [String.fromUTF8?, dif_pos s.isValidUTF8]
  rfl

theorem reads_readString {s : String} (hlt : s.utf8ByteSize < 2 ^ 64) :
    Reads readString (writeString s) s := by
  have hbytes : Reads readBytes (writeString s) s.toUTF8.data.toList := reads_readBytes hlt
  rw [← List.append_nil (writeString s)]
  refine hbytes.bind ?_
  simp only [fromUTF8?_toUTF8]
  exact Reads.pure s

theorem reads_readOption {α : Type} {read : Reader α} {write : α → Bytes} {value : Option α}
    (hread : ∀ v, value = some v → Reads read (write v) v) :
    Reads (readOption read) (writeOption write value) value := by
  cases value with
  | none => exact fun _ => rfl
  | some v => exact (reads_readByte 1).bind ((hread v rfl).map some)

theorem reads_readKind (kind : MessageKind) :
    Reads readKind (writeVarint (kindIndex kind)) kind := by
  cases kind <;> exact fun _ => rfl

theorem writeOption_map (value : Option UInt64) :
    writeOption (fun id => writeVarint id.toNat) value =
      writeOption writeVarint (value.map UInt64.toNat) := by
  cases value <;> rfl

theorem reads_readMessage {msg : WireMessage} (hlt : (writeMessage msg).length < 2 ^ 64) :
    Reads readMessage (writeMessage msg) msg := by
  -- every length that is written is below the length of the whole
  rw [length_writeMessage] at hlt
  unfold wireSize sequenceSize at hlt
  have hsrc : msg.src.utf8ByteSize < 2 ^ 64 := by omega
  have hdst : msg.dstActor.utf8ByteSize < 2 ^ 64 := by omega
  have hpayload : msg.payload.length < 2 ^ 64 := by omega
  have hreply : ∀ name, msg.replyTo = some name → name.utf8ByteSize < 2 ^ 64 := by
    intro name hname
    rw [hname, optionSize] at hlt
    omega
  have hcorrelation : ∀ id, msg.correlationId.map UInt64.toNat = some id → id < 2 ^ 64 := by
    intro id hid
    obtain ⟨word, -, rfl⟩ := Option.map_eq_some_iff.mp hid
    exact word.toNat_lt
  have hrecord : WireMessage.mk msg.version (UInt64.ofNat msg.msgId.toNat) msg.src msg.dstActor
      msg.kind msg.payload msg.replyTo
      ((msg.correlationId.map UInt64.toNat).map UInt64.ofNat) = msg := by
    simp [Option.map_map, Function.comp_def]
  simp only [writeMessage, writeOption_map, List.append_assoc]
  refine (reads_readByte msg.version).bind ?_
  refine (reads_readVarint msg.msgId.toNat_lt).bind ?_
  refine (reads_readString hsrc).bind ?_
  refine (reads_readString hdst).bind ?_
  refine (reads_readKind msg.kind).bind ?_
  refine (reads_readBytes hpayload).bind ?_
  refine (reads_readOption fun name hname => reads_readString (hreply name hname)).bind ?_
  have hlast := (reads_readOption fun id hid => reads_readVarint (hcorrelation id hid)).map
    fun correlationId => WireMessage.mk msg.version (UInt64.ofNat msg.msgId.toNat) msg.src
      msg.dstActor msg.kind msg.payload msg.replyTo (correlationId.map UInt64.ofNat)
  rwa [hrecord] at hlast

/-- What `read` yields depends on the bytes it takes off only. -/
def Local {α : Type} (read : Reader α) : Prop :=
  ∀ input value rest, read input = .ok (value, rest) →
    ∃ used, input = used ++ rest ∧ Reads read used value

theorem Local.pure {α : Type} (value : α) : Local (Pure.pure value : Reader α) := by
  intro input result rest hread
  cases hread
  exact ⟨[], rfl, Reads.pure value⟩

theorem Local.throw {α : Type} (error : CodecError) : Local (throw error : Reader α) := by
  intro input result rest hread
  cases hread

theorem Local.bind {α β : Type} {read : Reader α} {next : α → Reader β} (hread : Local read)
    (hnext : ∀ value, Local (next value)) : Local (read >>= next) := by
  intro input result rest hbind
  change (read input >>= fun out => next out.1 out.2) = .ok (result, rest) at hbind
  cases hfirst : read input with
  | error e =>
      rw [hfirst] at hbind
      cases hbind
  | ok out =>
      rw [hfirst] at hbind
      obtain ⟨used, rfl, hused⟩ := hread _ _ _ hfirst
      obtain ⟨later, hlater, hreads⟩ := hnext out.1 _ _ _ hbind
      exact ⟨used ++ later, by rw [hlater, List.append_assoc], hused.bind hreads⟩

theorem Local.ite {α : Type} {p : Prop} [Decidable p] {read other : Reader α} (hread : Local read)
    (hother : Local other) : Local (if p then read else other) := by
  split
  · exact hread
  · exact hother

theorem local_readByte : Local readByte := by
  intro input byte rest hread
  cases input with
  | nil => cases hread
  | cons =>
      cases hread
      exact ⟨[byte], rfl, reads_readByte byte⟩

theorem local_readExact (count : Nat) : Local (readExact count) := by
  intro input bytes rest hread
  unfold readExact at hread
  split at hread
  · rename_i hle
    cases hread
    have hreads := reads_readExact (input.take count)
    rw [List.length_take_of_le hle] at hreads
    exact ⟨input.take count, (List.take_append_drop count input).symm, hreads⟩
  · cases hread

theorem local_readVarint (wide : Bool) : Local (readVarint wide) := by
  have hfixed : ∀ width,
      Local (readExact width >>= fun bytes => Pure.pure (LittleEndian.decode bytes)) :=
    fun width => (local_readExact width).bind fun _ => .pure _
  exact local_readByte.bind fun marker => .ite (.pure _)
    (.ite (hfixed 2) (.ite (hfixed 4) (.ite (hfixed 8) (.throw _))))

theorem local_readBytes : Local readBytes :=
  (local_readVarint true).bind local_readExact

theorem local_readString : Local readString := by
  refine local_readBytes.bind fun bytes => ?_
  split
  · exact .pure _
  · exact .throw _

theorem local_readOption {α : Type} {read : Reader α} (hread : Local read) :
    Local (readOption read) :=
  local_readByte.bind fun _ => .ite (.pure _) (.ite (hread.bind fun _ => .pure _) (.throw _))

theorem local_readKind : Local readKind := by
  refine (local_readVarint false).bind fun index => ?_
  split
  all_goals first | exact .pure _ | exact .throw _

theorem local_readMessage : Local readMessage :=
  local_readByte.bind fun _ => (local_readVarint true).bind fun _ => local_readString.bind fun _ =>
    local_readString.bind fun _ => local_readKind.bind fun _ => local_readBytes.bind fun _ =>
    (local_readOption local_readString).bind fun _ =>
    (local_readOption (local_readVarint true)).bind fun _ => .pure _

theorem reads_of_decode {input : Bytes} {msg : WireMessage} {consumed : Nat}
    (hdecode : standard.decodeFromSlice input = .ok (msg, consumed)) :
    ∃ used rest, input = used ++ rest ∧ consumed = used.length ∧ Reads readMessage used msg := by
  simp only [standard] at hdecode
  split at hdecode
  · rename_i value rest hread
    obtain ⟨rfl, rfl⟩ := Prod.mk.inj (Except.ok.inj hdecode)
    obtain ⟨used, rfl, hreads⟩ := local_readMessage _ _ _ hread
    exact ⟨used, rest, rfl, by simp, hreads⟩
  · cases hdecode

theorem decode_of_reads {used : Bytes} {msg : WireMessage} (hreads : Reads readMessage used msg)
    (rest : Bytes) : standard.decodeFromSlice (used ++ rest) = .ok (msg, used.length) := by
  simp only [standard, hreads rest, List.length_append, Nat.add_sub_cancel]

theorem standard_streaming : standard.Streaming where
  decode_take := by
    intro input msg consumed hdecode
    obtain ⟨used, rest, rfl, rfl, hreads⟩ := reads_of_decode hdecode
    have halone := decode_of_reads hreads []
    rw [List.append_nil] at halone
    rw [List.take_left]
    exact ⟨by simp, halone⟩
  decode_append := by
    intro input msg hdecode more
    obtain ⟨used, rest, rfl, hlength, hreads⟩ := reads_of_decode hdecode
    obtain rfl : rest = [] := by simpa using hlength
    rw [List.append_nil]
    exact decode_of_reads hreads more

theorem standard_lawful : standard.Lawful where
  encode_ok msg := ⟨writeMessage msg, rfl⟩
  decode_encode := by
    intro msg body hencode hlt
    obtain rfl : writeMessage msg = body := Except.ok.inj hencode
    have hread := reads_readMessage hlt []
    rw [List.append_nil] at hread
    simp only [standard, hread, List.length_nil, Nat.sub_zero]

theorem standard_sized : standard.Sized where
  length_encode := by
    intro msg body hencode
    obtain rfl : writeMessage msg = body := Except.ok.inj hencode
    exact length_writeMessage msg

end Bincode

end LapinBeam
