import LapinBeam.Runtime.NodeId

/-!
# Wire messages

On the wire every frame is a length and the encoding of one `WireMessage`. The application payload
travels inside it as JSON bytes, which the transport never looks into.
-/

namespace LapinBeam

abbrev Bytes := List UInt8

def protocolVersion : UInt8 := 1

def maxFrameSize : Nat := 16 * 1024 * 1024

inductive MessageKind
  | handshake
  | data
  | heartbeat
  | error
deriving DecidableEq, Repr

structure WireMessage where
  version : UInt8
  msgId : UInt64
  src : String
  dstActor : String
  kind : MessageKind
  payload : Bytes
  replyTo : Option String
  correlationId : Option UInt64
deriving DecidableEq

namespace WireMessage

def heartbeat (msgId : UInt64) (src : String) : WireMessage :=
  { version := protocolVersion, msgId, src, dstActor := "", kind := .heartbeat, payload := []
    replyTo := none, correlationId := none }

def handshake (msgId : UInt64) (src : String) : WireMessage :=
  { version := protocolVersion, msgId, src, dstActor := "", kind := .handshake, payload := []
    replyTo := none, correlationId := none }

end WireMessage

/-! ### Cluster secret

The keyed hash is a parameter `hmac key nonce`; only that it is a function is used. -/

namespace Auth

def nonceLen : Nat := 16

def proofLen : Nat := 32

/-- A handshake auth payload: the nonce followed by its keyed hash. The source draws the nonce at random. -/
def buildProof (hmac : Bytes → Bytes → Bytes) (secret nonce : Bytes) : Bytes :=
  nonce ++ hmac secret nonce

def verifyProof (hmac : Bytes → Bytes → Bytes) (secret payload : Bytes) : Bool :=
  payload.length == nonceLen + proofLen &&
    hmac secret (payload.take nonceLen) == payload.drop nonceLen

theorem verifyProof_buildProof {hmac : Bytes → Bytes → Bytes} {secret nonce : Bytes}
    (hnonce : nonce.length = nonceLen) (hproof : (hmac secret nonce).length = proofLen) :
    verifyProof hmac secret (buildProof hmac secret nonce) = true := by
  unfold verifyProof buildProof
  rw [List.take_left' hnonce, List.drop_left' hnonce, List.length_append, hnonce, hproof]
  simp

end Auth

/-- The handshake carrying a proof that its sender knows the cluster secret. -/
def WireMessage.handshakeWithAuth (hmac : Bytes → Bytes → Bytes) (msgId : UInt64) (src : String)
    (secret nonce : Bytes) : WireMessage :=
  { WireMessage.handshake msgId src with payload := Auth.buildProof hmac secret nonce }

end LapinBeam
