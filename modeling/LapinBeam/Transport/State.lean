import LapinBeam.Lib.Broadcast
import LapinBeam.Wire.Message
import Mathlib.Data.Finset.Basic

/-!
# The state of a transport

What the tasks of one `Transport` share: the peers map, the desired set, the routing table, the
event channel and the stop flag. Each of them sits behind its own lock, so one atomic stretch of a
task makes at most one change to it; the changes are the constructors of `Effect`.

Time is not modelled. Wherever the source waits with a timeout or a sleep, the wait may end at any
moment.
-/

namespace LapinBeam

abbrev ConnectionId := Nat

structure TransportConfig where
  reconnect : Bool := true
  reconnectMaxAttempts : Option Nat := some 30
  clusterSecret : Option Bytes := none
deriving DecidableEq

inductive Event
  | peerConnected (peer : NodeId)
  | peerDisconnected (peer : NodeId)
  | errorReceived (sender : NodeId) (detail : String) (correlationId : Option UInt64)
  | reconnectGaveUp (peer : NodeId)
  | mailboxFull (actor : String)
deriving DecidableEq

/-- Outbound handle to a connected peer. A connection gets one queue and one handle, so its queue is named after it. -/
structure PeerHandle where
  peerId : NodeId
  tx : ConnectionId
deriving DecidableEq

def PeerHandle.isSameConnection (handle other : PeerHandle) : Bool :=
  handle.tx == other.tx

inductive SendError
  | closed
  | peerNotFound
  | payloadTooLarge (size : Nat)
deriving DecidableEq

abbrev Mailbox := Nat

structure Inbox where
  capacity : Nat
  queue : List WireMessage := []
  closed : Bool := false
deriving DecidableEq

/-- An event as sent, with the entry of the peers map whose removal it announces. The second component is bookkeeping: receivers see only the event. -/
structure Emission where
  event : Event
  removed : Option PeerHandle := none
deriving DecidableEq

structure Transport where
  localId : NodeId
  config : TransportConfig
  peers : NodeId → Option PeerHandle
  desired : Finset NodeId
  routing : String → Option Mailbox
  events : Broadcast.Channel Emission
  stopped : Bool
  nextMsgId : UInt64
  inboxes : Mailbox → Inbox
  /-- Everything enqueued so far on the outbound queue of each connection. -/
  outbound : ConnectionId → List WireMessage
  opened : List ConnectionId
  /-- Every entry a read loop or `forget_peer` has taken out of the peers map so far. -/
  removed : List PeerHandle

namespace Transport

/-- What `listen` builds, before it spawns the accept loop and the reconnect supervisor. -/
def listen (localId : NodeId) (config : TransportConfig) (inboxes : Mailbox → Inbox) : Transport :=
  { localId, config, peers := fun _ => none, desired := ∅, routing := fun _ => none
    events := ⟨64, []⟩, stopped := false, nextMsgId := 1, inboxes, outbound := fun _ => []
    opened := [], removed := [] }

def hasPeer (transport : Transport) (peer : NodeId) : Bool :=
  (transport.peers peer).isSome

/-- The connection dialed by the node with the smaller full id wins. -/
def connectionWinsTiebreak (transport : Transport) (peer : NodeId) (weAreDialer : Bool) : Bool :=
  let (dialer, acceptor) :=
    if weAreDialer then (transport.localId.toFull, peer.toFull)
    else (peer.toFull, transport.localId.toFull)
  dialer < acceptor

/-- Whether a connection that is ready to be registered for `peer` has to give way to the one in the map. -/
def refuses (transport : Transport) (peer : NodeId) (weAreDialer : Bool) : Bool :=
  transport.hasPeer peer && !transport.connectionWinsTiebreak peer weAreDialer

end Transport

inductive Effect
  | skip
  | openConnection (conn : ConnectionId)
  | insertPeer (handle : PeerHandle)
  | removePeer (peer : NodeId) (removed : PeerHandle)
  | takePeers
  | emit (event : Event) (removed : Option PeerHandle)
  | desire (peer : NodeId)
  | undesire (peer : NodeId)
  | clearDesired
  | stop
  | takeMsgId
  | enqueue (conn : ConnectionId) (msg : WireMessage)
  | registerActor (name : String) (mailbox : Mailbox)
  | unregisterActor (name : String)
  | setInbox (mailbox : Mailbox) (inbox : Inbox)
deriving DecidableEq

def Effect.apply (transport : Transport) : Effect → Transport
  | .skip => transport
  | .openConnection conn => { transport with opened := conn :: transport.opened }
  | .insertPeer handle =>
      { transport with peers := Function.update transport.peers handle.peerId (some handle) }
  | .removePeer peer removed =>
      { transport with
        peers := Function.update transport.peers peer none
        removed := removed :: transport.removed }
  | .takePeers => { transport with peers := fun _ => none }
  | .emit event removed => { transport with events := transport.events.send ⟨event, removed⟩ }
  | .desire peer => { transport with desired := insert peer transport.desired }
  | .undesire peer => { transport with desired := transport.desired.erase peer }
  | .clearDesired => { transport with desired := ∅ }
  | .stop => { transport with stopped := true }
  | .takeMsgId => { transport with nextMsgId := transport.nextMsgId + 1 }
  | .enqueue conn msg =>
      { transport with
        outbound := Function.update transport.outbound conn (transport.outbound conn ++ [msg]) }
  | .registerActor name mailbox =>
      { transport with routing := Function.update transport.routing name (some mailbox) }
  | .unregisterActor name =>
      { transport with routing := Function.update transport.routing name none }
  | .setInbox mailbox inbox =>
      { transport with inboxes := Function.update transport.inboxes mailbox inbox }

/-- The changes an application makes: who is registered, and what is in the actors' channels. -/
def Effect.isLocal : Effect → Bool
  | .registerActor _ _ | .unregisterActor _ | .setInbox _ _ => true
  | _ => false

namespace Transport

variable (transport : Transport)

def dataMessage (dstActor : String) (payload : Bytes) (replyTo : Option String)
    (correlationId : Option UInt64) : WireMessage :=
  { version := protocolVersion, msgId := transport.nextMsgId, src := transport.localId.toFull
    dstActor, kind := .data, payload, replyTo, correlationId }

/-- The message `send_error` builds, `payload` being the JSON object that carries the detail. -/
def errorMessage (payload : Bytes) (correlationId : Option UInt64) : WireMessage :=
  { version := protocolVersion, msgId := transport.nextMsgId, src := transport.localId.toFull
    dstActor := "", kind := .error, payload, replyTo := none, correlationId }

/-- The first part of `send_data_bytes`: the size check, then the message. -/
def checkData (dstActor : String) (payload : Bytes) (replyTo : Option String)
    (correlationId : Option UInt64) : Except SendError WireMessage :=
  if payload.length > maxFrameSize then .error (.payloadTooLarge payload.length)
  else .ok (transport.dataMessage dstActor payload replyTo correlationId)

end Transport

end LapinBeam
