import LapinBeam.Lib.TaskSystem
import LapinBeam.Transport.State

/-!
# The tasks of a transport

Every `async fn` of the transport is a task whose stages are the points where another task can get
in between: at each `await`, and around each access to shared state. `move` is one stretch of a
task, from one such point to the next. Calls made from outside (`connect`, `forget_peer`,
`shutdown`, sends, actor registration) are tasks too.
-/

namespace LapinBeam

/-- What the transport takes from other libraries: the keyed hash, the text of a JSON payload (`none` when it does not parse) and the JSON object around an error detail. -/
structure Externals where
  hmac : Bytes → Bytes → Bytes
  payloadText : Bytes → Option String
  errorPayload : String → Bytes

/-- How a read with its timeout ends, the decoder having turned the bytes into frames. -/
inductive ReadResult
  | elapsed
  | error
  | eof
  | invalidFrame
  | frames (frames : List WireMessage)
deriving DecidableEq

inductive Input
  | go
  | connected (conn : ConnectionId)
  | refused
  | timedOut
  | nonce (nonce : Bytes)
  | closed
  | read (result : ReadResult)
  /-- The event branch of a `select!`. -/
  | recv
  | accepted (conn : ConnectionId)
  | acceptError
  | stopChanged
deriving DecidableEq

inductive Progress (Stage Result : Type)
  | next (stage : Stage)
  | done (result : Result)

/-- The tail of `send_data_bytes` and `send_error`: look the handle up, then enqueue. -/
inductive Sending
  | lookup (msg : WireMessage)
  | enqueuing (handle : PeerHandle) (msg : WireMessage)
deriving DecidableEq

def Sending.msg : Sending → WireMessage
  | .lookup msg | .enqueuing _ msg => msg

inductive Route
  | dispatch (msg : WireMessage)
  | trySend (mailbox : Mailbox) (msg : WireMessage)
  | reportFull (msg : WireMessage)
  | sendError (detail : String) (correlationId : Option UInt64)
  | sending (stage : Sending)
deriving DecidableEq

inductive Dial
  | checkingPeer
  | desiring
  | connecting
  | registering (conn : ConnectionId)
  | handshaking (conn : ConnectionId)
  | sending (conn : ConnectionId) (hs : WireMessage)
  | announcing (conn : ConnectionId)
  | spawning (conn : ConnectionId)
deriving DecidableEq

inductive Dialer
  | connect
  | reconnectLoop (attempts : Nat)
deriving DecidableEq

inductive ReconnectLoop
  | sleeping
  | checkingDesired
  | checkingPeer
  | givingUp
  | announcing
  | returned
deriving DecidableEq

inductive Supervision
  | listening
  | checkingDesired (peer : NodeId)
  | spawning (peer : NodeId)
  | returned
deriving DecidableEq

inductive ForgetPeer
  | undesiring
  | removing
  | emitting (removed : PeerHandle)
  | returned
deriving DecidableEq

inductive Shutdown
  | stopping
  | clearingDesired
  | takingPeers
  | returned
deriving DecidableEq

structure Connection where
  id : ConnectionId
  /-- The write half is still here, because no writer task exists yet. -/
  writeHalf : Bool
  registered : Option PeerHandle
  cursor : Nat
deriving DecidableEq

inductive ReadLoop
  | spawned
  | selecting
  | handling (frames : List WireMessage)
  | registering (peer : NodeId) (frames : List WireMessage)
  | announcing (peer : NodeId) (frames : List WireMessage)
  | routing (peer : NodeId) (route : Route) (frames : List WireMessage)
  | closing
  | emitting (peer : NodeId) (removed : PeerHandle)
  | finished
deriving DecidableEq

inductive HeartbeatLoop
  | spawned
  | waiting (cursor : Nat)
  | checkingPeer (cursor : Nat)
  | building (cursor : Nat) (handle : PeerHandle)
  | sending (cursor : Nat) (handle : PeerHandle) (hb : WireMessage)
  | returned
deriving DecidableEq

inductive AcceptLoop
  | accepting
  | returned
deriving DecidableEq

structure DataRequest where
  dstActor : String
  payload : Bytes
  replyTo : Option String
  correlationId : Option UInt64
deriving DecidableEq

inductive SendData
  | checking (request : DataRequest)
  | sending (stage : Sending)
  | returned (result : Except SendError Unit)
deriving DecidableEq

inductive Task
  | acceptLoop (stage : AcceptLoop)
  | reconnectSupervisor (cursor : Nat) (stage : Supervision)
  | dial (caller : Dialer) (peer : NodeId) (stage : Dial)
  | dialed (caller : Dialer) (peer : NodeId) (ok : Bool)
  | connect (peer : NodeId) (ok : Bool)
  | reconnectLoop (peer : NodeId) (attempts : Nat) (stage : ReconnectLoop)
  | forgetPeer (peer : NodeId) (stage : ForgetPeer)
  | shutdown (stage : Shutdown)
  | readLoop (connection : Connection) (stage : ReadLoop)
  | heartbeatLoop (peer : NodeId) (stage : HeartbeatLoop)
  | sendData (peer : NodeId) (stage : SendData)
  /-- `send_error` called from outside; `route`'s own calls are stages of the read loop. -/
  | sendError (peer : NodeId) (route : Option Route)
  | registerActor (name : String) (mailbox : Mailbox) (returned : Bool)
  | unregisterActor (name : String) (returned : Bool)
  /-- The owner of an actor's channel takes its first message, or drops the channel. -/
  | receive (mailbox : Mailbox) (returned : Bool)
  | closeInbox (mailbox : Mailbox) (returned : Bool)
deriving DecidableEq

structure Move where
  effect : Effect
  task : Task
  spawned : List Task := []

def Move.outcome (move : Move) (transport : Transport) : TaskSystem.Outcome Transport Task :=
  ⟨move.effect.apply transport, move.task, move.spawned⟩

def Sending.move (transport : Transport) (peer : NodeId) :
    Sending → Input → Option (Effect × Progress Sending (Except SendError Unit))
  | .lookup msg, .go =>
      match transport.peers peer with
      | none => some (.skip, .done (.error .peerNotFound))
      | some handle => some (.skip, .next (.enqueuing handle msg))
  | .enqueuing handle msg, .go => some (.enqueue handle.tx msg, .done (.ok ()))
  | .enqueuing _ _, .closed => some (.skip, .done (.error .closed))
  | _, _ => none

/-- `route`, for a frame received from `peer`. -/
def Route.move (externals : Externals) (transport : Transport) (peer : NodeId) :
    Route → Input → Option (Effect × Progress Route Unit)
  | .dispatch msg, .go =>
      match msg.kind with
      | .handshake => some (.skip, .done ())
      | .heartbeat => some (.skip, .done ())
      | .data =>
          match transport.routing msg.dstActor with
          | some mailbox => some (.skip, .next (.trySend mailbox msg))
          | none =>
              some (.skip, .next (.sendError ("actor_not_found:" ++ msg.dstActor) msg.correlationId))
      | .error =>
          let detail := (externals.payloadText msg.payload).getD ""
          some (.emit (.errorReceived peer detail msg.correlationId) none, .done ())
  | .trySend mailbox msg, .go =>
      let inbox := transport.inboxes mailbox
      if inbox.closed then some (.skip, .done ())
      else if inbox.queue.length < inbox.capacity then
        some (.setInbox mailbox { inbox with queue := inbox.queue ++ [msg] }, .done ())
      else some (.skip, .next (.reportFull msg))
  | .reportFull msg, .go =>
      some (.emit (.mailboxFull msg.dstActor) none,
        .next (.sendError ("mailbox_full:" ++ msg.dstActor) msg.correlationId))
  | .sendError detail correlationId, .go =>
      let msg := transport.errorMessage (externals.errorPayload detail) correlationId
      some (.takeMsgId, .next (.sending (.lookup msg)))
  | .sending stage, input =>
      match stage.move transport peer input with
      | none => none
      | some (effect, .next stage) => some (effect, .next (.sending stage))
      | some (effect, .done _) => some (effect, .done ())
  | _, _ => none

/-- The handshake of `dial`, with a proof of the cluster secret when there is one. -/
def Transport.handshake (externals : Externals) (transport : Transport) (nonce : Bytes) :
    WireMessage :=
  match transport.config.clusterSecret with
  | some secret =>
      .handshakeWithAuth externals.hmac transport.nextMsgId transport.localId.toFull secret nonce
  | none => .handshake transport.nextMsgId transport.localId.toFull

/-- `dial`. Its result says whether it succeeded. -/
def Dial.move (externals : Externals) (transport : Transport) (caller : Dialer) (peer : NodeId) :
    Dial → Input → Option Move
  | .checkingPeer, .go =>
      if transport.hasPeer peer then some ⟨.skip, .dialed caller peer true, []⟩
      else some ⟨.skip, .dial caller peer .desiring, []⟩
  | .desiring, .go => some ⟨.desire peer, .dial caller peer .connecting, []⟩
  | .connecting, .connected conn =>
      if conn ∈ transport.opened then none
      else some ⟨.openConnection conn, .dial caller peer (.registering conn), []⟩
  | .connecting, .refused => some ⟨.skip, .dialed caller peer false, []⟩
  | .registering conn, .go =>
      if transport.refuses peer true then some ⟨.skip, .dialed caller peer true, []⟩
      else some ⟨.insertPeer ⟨peer, conn⟩, .dial caller peer (.handshaking conn), []⟩
  | .handshaking conn, .nonce nonce =>
      let hs := transport.handshake externals nonce
      some ⟨.takeMsgId, .dial caller peer (.sending conn hs), []⟩
  | .sending conn hs, .go => some ⟨.enqueue conn hs, .dial caller peer (.announcing conn), []⟩
  | .sending conn _, .closed => some ⟨.skip, .dial caller peer (.announcing conn), []⟩
  | .announcing conn, .go =>
      some ⟨.emit (.peerConnected peer) none, .dial caller peer (.spawning conn), []⟩
  | .spawning conn, .go =>
      some ⟨.skip, .dialed caller peer true,
        [.readLoop ⟨conn, false, some ⟨peer, conn⟩, 0⟩ .spawned, .heartbeatLoop peer .spawned]⟩
  | _, _ => none

/-- The points of `dial` at which a timeout can end it: it waits there for a lock or for the network. A fresh outbound queue has room, so the handshake is enqueued without waiting. -/
def Dial.cancellable : Dial → Bool
  | .checkingPeer | .desiring | .connecting | .registering _ => true
  | _ => false

/-- The rest of `connect`, and of one round of `reconnect_loop`, once `dial` has returned. -/
def Dialer.move (transport : Transport) (peer : NodeId) (ok : Bool) : Dialer → Option Move
  | .connect =>
      if !ok && transport.config.reconnect then
        some ⟨.skip, .connect peer ok, [.reconnectLoop peer 0 .sleeping]⟩
      else some ⟨.skip, .connect peer ok, []⟩
  | .reconnectLoop attempts =>
      if ok then some ⟨.skip, .reconnectLoop peer attempts .returned, []⟩
      else
        match transport.config.reconnectMaxAttempts with
        | some max =>
            if attempts + 1 ≥ max then
              some ⟨.skip, .reconnectLoop peer (attempts + 1) .givingUp, []⟩
            else some ⟨.skip, .reconnectLoop peer (attempts + 1) .sleeping, []⟩
        | none => some ⟨.skip, .reconnectLoop peer (attempts + 1) .sleeping, []⟩

def ReconnectLoop.move (transport : Transport) (peer : NodeId) (attempts : Nat) :
    ReconnectLoop → Input → Option Move
  | .sleeping, .go => some ⟨.skip, .reconnectLoop peer attempts .checkingDesired, []⟩
  | .checkingDesired, .go =>
      if peer ∈ transport.desired then some ⟨.skip, .reconnectLoop peer attempts .checkingPeer, []⟩
      else some ⟨.skip, .reconnectLoop peer attempts .returned, []⟩
  | .checkingPeer, .go =>
      if transport.hasPeer peer then some ⟨.skip, .reconnectLoop peer attempts .returned, []⟩
      else some ⟨.skip, .dial (.reconnectLoop attempts) peer .checkingPeer, []⟩
  | .givingUp, .go => some ⟨.undesire peer, .reconnectLoop peer attempts .announcing, []⟩
  | .announcing, .go =>
      some ⟨.emit (.reconnectGaveUp peer) none, .reconnectLoop peer attempts .returned, []⟩
  | _, _ => none

/-- `reconnect_supervisor`. Its `while let Ok(ev)` ends on any receive error, a lag included. -/
def Supervision.move (transport : Transport) (cursor : Nat) : Supervision → Input → Option Move
  | .listening, .recv =>
      match transport.events.recv cursor with
      | .pending => none
      | .lagged next => some ⟨.skip, .reconnectSupervisor next .returned, []⟩
      | .item emission next =>
          match emission.event with
          | .peerDisconnected peer =>
              some ⟨.skip, .reconnectSupervisor next (.checkingDesired peer), []⟩
          | _ => some ⟨.skip, .reconnectSupervisor next .listening, []⟩
  | .checkingDesired peer, .go =>
      if transport.config.reconnect && peer ∈ transport.desired then
        some ⟨.skip, .reconnectSupervisor cursor (.spawning peer), []⟩
      else some ⟨.skip, .reconnectSupervisor cursor .listening, []⟩
  | .spawning peer, .go =>
      some ⟨.skip, .reconnectSupervisor cursor .listening, [.reconnectLoop peer 0 .sleeping]⟩
  | _, _ => none

def ForgetPeer.move (transport : Transport) (peer : NodeId) : ForgetPeer → Input → Option Move
  | .undesiring, .go => some ⟨.undesire peer, .forgetPeer peer .removing, []⟩
  | .removing, .go =>
      match transport.peers peer with
      | some removed => some ⟨.removePeer peer removed, .forgetPeer peer (.emitting removed), []⟩
      | none => some ⟨.skip, .forgetPeer peer .returned, []⟩
  | .emitting removed, .go =>
      some ⟨.emit (.peerDisconnected peer) (some removed), .forgetPeer peer .returned, []⟩
  | _, _ => none

def Shutdown.move : Shutdown → Input → Option Move
  | .stopping, .go => some ⟨.stop, .shutdown .clearingDesired, []⟩
  | .clearingDesired, .go => some ⟨.clearDesired, .shutdown .takingPeers, []⟩
  | .takingPeers, .go => some ⟨.takePeers, .shutdown .returned, []⟩
  | _, _ => none

/-- The body of the `for` loop of `read_loop`, up to its first wait. -/
def Connection.handle (externals : Externals) (transport : Transport) (connection : Connection)
    (msg : WireMessage) (rest : List WireMessage) : Connection × ReadLoop :=
  if msg.version ≠ protocolVersion then (connection, .closing)
  else if msg.kind = .handshake then
    match connection.registered with
    | some _ => (connection, .handling rest)
    | none =>
        let authentic :=
          match transport.config.clusterSecret with
          | some secret => Auth.verifyProof externals.hmac secret msg.payload
          | none => true
        if transport.stopped then (connection, .finished)
        else if !authentic then (connection, .finished)
        else
          match NodeId.parse msg.src with
          | .error _ => (connection, .finished)
          | .ok peer =>
              if connection.writeHalf then
                ({ connection with writeHalf := false }, .registering peer rest)
              else (connection, .finished)
  else
    match connection.registered with
    | some handle => (connection, .routing handle.peerId (.dispatch msg) rest)
    | none => (connection, .finished)

def ReadLoop.move (externals : Externals) (transport : Transport) (connection : Connection) :
    ReadLoop → Input → Option Move
  | .spawned, .go =>
      some ⟨.skip, .readLoop { connection with cursor := transport.events.subscribe } .selecting, []⟩
  | .selecting, .read (.frames frames) => some ⟨.skip, .readLoop connection (.handling frames), []⟩
  | .selecting, .read _ => some ⟨.skip, .readLoop connection .closing, []⟩
  | .selecting, .recv =>
      match connection.registered with
      | none => none
      | some handle =>
          match transport.events.recv connection.cursor with
          | .pending => none
          | .lagged next => some ⟨.skip, .readLoop { connection with cursor := next } .selecting, []⟩
          | .item emission next =>
              if emission.event = .peerDisconnected handle.peerId then
                some ⟨.skip, .readLoop { connection with cursor := next } .closing, []⟩
              else some ⟨.skip, .readLoop { connection with cursor := next } .selecting, []⟩
  | .handling [], .go => some ⟨.skip, .readLoop connection .selecting, []⟩
  | .handling (msg :: rest), .go =>
      let (connection, stage) := connection.handle externals transport msg rest
      some ⟨.skip, .readLoop connection stage, []⟩
  | .registering peer frames, .go =>
      if transport.refuses peer false then some ⟨.skip, .readLoop connection .finished, []⟩
      else
        let handle : PeerHandle := ⟨peer, connection.id⟩
        some ⟨.insertPeer handle,
          .readLoop { connection with registered := some handle } (.announcing peer frames), []⟩
  | .announcing peer frames, .go =>
      some ⟨.emit (.peerConnected peer) none, .readLoop connection (.handling frames),
        [.heartbeatLoop peer .spawned]⟩
  | .routing peer route frames, input =>
      match route.move externals transport peer input with
      | none => none
      | some (effect, .next route) =>
          some ⟨effect, .readLoop connection (.routing peer route frames), []⟩
      | some (effect, .done _) => some ⟨effect, .readLoop connection (.handling frames), []⟩
  | .closing, .go =>
      match connection.registered with
      | none => some ⟨.skip, .readLoop connection .finished, []⟩
      | some myHandle =>
          match transport.peers myHandle.peerId with
          | some current =>
              if current.isSameConnection myHandle then
                some ⟨.removePeer myHandle.peerId current,
                  .readLoop connection (.emitting myHandle.peerId current), []⟩
              else some ⟨.skip, .readLoop connection .finished, []⟩
          | none => some ⟨.skip, .readLoop connection .finished, []⟩
  | .emitting peer removed, .go =>
      some ⟨.emit (.peerDisconnected peer) (some removed), .readLoop connection .finished, []⟩
  | _, _ => none

def HeartbeatLoop.move (transport : Transport) (peer : NodeId) :
    HeartbeatLoop → Input → Option Move
  | .spawned, .go =>
      some ⟨.skip, .heartbeatLoop peer (.waiting transport.events.subscribe), []⟩
  | .waiting cursor, .go => some ⟨.skip, .heartbeatLoop peer (.checkingPeer cursor), []⟩
  | .waiting cursor, .recv =>
      match transport.events.recv cursor with
      | .pending => none
      | .lagged next => some ⟨.skip, .heartbeatLoop peer (.waiting next), []⟩
      | .item emission next =>
          if emission.event = .peerDisconnected peer then
            some ⟨.skip, .heartbeatLoop peer .returned, []⟩
          else some ⟨.skip, .heartbeatLoop peer (.waiting next), []⟩
  | .checkingPeer cursor, .go =>
      match transport.peers peer with
      | none => some ⟨.skip, .heartbeatLoop peer .returned, []⟩
      | some handle => some ⟨.skip, .heartbeatLoop peer (.building cursor handle), []⟩
  | .building cursor handle, .go =>
      let hb := WireMessage.heartbeat transport.nextMsgId transport.localId.toFull
      some ⟨.takeMsgId, .heartbeatLoop peer (.sending cursor handle hb), []⟩
  | .sending cursor handle hb, .go =>
      some ⟨.enqueue handle.tx hb, .heartbeatLoop peer (.waiting cursor), []⟩
  | .sending _ _ _, .closed => some ⟨.skip, .heartbeatLoop peer .returned, []⟩
  | _, _ => none

def AcceptLoop.move (transport : Transport) : AcceptLoop → Input → Option Move
  | .accepting, .accepted conn =>
      if conn ∈ transport.opened then none
      else
        some ⟨.openConnection conn, .acceptLoop .accepting,
          [.readLoop ⟨conn, true, none, 0⟩ .spawned]⟩
  | .accepting, .acceptError => some ⟨.skip, .acceptLoop .accepting, []⟩
  | .accepting, .stopChanged =>
      if transport.stopped then some ⟨.skip, .acceptLoop .returned, []⟩ else none
  | _, _ => none

def SendData.move (transport : Transport) (peer : NodeId) : SendData → Input → Option Move
  | .checking request, .go =>
      match transport.checkData request.dstActor request.payload request.replyTo
          request.correlationId with
      | .error e => some ⟨.skip, .sendData peer (.returned (.error e)), []⟩
      | .ok msg => some ⟨.takeMsgId, .sendData peer (.sending (.lookup msg)), []⟩
  | .sending stage, input =>
      match stage.move transport peer input with
      | none => none
      | some (effect, .next stage) => some ⟨effect, .sendData peer (.sending stage), []⟩
      | some (effect, .done result) => some ⟨effect, .sendData peer (.returned result), []⟩
  | _, _ => none

def Inbox.receive (inbox : Inbox) : Inbox := { inbox with queue := inbox.queue.tail }

def Task.move (externals : Externals) (transport : Transport) : Task → Input → Option Move
  | .acceptLoop stage, input => stage.move transport input
  | .reconnectSupervisor cursor stage, input => stage.move transport cursor input
  | .dial (.reconnectLoop attempts) peer stage, .timedOut =>
      if stage.cancellable then some ⟨.skip, .dialed (.reconnectLoop attempts) peer false, []⟩
      else none
  | .dial caller peer stage, input => stage.move externals transport caller peer input
  | .dialed caller peer ok, .go => caller.move transport peer ok
  | .reconnectLoop peer attempts stage, input => stage.move transport peer attempts input
  | .forgetPeer peer stage, input => stage.move transport peer input
  | .shutdown stage, input => stage.move input
  | .readLoop connection stage, input => stage.move externals transport connection input
  | .heartbeatLoop peer stage, input => stage.move transport peer input
  | .sendData peer stage, input => stage.move transport peer input
  | .sendError peer (some route), input =>
      match route.move externals transport peer input with
      | none => none
      | some (effect, .next route) => some ⟨effect, .sendError peer (some route), []⟩
      | some (effect, .done _) => some ⟨effect, .sendError peer none, []⟩
  | .registerActor name mailbox false, .go =>
      some ⟨.registerActor name mailbox, .registerActor name mailbox true, []⟩
  | .unregisterActor name false, .go =>
      some ⟨.unregisterActor name, .unregisterActor name true, []⟩
  | .receive mailbox false, .go =>
      some ⟨.setInbox mailbox (transport.inboxes mailbox).receive, .receive mailbox true, []⟩
  | .closeInbox mailbox false, .go =>
      some ⟨.setInbox mailbox { transport.inboxes mailbox with closed := true },
        .closeInbox mailbox true, []⟩
  | _, _ => none

/-- The calls that can be made from outside, at their first stage. -/
def Task.entry : Task → Bool
  | .dial .connect _ .checkingPeer => true
  | .forgetPeer _ .undesiring => true
  | .shutdown .stopping => true
  | .sendData _ (.checking _) => true
  | .sendError _ (some (.sendError _ _)) => true
  | .registerActor _ _ false => true
  | .unregisterActor _ false => true
  | .receive _ false => true
  | .closeInbox _ false => true
  | _ => false

namespace Transport

def program (externals : Externals) : TaskSystem.Program Transport Task Input where
  perform transport task input :=
    (task.move externals transport input).map (Move.outcome · transport)
  entry := Task.entry

abbrev System := TaskSystem.State Transport Task

abbrev Action := TaskSystem.Action Task Input

def step (externals : Externals) : System → Action → Option System :=
  TaskSystem.step (program externals)

def resumed (system : System) : Action → Option Task
  | .resume index _ => system.tasks[index]?
  | .call _ => none

def start (localId : NodeId) (config : TransportConfig) (inboxes : Mailbox → Inbox) : System :=
  let transport := listen localId config inboxes
  ⟨transport,
    [.acceptLoop .accepting, .reconnectSupervisor transport.events.subscribe .listening]⟩

end Transport

/-! ### A fixed transport

For runs on fixed inputs: `m@h:1`, with a peer whose full id is smaller, mailboxes with room for one
message, and externals that compute nothing. -/

namespace Fixed

def externals : Externals := ⟨fun _ _ => [], fun _ => none, fun _ => []⟩

def peer : NodeId := ⟨"a", "h", 2⟩

def start : Transport.System :=
  Transport.start ⟨"m", "h", 1⟩ {} fun _ => { capacity := 1 }

def dialed : List Transport.Action :=
  [.call (.dial .connect peer .checkingPeer), .resume 2 .go, .resume 2 .go,
    .resume 2 (.connected 1), .resume 2 .go, .resume 2 (.nonce []), .resume 2 .go, .resume 2 .go,
    .resume 2 .go, .resume 3 .go]

end Fixed

end LapinBeam
