import LapinBeam.Transport.Task

/-!
# From a read loop to a Python mailbox

`register_actor` makes a channel of its own, puts it in the routing table and starts a `drain_loop`
for it, which hands every message it receives to the Python event loop with `call_soon_threadsafe`.
The callback run there decodes the payload and puts it in the actor's `asyncio.Queue`. Registering
a name again replaces the channel in the routing table and leaves the earlier `drain_loop` at work
on what its channel still holds.

Read loops, drain loops and the Python thread interleave in any order. `route` is the transport's
own. The event loop and the interpreter stay up.
-/

namespace LapinBeam

/-- What the Python side brings along: `bytes_to_py`, `decode_payload` with the text of what it raises, and the `maxsize` of every mailbox it makes (0 when unbounded). -/
structure Host (Object Payload : Type) where
  bytesToPy : Bytes → Option Object
  decodePayload : Object → Except String Payload
  maxsize : Nat → Nat

namespace Bridge

abbrev MailboxId := Nat

def channelCapacity : Nat := 256

/-- A frame for which `route` has found a channel. All but the message is bookkeeping: the connection it came in on, how many such frames there were before it, and the mailbox the channel is for. -/
structure Routed where
  conn : ConnectionId
  number : Nat
  mailbox : Option MailboxId
  msg : WireMessage
deriving DecidableEq

/-- What one call of `register_actor` sets up: a channel, its `drain_loop` and the mailbox of its callback. -/
structure Registration where
  name : String
  mailbox : MailboxId
  queue : List Routed := []
  /-- Received by `drain_loop` and not yet scheduled. -/
  hand : Option Routed := none
deriving DecidableEq

/-- What the channel and its `drain_loop` hold, in the order in which it goes on. -/
def Registration.held (registration : Registration) : List Routed :=
  registration.hand.toList ++ registration.queue

def Registration.inbox (registration : Registration) : Inbox :=
  { capacity := channelCapacity, queue := registration.queue.map Routed.msg }

structure MessageMeta where
  src : String
  replyTo : Option String
  correlationId : Option UInt64
  msgId : Option UInt64
deriving DecidableEq

/-- A callback on the event loop's queue, with the frame it is for. -/
structure Scheduled (Object : Type) where
  name : String
  mailbox : MailboxId
  object : Object
  info : MessageMeta
  frame : Routed

structure Queue (Payload : Type) where
  items : List (Payload × MessageMeta)
  arrived : List Routed

/-- A read loop inside `route`, with the frame it has found a channel for. -/
structure Reader where
  peer : NodeId
  frame : Option Routed
  route : Route

inductive NodeEvent
  | decodeError (actor detail : String)
  | mailboxFull (actor : String)
deriving DecidableEq

end Bridge

open Bridge in
structure Bridge (Object Payload : Type) where
  transport : Transport
  /-- Every call of `register_actor` so far; a channel is named after its position. -/
  registrations : List Registration
  readers : ConnectionId → Option Reader
  ready : List (Scheduled Object)
  mailboxes : String → Option MailboxId
  queues : MailboxId → Queue Payload
  notifying : Option (NodeId × Route)
  events : List NodeEvent
  /-- Every frame for which a channel was found, and those of them reported as `mailbox_full`. -/
  routed : List Routed
  refused : List Routed

namespace Bridge

variable {Object Payload : Type}

inductive Action (Payload : Type)
  /-- The read loop of a connection takes up its next frame. -/
  | take (conn : ConnectionId) (peer : NodeId) (msg : WireMessage)
  | route (conn : ConnectionId) (input : Input)
  | registerActor (name : String) (mailbox : MailboxId)
  | unregisterActor (name : String)
  | recv (channel : Mailbox)
  /-- It has the GIL and schedules what it received. -/
  | schedule (channel : Mailbox)
  | callback
  | notify (input : Input)
  | sendLocal (name : String) (payload : Payload) (replyTo : Option String)
      (correlationId : Option UInt64)
  | get (mailbox : MailboxId)
  | change (effect : Effect)

def start (localId : NodeId) (config : TransportConfig) : Bridge Object Payload where
  transport := .listen localId config fun _ => { capacity := channelCapacity }
  registrations := []
  readers _ := none
  ready := []
  mailboxes _ := none
  queues _ := ⟨[], []⟩
  notifying := none
  events := []
  routed := []
  refused := []

variable (externals : Externals) (host : Host Object Payload)

section Steps

variable (bridge : Bridge Object Payload)

def view : Transport :=
  { bridge.transport with
    inboxes := fun channel =>
      (bridge.registrations[channel]?).elim (bridge.transport.inboxes channel) (·.inbox) }

/-- What a stretch of `route`, at work on `frame`, changes for the others. -/
def absorb (frame : Option Routed) : Effect → Bridge Object Payload
  | .setInbox channel _ =>
      { bridge with
        registrations := bridge.registrations.modify channel fun registration =>
          { registration with queue := registration.queue ++ frame.toList } }
  | .emit (.mailboxFull actor) removed =>
      { bridge with
        transport := (Effect.emit (.mailboxFull actor) removed).apply bridge.transport
        refused := bridge.refused ++ frame.toList }
  | effect => { bridge with transport := effect.apply bridge.transport }

def proceed (conn : ConnectionId) (reader : Reader) :
    Progress Route Unit → Bridge Object Payload
  | .next (.trySend channel msg) =>
      let frame : Routed :=
        { conn, number := bridge.routed.length, msg
          mailbox := (bridge.registrations[channel]?).map (·.mailbox) }
      { bridge with
        routed := bridge.routed ++ [frame]
        readers := Function.update bridge.readers conn
          (some ⟨reader.peer, some frame, .trySend channel msg⟩) }
  | .next route =>
      { bridge with
        readers := Function.update bridge.readers conn (some { reader with route }) }
  | .done _ => { bridge with readers := Function.update bridge.readers conn none }

def route (conn : ConnectionId) (input : Input) : Option (Bridge Object Payload) :=
  match bridge.readers conn with
  | none => none
  | some reader =>
      match reader.route.move externals bridge.view reader.peer input with
      | none => none
      | some (effect, progress) =>
          some ((bridge.absorb reader.frame effect).proceed conn reader progress)

/-- A name registered for another mailbox is refused with a `ValueError`. -/
def registerActor (name : String) (mailbox : MailboxId) : Option (Bridge Object Payload) :=
  if bridge.notifying.isNone ∧ (bridge.mailboxes name).all (· = mailbox) then
    some { bridge with
      mailboxes := Function.update bridge.mailboxes name (some mailbox)
      transport := (Effect.registerActor name bridge.registrations.length).apply bridge.transport
      registrations := bridge.registrations ++ [{ name, mailbox }] }
  else none

def unregisterActor (name : String) : Option (Bridge Object Payload) :=
  if bridge.notifying.isNone then
    some { bridge with
      mailboxes := Function.update bridge.mailboxes name none
      transport := (Effect.unregisterActor name).apply bridge.transport }
  else none

def recv (channel : Mailbox) : Option (Bridge Object Payload) :=
  match bridge.registrations[channel]? with
  | some ⟨name, mailbox, frame :: queue, none⟩ =>
      some { bridge with
        registrations := bridge.registrations.set channel ⟨name, mailbox, queue, some frame⟩ }
  | _ => none

/-- The metadata `drain_loop` sends along. -/
def metaDict (msg : WireMessage) : MessageMeta :=
  ⟨msg.src, msg.replyTo, msg.correlationId, some msg.msgId⟩

/-- A payload that is no JSON is dropped. -/
def schedule (channel : Mailbox) : Option (Bridge Object Payload) :=
  match bridge.registrations[channel]? with
  | some ⟨name, mailbox, queue, some frame⟩ =>
      let bridge := { bridge with
        registrations := bridge.registrations.set channel ⟨name, mailbox, queue, none⟩ }
      match host.bytesToPy frame.msg.payload with
      | none => some bridge
      | some object =>
          some { bridge with
            ready := bridge.ready ++ [⟨name, mailbox, object, metaDict frame.msg, frame⟩] }
  | _ => none

def full (mailbox : MailboxId) : Bool :=
  0 < host.maxsize mailbox && host.maxsize mailbox ≤ (bridge.queues mailbox).items.length

def put (mailbox : MailboxId) (item : Payload × MessageMeta) (frame : Option Routed) :
    Bridge Object Payload :=
  let queue := bridge.queues mailbox
  { bridge with
    queues := Function.update bridge.queues mailbox
      ⟨queue.items ++ [item], queue.arrived ++ frame.toList⟩ }

/-- A sender whose id does not parse is not notified: `notify_peer_error` raises. -/
def callback : Option (Bridge Object Payload) :=
  match bridge.notifying, bridge.ready with
  | none, call :: ready =>
      let bridge := { bridge with ready }
      match host.decodePayload call.object with
      | .error detail =>
          some { bridge with events := bridge.events ++ [.decodeError call.name detail] }
      | .ok payload =>
          if bridge.full host call.mailbox then
            some { bridge with
              events := bridge.events ++ [.mailboxFull call.name]
              refused := bridge.refused ++ [call.frame]
              notifying := (NodeId.parse call.info.src).toOption.map
                (·, .sendError ("mailbox_full:" ++ call.name) call.info.correlationId) }
          else some (bridge.put call.mailbox (payload, call.info) (some call.frame))
  | _, _ => none

def notify (input : Input) : Option (Bridge Object Payload) :=
  match bridge.notifying with
  | none => none
  | some (peer, route) =>
      match route.move externals bridge.view peer input with
      | none => none
      | some (effect, .next route) =>
          some { bridge with
            transport := effect.apply bridge.transport, notifying := some (peer, route) }
      | some (effect, .done _) =>
          some { bridge with transport := effect.apply bridge.transport, notifying := none }

def sendLocal (name : String) (payload : Payload) (replyTo : Option String)
    (correlationId : Option UInt64) : Option (Bridge Object Payload) :=
  match bridge.notifying, bridge.mailboxes name with
  | none, some mailbox =>
      let info : MessageMeta := ⟨bridge.transport.localId.toFull, replyTo, correlationId, none⟩
      if bridge.full host mailbox then
        some { bridge with events := bridge.events ++ [.mailboxFull name] }
      else some (bridge.put mailbox (payload, info) none)
  | _, _ => none

def get (mailbox : MailboxId) : Option (Bridge Object Payload) :=
  match bridge.notifying, (bridge.queues mailbox).items with
  | none, _ :: items =>
      some { bridge with
        queues := Function.update bridge.queues mailbox
          { bridge.queues mailbox with items } }
  | _, _ => none

def step : Action Payload → Option (Bridge Object Payload)
  | .take conn peer msg =>
      if (bridge.readers conn).isNone then
        some { bridge with
          readers := Function.update bridge.readers conn (some ⟨peer, none, .dispatch msg⟩) }
      else none
  | .route conn input => bridge.route externals conn input
  | .registerActor name mailbox => bridge.registerActor name mailbox
  | .unregisterActor name => bridge.unregisterActor name
  | .recv channel => bridge.recv channel
  | .schedule channel => bridge.schedule host channel
  | .callback => bridge.callback host
  | .notify input => bridge.notify externals input
  | .sendLocal name payload replyTo correlationId =>
      bridge.sendLocal host name payload replyTo correlationId
  | .get mailbox => bridge.get mailbox
  | .change effect =>
      if effect.isLocal then none
      else some { bridge with transport := effect.apply bridge.transport }

end Steps

end Bridge

/-! ### A fixed node

For runs on fixed inputs: every payload is its own object, and all mailboxes are unbounded. -/

namespace Fixed

def host : Host Bytes Bytes := ⟨some, .ok, fun _ => 0⟩

def node : Bridge Bytes Bytes := .start ⟨"m", "h", 1⟩ {}

def frame (msgId : UInt64) : WireMessage :=
  { version := protocolVersion, msgId, src := peer.toFull, dstActor := "x", kind := .data
    payload := [], replyTo := none, correlationId := none }

def routes (conn : ConnectionId) (msgId : UInt64) : List (Bridge.Action Bytes) :=
  [.take conn peer (frame msgId), .route conn .go, .route conn .go]

def drains (channel : Mailbox) : List (Bridge.Action Bytes) := [.recv channel, .schedule channel]

end Fixed

end LapinBeam
