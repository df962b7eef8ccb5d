import LapinBeam.Transport.Link
import LapinBeam.Transport.Pair
import LapinBeam.Transport.Reader

/-!
# Two connected nodes

One connection after its handshake, in both directions. Each end has its read loop, which handles
and routes the frames it has read one after the other before it reads again, and its outbound link:
the bounded queue, the writer, and a TCP connection that holds a bounded number of bytes. What
`route` sends back goes through the same queue as everything else.
-/

namespace LapinBeam

structure Endpoint extends Reader where
  link : Link

def readBufSize : Nat := 4096

namespace Endpoint

variable (externals : Externals) (bincode : Bincode) (debugAssertions : Bool)

/-- `PeerHandle::send`, once the queue has room. -/
def enqueue (endpoint : Endpoint) (msg : WireMessage) : Option Endpoint :=
  (endpoint.link.step bincode debugAssertions (.enqueue msg)).map fun link =>
    { endpoint with link }

/-- One stretch of the read loop. Where it sends, the queue has to have room. -/
def resume (endpoint : Endpoint) (input : Input) : Option Endpoint :=
  (endpoint.toReader.resume externals input).bind fun (effect, reader) =>
    let moved := { endpoint with toReader := reader }
    match effect with
    | .enqueue _ msg => moved.enqueue bincode debugAssertions msg
    | _ => some moved

/-- One stretch of the `for` loop over the decoded frames, `route` included. -/
def route (endpoint : Endpoint) : Option Endpoint :=
  match endpoint.stage with
  | .handling _ | .routing _ _ _ => endpoint.resume externals bincode debugAssertions .go
  | _ => none

/-- How the read of the bytes that took the link of the other end from `before` to `after` ends. A failed debug assertion in the decoder unwinds the task. -/
def receive (endpoint : Endpoint) (before after : Link) : Option Endpoint :=
  let frames := after.delivered.drop before.delivered.length
  match after.aborted with
  | some (.assertion _ _) => some { endpoint with stage := .finished }
  | some (.error _) => endpoint.resume externals bincode debugAssertions (.read .invalidFrame)
  | none => endpoint.resume externals bincode debugAssertions (.read (.frames frames))

end Endpoint

structure Duplex where
  ends : Side → Endpoint
  /-- How many bytes the TCP connection holds in each direction. -/
  buffer : Nat

namespace Duplex

inductive Action
  /-- A task other than the read loop enqueues a message: an application or a heartbeat loop. -/
  | send (side : Side) (msg : WireMessage)
  | change (side : Side) (effect : Effect)
  | write (side : Side) (action : Link.Action)
  | read (side : Side) (count : Nat)
  | route (side : Side)

/-- A read, route or write step, as opposed to those the applications take. -/
def Action.isTransport : Action → Bool
  | .write _ _ | .read _ _ | .route _ => true
  | .send _ _ | .change _ _ => false

def set (duplex : Duplex) (side : Side) (endpoint : Endpoint) : Duplex :=
  { duplex with ends := Function.update duplex.ends side endpoint }

/-- What `writer_loop` can do while the connection is up. A write gets some bytes out, as far as there is room. -/
def writes (link : Link) (buffer : Nat) : Link.Action → Bool
  | .recv | .tryRecv | .tryRecvEmpty => true
  | .write count => 0 < count && link.socket.length + count ≤ buffer
  | _ => false

variable (externals : Externals) (bincode : Bincode) (debugAssertions : Bool)

def step (duplex : Duplex) : Action → Option Duplex
  | .send side msg =>
      if msg.version = protocolVersion ∧ (msg.kind = .data ∨ msg.kind = .heartbeat) then
        ((duplex.ends side).enqueue bincode debugAssertions msg).map (duplex.set side)
      else none
  | .change side effect =>
      let endpoint := duplex.ends side
      (endpoint.toReader.change effect).map fun reader =>
        duplex.set side { endpoint with toReader := reader }
  | .write side action =>
      let endpoint := duplex.ends side
      if writes endpoint.link duplex.buffer action then
        (endpoint.link.step bincode debugAssertions action).map fun link =>
          duplex.set side { endpoint with link }
      else none
  | .read side count =>
      let sender := duplex.ends side.other
      let receiver := duplex.ends side
      if receiver.stage = .selecting ∧ 0 < count ∧ count ≤ sender.link.socket.length ∧
          count ≤ readBufSize then
        match sender.link.step bincode debugAssertions (.read count) with
        | none => none
        | some link =>
            (receiver.receive externals bincode debugAssertions sender.link link).map
              fun endpoint => (duplex.set side.other { sender with link }).set side endpoint
      else none
  | .route side =>
      ((duplex.ends side).route externals bincode debugAssertions).map (duplex.set side)

end Duplex

/-- Two nodes that are connected, with queues and TCP buffers of any finite size. -/
structure Peering where
  ids : Side → NodeId
  conn : Side → ConnectionId
  transports : Side → Transport
  capacity : Side → Nat
  buffer : Nat
  registered : ∀ side : Side,
    (transports side).peers (ids side.other) = some ⟨ids side.other, conn side⟩
  capacity_pos : ∀ side, 0 < capacity side
  buffer_pos : 0 < buffer

namespace Peering

variable (peering : Peering)

def endpoint (side : Side) : Endpoint where
  transport := peering.transports side
  connection :=
    { id := peering.conn side, writeHalf := false
      registered := some ⟨peering.ids side.other, peering.conn side⟩
      cursor := (peering.transports side).events.subscribe }
  stage := .selecting
  link := .new (peering.capacity side)

def start : Duplex := ⟨peering.endpoint, peering.buffer⟩

end Peering

end LapinBeam
