import LapinBeam.Lib.Machine
import LapinBeam.Wire.Framing

/-!
# One direction of a connection

Messages enqueued on a `PeerHandle` reach the peer through its outbound queue, the writer task,
the socket and the read loop's decoder. Three partitions of one stream are independent of each
other: the writer's batches, the frames, and the chunks the reader happens to get.
-/

namespace LapinBeam

inductive Writer
  | receiving
  /-- Collecting queued messages into the batch with `try_recv`. -/
  | coalescing (batch : Bytes)
  | writing (rest : Bytes)
  /-- Returned, on a write error or because every handle is gone, with this much never written. -/
  | returned (unwritten : Bytes)
deriving DecidableEq

def Writer.batch : Writer → Bytes
  | .receiving => []
  | .coalescing batch => batch
  | .writing rest => rest
  | .returned unwritten => unwritten

structure Link where
  capacity : Nat
  queue : List WireMessage
  writer : Writer
  socket : Bytes
  decoder : FrameDecoder
  /-- Set when the decoder gave up; the read loop ends there. -/
  aborted : Option Abort
  /-- Everything enqueued so far, and everything the decoder has returned so far. -/
  enqueued : List WireMessage
  delivered : List WireMessage

namespace Link

def new (capacity : Nat) : Link :=
  { capacity, queue := [], writer := .receiving, socket := [], decoder := .new, aborted := none
    enqueued := [], delivered := [] }

inductive Action
  | enqueue (msg : WireMessage)
  | recv
  | tryRecv
  /-- `try_recv` reports an empty queue, which it may also do while a sender is still pushing. -/
  | tryRecvEmpty
  | write (count : Nat)
  | writeError
  | hangUp
  /-- The read loop reads `count` bytes and feeds them to the decoder. -/
  | read (count : Nat)

variable (bincode : Bincode) (debugAssertions : Bool)

def step (link : Link) : Action → Option Link
  | .enqueue msg =>
      if link.queue.length < link.capacity then
        some { link with queue := link.queue ++ [msg], enqueued := link.enqueued ++ [msg] }
      else none
  | .recv =>
      match link.writer, link.queue with
      | .receiving, msg :: queue =>
          match encodeFrame bincode msg with
          | .ok frame => some { link with queue, writer := .coalescing frame }
          | .error _ => some { link with queue }
      | _, _ => none
  | .tryRecv =>
      match link.writer, link.queue with
      | .coalescing batch, msg :: queue =>
          match encodeFrame bincode msg with
          | .ok frame => some { link with queue, writer := .coalescing (batch ++ frame) }
          | .error _ => some { link with queue }
      | _, _ => none
  | .tryRecvEmpty =>
      match link.writer with
      | .coalescing batch => some { link with writer := .writing batch }
      | _ => none
  | .write count =>
      match link.writer with
      | .writing rest =>
          some { link with
            socket := link.socket ++ rest.take count
            writer := if rest.drop count = [] then .receiving else .writing (rest.drop count) }
      | _ => none
  | .writeError =>
      match link.writer with
      | .writing rest => some { link with writer := .returned rest }
      | _ => none
  | .hangUp =>
      match link.writer, link.queue with
      | .receiving, [] => some { link with writer := .returned [] }
      | _, _ => none
  | .read count =>
      match link.aborted with
      | some _ => none
      | none =>
          match link.decoder.decode bincode debugAssertions (link.socket.take count) with
          | (.ok messages, decoder) =>
              some { link with
                socket := link.socket.drop count, decoder
                delivered := link.delivered ++ messages }
          | (.error abort, decoder) =>
              some { link with socket := link.socket.drop count, decoder, aborted := some abort }

end Link

end LapinBeam
