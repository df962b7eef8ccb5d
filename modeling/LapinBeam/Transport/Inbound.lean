import LapinBeam.Transport.Task
import LapinBeam.Wire.Framing

/-!
# One inbound connection, from bytes to routed messages

The read loop of an accepted connection together with its decoder. What arrives is bytes, in chunks
of any size; everything else the loop looks at (the peers map, the routing table, the stop flag,
events) belongs to a transport that other tasks change between any two of its stretches.
-/

namespace LapinBeam

inductive Passage
  | routed (peer : NodeId) (msg : WireMessage)
  | registered (handle : PeerHandle)
deriving DecidableEq

def Passage.peer : Passage → NodeId
  | .routed peer _ => peer
  | .registered handle => handle.peerId

structure Inbound where
  decoder : FrameDecoder
  connection : Connection
  stage : ReadLoop
  decoded : List WireMessage
  /-- The frames the `for` loop has taken up so far. -/
  taken : List WireMessage
  /-- Everything let through so far, with the frames taken up by then. -/
  passed : List (List WireMessage × Passage)

def Input.frames : Input → List WireMessage
  | .read (.frames frames) => frames
  | _ => []

def ReadLoop.takes : ReadLoop → List WireMessage
  | .handling (msg :: _) => [msg]
  | _ => []

def Move.passages (move : Move) (stage : ReadLoop) : List Passage :=
  match move.effect, stage, move.task with
  | .insertPeer handle, _, _ => [.registered handle]
  | _, .handling _, .readLoop _ (.routing peer (.dispatch msg) _) => [.routed peer msg]
  | _, _, _ => []

namespace Inbound

inductive Arrival
  | bytes (chunk : Bytes)
  | wake (input : Input)

def accept (conn : ConnectionId) : Inbound :=
  ⟨.new, ⟨conn, true, none, 0⟩, .spawned, [], [], []⟩

def resume (externals : Externals) (transport : Transport) (inbound : Inbound) (input : Input) :
    Option Inbound :=
  match inbound.stage.move externals transport inbound.connection input with
  | none => none
  | some move =>
      match move.task with
      | .readLoop connection stage =>
          let taken := inbound.taken ++ inbound.stage.takes
          some { inbound with
            connection, stage, taken
            decoded := inbound.decoded ++ input.frames
            passed := inbound.passed ++ (move.passages inbound.stage).map (taken, ·) }
      | _ => none

/-- One stretch of the loop. A failed debug assertion in the decoder unwinds the task. -/
def step (externals : Externals) (bincode : Bincode) (debugAssertions : Bool) (inbound : Inbound)
    (action : Transport × Arrival) : Option Inbound :=
  match action.2 with
  | .bytes chunk =>
      if inbound.stage = .selecting then
        match inbound.decoder.decode bincode debugAssertions chunk with
        | (.ok frames, decoder) =>
            { inbound with decoder }.resume externals action.1 (.read (.frames frames))
        | (.error (.error _), decoder) =>
            { inbound with decoder }.resume externals action.1 (.read .invalidFrame)
        | (.error (.assertion _ _), decoder) => some { inbound with decoder, stage := .finished }
      else none
  | .wake (.read (.frames _)) => none
  | .wake input => inbound.resume externals action.1 input

end Inbound

end LapinBeam
