import LapinBeam.Transport.Pair
import LapinBeam.Transport.Reader

/-!
# Two nodes left to themselves

The read loops of two connected nodes, and the frames on their way between them: queued, with a
writer, or in the TCP connection. A read takes the first of them off the wire; what `route` sends
back is put on the wire in the other direction. Nobody else sends, and the timers are silent.
-/

namespace LapinBeam

structure Exchange where
  parties : Side → Reader
  inFlight : Side → List WireMessage
  sent : List WireMessage := []

def Effect.sends : Effect → List (ConnectionId × WireMessage)
  | .enqueue conn msg => [(conn, msg)]
  | _ => []

namespace Exchange

inductive Action
  | change (side : Side) (effect : Effect)
  /-- A read completes some frames. One that completes none leaves everything as it is. -/
  | read (side : Side) (count : Nat)
  | route (side : Side) (input : Input)

def Action.isDelivery : Action → Bool
  | .read _ _ | .route _ _ => true
  | .change _ _ => false

/-- What a stretch of the read loop leaves. What it sends on another connection does not arrive here. -/
def settle (exchange : Exchange) (side : Side) (resumed : Effect × Reader) : Exchange where
  parties := Function.update exchange.parties side resumed.2
  inFlight :=
    let arriving := resumed.1.sends.filter fun sent => sent.1 = resumed.2.connection.id
    Function.update exchange.inFlight side.other
      (exchange.inFlight side.other ++ arriving.map Prod.snd)
  sent := exchange.sent ++ resumed.1.sends.map Prod.snd

/-- What is left in flight when the first frames have been read. -/
def drop (exchange : Exchange) (side : Side) (count : Nat) : Exchange :=
  { exchange with
    inFlight := Function.update exchange.inFlight side ((exchange.inFlight side).drop count) }

def step (externals : Externals) (exchange : Exchange) : Action → Option Exchange
  | .change side effect =>
      ((exchange.parties side).change effect).map fun party =>
        { exchange with parties := Function.update exchange.parties side party }
  | .read side count =>
      let party := exchange.parties side
      if party.stage = .selecting ∧ 0 < count ∧ count ≤ (exchange.inFlight side).length then
        (party.resume externals (.read (.frames ((exchange.inFlight side).take count)))).map
          ((exchange.drop side count).settle side)
      else none
  | .route side input =>
      let party := exchange.parties side
      if party.stage = .selecting then none
      else (party.resume externals input).map (exchange.settle side)

end Exchange

end LapinBeam
