import LapinBeam.Transport.Task

/-!
# Waiting for a peer

`Node.connect_peer` has the core dial and waits until the peer is in the core's map. It looks twice,
before and after it registers a future in `_peer_waiters`, and then waits for that future; the
`PeerConnected` event of the core resolves it. `event_drain_loop` takes the events off the
broadcast channel and schedules a callback on the event loop for each.

The tasks of the transport, the drain loop, the event loop and the calls interleave in any order, a
call's own steps included, although a call does not give up the event loop before it waits.
-/

namespace LapinBeam.Connecting

inductive Outcome
  | connected
  | failed
  | cancelled
  | stopped
  | noCore
deriving DecidableEq

inductive Stage
  | checking
  | registering
  | rechecking
  | waiting
  | cleaning (outcome : Outcome)
  | ended (outcome : Outcome)
deriving DecidableEq

/-- A call of `connect_peer`, with the id it was given. -/
structure Call where
  peerId : String
  peer : NodeId
  stage : Stage
deriving DecidableEq

inductive Future
  | pending
  | resolved
  | cancelled
  | stopped
deriving DecidableEq

/-- A node. A future is known by the index of its call. -/
structure State where
  core : Transport.System
  started : Bool
  /-- Where `event_drain_loop` is in the event channel. -/
  cursor : Nat
  ready : List Event
  waiters : String → Option (List Nat)
  futures : Nat → Future
  calls : List Call

inductive Wake
  | go
  | timedOut
  | cancelled
deriving DecidableEq

inductive Action
  | core (action : Transport.Action)
  | drain
  | deliver
  | connectPeer (peerId : String)
  | resume (index : Nat) (wake : Wake)
  | stop

namespace State

variable (state : State)

def setStage (index : Nat) (call : Call) (stage : Stage) : State :=
  { state with calls := state.calls.set index { call with stage } }

def waitersOf (peerId : String) : List Nat := (state.waiters peerId).getD []

def onCoreEvent : Event → State
  | .peerConnected peer =>
      { state with
        futures := fun id =>
          if id ∈ state.waitersOf peer.toFull ∧ state.futures id = .pending then .resolved
          else state.futures id }
  | _ => state

def register (index : Nat) (peerId : String) : State :=
  { state with
    waiters := Function.update state.waiters peerId (some (state.waitersOf peerId ++ [index])) }

def cleanup (index : Nat) (peerId : String) : State :=
  if index ∈ state.waitersOf peerId then
    let rest := (state.waitersOf peerId).erase index
    { state with
      waiters := Function.update state.waiters peerId (if rest = [] then none else some rest) }
  else state

/-- `wait_for` cancels the future it stops waiting for, unless that is done. -/
def abandon (index : Nat) : State :=
  { state with
    futures := fun id =>
      if id = index ∧ state.futures id = .pending then .cancelled else state.futures id }

def advance (index : Nat) (call : Call) : Stage → Wake → Option State
  | .checking, .go =>
      if !state.started then some (state.setStage index call (.ended .noCore))
      else if state.core.shared.hasPeer call.peer then
        some (state.setStage index call (.ended .connected))
      else some (state.setStage index call .registering)
  | .registering, .go =>
      some ((state.register index call.peerId).setStage index call .rechecking)
  | .rechecking, .go =>
      if !state.started then some (state.setStage index call (.cleaning .noCore))
      else if state.core.shared.hasPeer call.peer then
        some (state.setStage index call (.cleaning .connected))
      else some (state.setStage index call .waiting)
  | .waiting, .go =>
      match state.futures index with
      | .pending => none
      | .resolved => some (state.setStage index call (.cleaning .connected))
      | .cancelled => some (state.setStage index call (.cleaning .cancelled))
      | .stopped => some (state.setStage index call (.cleaning .stopped))
  | .waiting, .timedOut =>
      some ((state.abandon index).setStage index call (.cleaning .failed))
  | .waiting, .cancelled =>
      some ((state.abandon index).setStage index call (.cleaning .cancelled))
  | .cleaning outcome, .go =>
      some ((state.cleanup index call.peerId).setStage index call (.ended outcome))
  | _, _ => none

/-- The future of a call is registered, which is only ever done under the id of its call. -/
def registered (id : Nat) : Bool :=
  state.calls[id]?.any fun call => id ∈ state.waitersOf call.peerId

def stop : State :=
  { state with
    started := false
    waiters := fun _ => none
    futures := fun id =>
      if state.registered id ∧ state.futures id = .pending then .stopped else state.futures id }

end State

def step (externals : Externals) (state : State) : Action → Option State
  | .core action =>
      (Transport.step externals state.core action).map fun core => { state with core }
  | .drain =>
      match state.core.shared.events.recv state.cursor with
      | .pending => none
      | .lagged next => some { state with cursor := next }
      | .item emission next =>
          some { state with cursor := next, ready := state.ready ++ [emission.event] }
  | .deliver =>
      match state.ready with
      | [] => none
      | event :: rest => some ({ state with ready := rest }.onCoreEvent event)
  | .connectPeer peerId =>
      if state.started then
        match NodeId.parse peerId with
        | .error _ => none
        | .ok peer =>
            some { state with
              core := state.core.call (.dial .connect peer .checkingPeer)
              calls := state.calls ++ [⟨peerId, peer, .checking⟩] }
      else none
  | .resume index wake =>
      match state.calls[index]? with
      | none => none
      | some call => state.advance index call call.stage wake
  | .stop => some state.stop

def start (localId : NodeId) (config : TransportConfig) (inboxes : Mailbox → Inbox) : State where
  core := Transport.start localId config inboxes
  started := true
  cursor := 0
  ready := []
  waiters _ := none
  futures _ := .pending
  calls := []

end LapinBeam.Connecting
