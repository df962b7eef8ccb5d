import LapinBeam.Actor.Task

/-!
# Pool workers as children of a supervisor

To its supervisor a worker of a pool is an actor like any other. What it does is in its `receive`:
the first message it gets, whatever it is, takes it into the loop over the pool's queue. The loop
catches and reports an `Exception` of the pool's handler. What ends it is a `CancelledError`, thrown
into the task or raised by the handler, anything else that is not an `Exception`, or a report that
raises; on the way out it shuts down the executor its pool may have.

`_spawn_pool` spawns a worker and sends it its start message without giving up control in between.
-/

namespace LapinBeam.Actor

open Asyncio (TaskId)

abbrev PoolId := Nat

def startMessage : Message := .user "start"

/-- A node with its pools: the workers spawned so far, and the pools whose executor a worker has shut down. -/
structure PoolNode where
  node : System
  workers : List (ChildId × PoolId) := []
  shut : List PoolId := []

namespace PoolNode

/-- The pool of the worker that this task is the driver of, while it is in `receive`. -/
def serving (state : PoolNode) (id : TaskId) : Option PoolId :=
  match state.node.tasks[id]? with
  | some ⟨_, .driver child _ (.handling _)⟩ => state.workers.lookup child
  | _ => none

inductive Action
  | act (id : TaskId) (input : Input)
  | spawnWorker (pool : PoolId) (supervisor : SupervisorId) (name : String)

/-- How the loop of a worker can end. -/
def leaves : Input → Bool
  | .unwound | .escaped _ | .raised _ => true
  | _ => false

def step (state : PoolNode) : Action → Option PoolNode
  | .act id input =>
      match state.serving id with
      | none => (Actor.step state.node (.resume id input)).map fun node => { state with node }
      | some pool =>
          if leaves input then
            (Actor.step state.node (.resume id input)).map fun node =>
              { state with node, shut := pool :: state.shut }
          else none
  | .spawnWorker pool supervisor name =>
      (Actor.step state.node (.resume 0 (.call (.spawn supervisor name)))).bind fun spawned =>
        (Actor.step spawned (.resume 0 (.call (.sendLocal name startMessage)))).map fun node =>
          { state with
            node, workers := (state.node.shared.nextChild, pool) :: state.workers }

end PoolNode

end LapinBeam.Actor
