import LapinBeam.Actor.Runtime
import LapinBeam.Py.Bridge

/-!
# A pool of workers

What `_spawn_pool` sets up: a dispatcher that puts every message it receives into the queue the
workers share, or, given `key=`, into the queue of one of them, and workers that take messages out
and run the handler on each. The dispatcher captures `current_message()` together with the message,
and the worker binds it again while it is at work on it.

The dispatcher and the workers take their steps in any order. What `key`, the handler and an
executor do is input; only a worker's cancellation is left out. The trace is bookkeeping of the
model and tells what became of every message.
-/

namespace LapinBeam

open Bridge (MessageMeta)
open Actor (Exc)

namespace Pool

inductive Handler (Msg : Type)
  | function
  /-- An `@actor` class, and whether it has a handler for a message. -/
  | actorClass (dispatches : Msg → Bool)
  | executor

structure Settings (Msg Key : Type) where
  name : String
  /-- The texts Python computes: `repr(name)`, and that of the `TypeError` for a message an `@actor` class has no handler for. -/
  reprName : String
  noHandler : Msg → String
  nWorkers : Nat
  nWorkers_pos : 0 < nWorkers
  queueCapacity : Option Int := none
  handler : Handler Msg := .function
  /-- With `key=`, the hash of a key. As Python requires, equal keys have equal hashes. -/
  hash : Option (Key → Except Exc Int) := none

inductive EventKind
  | poolQueueFull
  | poolWorkerError
deriving DecidableEq

structure Event where
  kind : EventKind
  pool : String
  detail : String
deriving DecidableEq

variable {Msg Key : Type}

namespace Settings

variable (settings : Settings Msg Key)

def maxsize : Int := settings.queueCapacity.getD 0

/-- `queues[hash % n_workers]`. -/
def shard (hash : Int) : Fin settings.nWorkers :=
  ⟨(hash % settings.nWorkers).toNat, by
    have hpos : (0 : Int) < settings.nWorkers := Int.natCast_pos.mpr settings.nWorkers_pos
    exact (Int.toNat_lt (Int.emod_nonneg _ hpos.ne')).mpr (Int.emod_lt_of_pos _ hpos)⟩

def shared : Fin settings.nWorkers := ⟨0, settings.nWorkers_pos⟩

def workerQueue (worker : Fin settings.nWorkers) : Fin settings.nWorkers :=
  if settings.hash.isSome then worker else settings.shared

def queueFull : Event :=
  ⟨.poolQueueFull, settings.name, "pool " ++ settings.reprName ++ "'s queue is full (capacity=" ++
    toString settings.maxsize ++ ")"⟩

def keyRaised (exc : Exc) : Event :=
  ⟨.poolWorkerError, settings.name, "key() raised " ++ exc.reason⟩

def handlerRaised (exc : Exc) : Event := ⟨.poolWorkerError, settings.name, exc.reason⟩

end Settings

/-- A message as the dispatcher has received it. The number, which message it was, and the key are bookkeeping. -/
structure Item (Msg Key : Type) where
  number : Nat
  msg : Msg
  info : Option MessageMeta
  key : Option Key
deriving DecidableEq

structure Job (Msg Key : Type) where
  item : Item Msg Key
  /-- What `current_message_var.set` has returned. -/
  token : Option MessageMeta
  /-- What `current_message()` is inside the handler, once that has been called. -/
  seen : Option (Option MessageMeta)

inductive Stage (Msg Key : Type)
  | starting
  | getting
  | submitting (job : Job Msg Key)
  | handling (job : Job Msg Key)
  | replying (job : Job Msg Key)
  /-- Something other than an `Exception` has ended the loop. -/
  | exited (job : Job Msg Key)

structure Worker (Msg Key : Type) where
  current : Option MessageMeta
  stage : Stage Msg Key

inductive Entry (Msg Key : Type) (nWorkers : Nat)
  | reported (item : Item Msg Key) (event : Event)
  /-- Something other than an `Exception` came out of `key`, which ends the dispatcher. -/
  | aborted (item : Item Msg Key)
  | put (queue : Fin nWorkers) (item : Item Msg Key)
  | took (worker : Fin nWorkers) (item : Item Msg Key) (current : Option MessageMeta)
  /-- The handler is called, and `current_message()` is as given. -/
  | called (worker : Fin nWorkers) (item : Item Msg Key) (current : Option MessageMeta)
  | failed (worker : Fin nWorkers) (item : Item Msg Key) (event : Event)
  | ended (worker : Fin nWorkers) (item : Item Msg Key)
deriving DecidableEq

inductive Keying (Key : Type)
  | value (key : Key)
  | raised (exc : Exc)
  | aborted

inductive Input
  | start (info : Option MessageMeta)
  | get
  /-- The executor calls the handler, in a context of its own. -/
  | call (current : Option MessageMeta)
  | returned
  | raised (exc : Exc)
  | exit

inductive Action (Msg Key : Type) (nWorkers : Nat)
  | receive (msg : Msg) (info : Option MessageMeta) (keying : Keying Key)
  | work (worker : Fin nWorkers) (input : Input)

end Pool

open Pool in
structure Pool {Msg Key : Type} (settings : Settings Msg Key) where
  queues : Fin settings.nWorkers → List (Item Msg Key) := fun _ => []
  workers : Fin settings.nWorkers → Worker Msg Key := fun _ => ⟨none, .starting⟩
  dispatching : Bool := true
  received : List (Item Msg Key) := []
  trace : List (Entry Msg Key settings.nWorkers) := []

namespace Pool

variable {Msg Key : Type} {settings : Settings Msg Key}

section Dispatcher

variable (pool : Pool settings)

def full (queue : Fin settings.nWorkers) : Bool :=
  0 < settings.maxsize && settings.maxsize ≤ (pool.queues queue).length

def report (item : Item Msg Key) (event : Event) : Pool settings :=
  { pool with
    received := pool.received ++ [item]
    trace := pool.trace ++ [.reported item event] }

def putNowait (queue : Fin settings.nWorkers) (item : Item Msg Key) : Pool settings :=
  if pool.full queue then pool.report item settings.queueFull
  else
    { pool with
      queues := Function.update pool.queues queue (pool.queues queue ++ [item])
      received := pool.received ++ [item]
      trace := pool.trace ++ [.put queue item] }

/-- `_Dispatcher.receive`, which does not await anything. -/
def receive (msg : Msg) (info : Option MessageMeta) (keying : Keying Key) : Pool settings :=
  let item (key : Option Key) : Item Msg Key := ⟨pool.received.length, msg, info, key⟩
  match settings.hash with
  | none => pool.putNowait settings.shared (item none)
  | some hash =>
      match keying with
      | .aborted =>
          { pool with
            dispatching := false
            received := pool.received ++ [item none]
            trace := pool.trace ++ [.aborted (item none)] }
      | .raised exc => pool.report (item none) (settings.keyRaised exc)
      | .value key =>
          match hash key with
          | .error exc => pool.report (item (some key)) (settings.keyRaised exc)
          | .ok value => pool.putNowait (settings.shard value) (item (some key))

end Dispatcher

section Worker

variable (pool : Pool settings) (index : Fin settings.nWorkers)

def setWorker (worker : Worker Msg Key) : Pool settings :=
  { pool with workers := Function.update pool.workers index worker }

def record (entries : List (Entry Msg Key settings.nWorkers)) : Pool settings :=
  { pool with trace := pool.trace ++ entries }

/-- The `finally` of one message: the binding is taken back, and the loop goes on. -/
def finish (job : Job Msg Key) : Pool settings :=
  (pool.setWorker index ⟨job.token, .getting⟩).record [.ended index job.item]

def fail (job : Job Msg Key) (exc : Exc) : Pool settings :=
  (pool.record [.failed index job.item (settings.handlerRaised exc)]).finish index job

/-- The handler is called, or the message handed to the executor. -/
def dispatch (job : Job Msg Key) : Pool settings :=
  let call := { job with seen := some job.item.info }
  let called := (pool.record [.called index job.item job.item.info]).setWorker index
    ⟨job.item.info, .handling call⟩
  match settings.handler with
  | .function => called
  | .actorClass dispatches =>
      if dispatches job.item.msg then called
      else pool.fail index job ⟨"TypeError", settings.noHandler job.item.msg⟩
  | .executor => pool.setWorker index ⟨job.item.info, .submitting job⟩

def work : Input → Option (Pool settings)
  | .start info =>
      match (pool.workers index).stage with
      | .starting => some (pool.setWorker index ⟨info, .getting⟩)
      | _ => none
  | .get =>
      match (pool.workers index).stage, pool.queues (settings.workerQueue index) with
      | .getting, item :: rest =>
          let taken := { pool with
            queues := Function.update pool.queues (settings.workerQueue index) rest }
          some ((taken.record [.took index item item.info]).dispatch index
            ⟨item, (pool.workers index).current, none⟩)
      | _, _ => none
  | .call current =>
      match (pool.workers index).stage with
      | .submitting job =>
          some ((pool.record [.called index job.item current]).setWorker index
            ⟨job.item.info, .handling { job with seen := some current }⟩)
      | _ => none
  | .returned =>
      match (pool.workers index).stage with
      | .handling job =>
          match settings.handler, job.item.info.bind MessageMeta.replyTo with
          | .executor, some _ => some (pool.setWorker index ⟨job.item.info, .replying job⟩)
          | _, _ => some (pool.finish index job)
      | .replying job => some (pool.finish index job)
      | _ => none
  | .raised exc =>
      match (pool.workers index).stage with
      | .submitting job | .handling job | .replying job => some (pool.fail index job exc)
      | _ => none
  | .exit =>
      match (pool.workers index).stage with
      | .submitting job | .handling job | .replying job =>
          some (pool.setWorker index ⟨job.token, .exited job⟩)
      | _ => none

end Worker

def step (pool : Pool settings) : Action Msg Key settings.nWorkers → Option (Pool settings)
  | .receive msg info keying =>
      if pool.dispatching then some (pool.receive msg info keying) else none
  | .work index input => pool.work index input

end Pool

end LapinBeam
