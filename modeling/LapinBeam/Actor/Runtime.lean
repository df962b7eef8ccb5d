import LapinBeam.Actor.Signals
import LapinBeam.Lib.Asyncio
import LapinBeam.Lib.Binary64

/-!
# A node, its supervisors and their event loop

The state the asyncio tasks of one `Node` share: the child records and supervisors, the mailboxes,
the tables of the node, and what the event loop knows of the tasks. Times are exact rationals, in
seconds.
-/

namespace LapinBeam.Actor

open Asyncio (TaskId Await Future Loop)

abbrev ChildId := Nat
abbrev SupervisorId := Nat
abbrev MailboxId := Nat

structure Exc where
  typeName : String
  text : String
deriving DecidableEq

def Exc.reason (exc : Exc) : String := exc.typeName ++ ": " ++ exc.text

inductive Outcome
  | returned
  | cancelled
  | raised (exc : Exc)
  /-- Raised something that is neither an `Exception` nor a `CancelledError`. -/
  | escaped (exc : Exc)
deriving DecidableEq

inductive Strategy
  | oneForOne
  | oneForAll
  | restForOne
deriving DecidableEq

structure Settings where
  strategy : Strategy := .oneForOne
  maxRestarts : Int := 3
  restartWindow : ℚ := 5
deriving DecidableEq

/-- One call of `_allow_restart`: by whose crash, when, and whether it was granted. -/
structure Decision where
  child : ChildId
  time : ℚ
  granted : Bool
deriving DecidableEq

structure Supervisor where
  settings : Settings := {}
  restartTimes : List ℚ := []
  children : List ChildId := []
  /-- Set together with the event `_given_up`. -/
  giveUpExc : Option Exc := none
  /-- Every decision so far; bookkeeping of the model only. -/
  decisions : List Decision := []

/-- `_allow_restart`: the answer, and the restart times it leaves. -/
def Supervisor.allowRestart (supervisor : Supervisor) (now : ℚ) : Bool × List ℚ :=
  let times := supervisor.restartTimes.filter fun time =>
    now - time < supervisor.settings.restartWindow
  if (times.length : Int) ≥ supervisor.settings.maxRestarts then (false, times)
  else (true, times ++ [now])

/-- `_backoff`, with `0.05` as the double it is. The power is taken before the delay is capped. -/
def Supervisor.backoff (supervisor : Supervisor) : Except Exc ℚ :=
  match Binary64.ofNat (2 ^ supervisor.restartTimes.length) with
  | none => .error ⟨"OverflowError", "int too large to convert to float"⟩
  | some power => .ok (min (Binary64.mul power (3602879701896397 / 2 ^ 56)) 1)

/-- `_affected_children`; `none` when the crashed child is not in the list. -/
def Supervisor.affectedChildren (supervisor : Supervisor) (child : ChildId) :
    Option (List ChildId) :=
  match supervisor.settings.strategy with
  | .oneForOne => some [child]
  | .oneForAll => some supervisor.children
  | .restForOne =>
      if child ∈ supervisor.children then some (supervisor.children.dropWhile (· ≠ child))
      else none

/-- `_ActorChild` has a mailbox, `_SupervisorChild` the settings of the supervisor it builds. -/
inductive ChildKind
  | actor (mailbox : MailboxId)
  | supervisor (settings : Settings)
deriving DecidableEq

structure Child where
  supervisor : SupervisorId := 0
  name : String := ""
  kind : ChildKind := .actor 0
  task : TaskId := 0
  driver : Option TaskId := none
  pendingExit : Option Exc := none
  nested : SupervisorId := 0
deriving DecidableEq

def Child.mailbox (child : Child) : Option MailboxId :=
  match child.kind with
  | .actor mailbox => some mailbox
  | .supervisor _ => none

/-- An `asyncio.Queue`, with everything that was ever put into it or taken out of it. -/
structure Mailbox where
  maxsize : Nat := 0
  queue : List Message := []
  accepted : List Message := []
  dequeued : List Message := []
deriving DecidableEq

def Mailbox.full (mailbox : Mailbox) : Bool :=
  0 < mailbox.maxsize && mailbox.maxsize ≤ mailbox.queue.length

def Mailbox.put (mailbox : Mailbox) (msg : Message) : Mailbox :=
  { mailbox with queue := mailbox.queue ++ [msg], accepted := mailbox.accepted ++ [msg] }

def Mailbox.take (mailbox : Mailbox) : Mailbox :=
  { mailbox with
    queue := mailbox.queue.tail
    dequeued := mailbox.dequeued ++ mailbox.queue.head?.toList }

inductive Event
  | supervisorGaveUp (actor detail : String)
  | mailboxFull (actor : String)
deriving DecidableEq

structure Runtime where
  localId : String
  mailboxCapacity : Option Nat
  loop : Loop Outcome
  running : Option TaskId
  nextTask : TaskId
  children : ChildId → Child
  nextChild : ChildId
  supervisors : SupervisorId → Supervisor
  nextSupervisor : SupervisorId
  mailboxes : MailboxId → Mailbox
  started : Bool
  names : String → Option MailboxId
  liveChildren : String → Option ChildId
  signals : Signals
  /-- `_actor_tasks`, tasks that are done included. -/
  actorTasks : List TaskId
  /-- The tasks `stop()` waits for. -/
  stopping : Option (List TaskId)
  /-- The last reading of `time.monotonic()`. -/
  clock : ℚ
  events : List Event
  outbox : List (String × PeerMessage)

namespace Runtime

def start (localId : String) (mailboxCapacity : Option Nat) : Runtime where
  localId := localId
  mailboxCapacity := mailboxCapacity
  loop _ := ⟨.outside, false⟩
  running := none
  nextTask := 1
  children _ := {}
  nextChild := 0
  supervisors _ := {}
  nextSupervisor := 0
  mailboxes _ := {}
  started := true
  names _ := none
  liveChildren _ := none
  signals := {}
  actorTasks := []
  stopping := none
  clock := 0
  events := []
  outbox := []

variable (runtime : Runtime)

def setChild (id : ChildId) (child : Child) : Runtime :=
  { runtime with children := Function.update runtime.children id child }

def setSupervisor (id : SupervisorId) (supervisor : Supervisor) : Runtime :=
  { runtime with supervisors := Function.update runtime.supervisors id supervisor }

def supervisorOf (child : ChildId) : Supervisor :=
  runtime.supervisors (runtime.children child).supervisor

def isDone (task : TaskId) : Bool := (runtime.loop task).isDone

def cancel (task : TaskId) : Runtime :=
  { runtime with loop := runtime.loop.cancel runtime.nextTask task }

/-- `register_actor` fails on a node that is not started, and on a name that belongs to another mailbox. -/
def registerError (name : String) (mailbox : MailboxId) : Option Exc :=
  if !runtime.started then some ⟨"RuntimeError", "node has not been started"⟩
  else
    match runtime.names name with
    | none => none
    | some existing =>
        if existing = mailbox then none
        else some ⟨"ValueError",
          "actor name '" ++ name ++ "' is already registered on this node"⟩

def registerActor (name : String) (mailbox : MailboxId) : Runtime :=
  { runtime with names := Function.update runtime.names name (some mailbox) }

def unregisterActor (name : String) : Runtime :=
  { runtime with names := Function.update runtime.names name none }

/-- `_send_local`, to a name nobody has registered included. -/
def sendLocal (name : String) (msg : Message) : Runtime :=
  match runtime.names name with
  | none => runtime
  | some mailbox =>
      if (runtime.mailboxes mailbox).full then
        { runtime with events := runtime.events ++ [.mailboxFull name] }
      else
        { runtime with
          mailboxes := Function.update runtime.mailboxes mailbox
            ((runtime.mailboxes mailbox).put msg) }

def kill (child : ChildId) (driver : TaskId) (exc : Exc) : Runtime :=
  (runtime.setChild child { runtime.children child with pendingExit := some exc }).cancel driver

/-- The child whose generation `_deliver_exit` would kill, with its driver. -/
def victim (target : String) : Option (ChildId × TaskId) :=
  if runtime.signals.trapExit target then none
  else
    match runtime.liveChildren target with
    | none => none
    | some child =>
        match (runtime.children child).driver with
        | none => none
        | some driver => if runtime.isDone driver then none else some (child, driver)

def deliverExit (fromLabel target reason : String) : Runtime :=
  if runtime.signals.trapExit target then runtime.sendLocal target (.exit fromLabel reason)
  else
    match runtime.victim target with
    | none => runtime
    | some (child, driver) =>
        runtime.kill child driver
          ⟨"RuntimeError", "linked actor '" ++ fromLabel ++ "' exited: " ++ reason⟩

def deliverDown (ref : Ref) (actorLabel reason : String) : Runtime :=
  match runtime.signals.monitors ref with
  | none => runtime
  | some monitor =>
      { runtime with signals := runtime.signals.popMonitor ref }.sendLocal monitor.watcher
        (.down ref actorLabel reason)

def post (peer : String) (msg : PeerMessage) : Runtime :=
  { runtime with outbox := runtime.outbox ++ [(peer, msg)] }

def deliver : Delivery → Runtime
  | .exit source target reason => runtime.deliverExit source target reason
  | .down ref actor reason => runtime.deliverDown ref actor reason
  | .remoteExit peer target actor reason =>
      runtime.post peer (.exit target actor reason runtime.localId)
  | .remoteDown peer ref actor reason =>
      runtime.post peer (.down ref actor reason runtime.localId)

/-! ### `lapinbeam.links` and `lapinbeam.monitors` -/

/-- `link(other)`, called by the actor named `me`. -/
def link (me : String) (other : Address) : Runtime :=
  let signals := runtime.signals.addLink me other
  match other.node with
  | none =>
      let linked := { runtime with signals := signals.addLink other.name ⟨none, me⟩ }
      match runtime.names other.name with
      | none => linked.deliverExit other.name me "noproc"
      | some _ => linked
  | some peer => { runtime with signals }.post peer (.link me other.name runtime.localId)

def unlink (me : String) (other : Address) : Runtime :=
  let signals := runtime.signals.dropLink me other
  match other.node with
  | none => { runtime with signals := signals.dropLink other.name ⟨none, me⟩ }
  | some peer => { runtime with signals }.post peer (.unlink me other.name runtime.localId)

/-- `monitor(other)`, called by the actor named `me`, with a new reference. -/
def monitor (me : String) (other : Address) (ref : Ref) : Runtime :=
  let signals := runtime.signals.addMonitor ref ⟨me, other⟩
  match other.node with
  | none =>
      let watching := { runtime with signals := signals.addWatcher other.name ref ⟨none, me⟩ }
      match runtime.names other.name with
      | none => watching.deliverDown ref other.name "noproc"
      | some _ => watching
  | some peer => { runtime with signals }.post peer (.monitor ref me runtime.localId other.name)

def demonitor (ref : Ref) : Runtime :=
  match runtime.signals.monitors ref with
  | none => runtime
  | some monitor =>
      let signals := runtime.signals.popMonitor ref
      match monitor.target.node with
      | none => { runtime with signals := signals.dropWatcher monitor.target.name ref }
      | some peer => { runtime with signals }.post peer (.demonitor ref monitor.target.name)

/-- What the reserved link and monitor actors do with a message of another node. -/
def receive : PeerMessage → Runtime
  | .link source target fromNode =>
      let linked := { runtime with
        signals := runtime.signals.addLink target ⟨some fromNode, source⟩ }
      match runtime.names target with
      | none => linked.post fromNode (.exit source target "noproc" runtime.localId)
      | some _ => linked
  | .unlink source target fromNode =>
      { runtime with signals := runtime.signals.dropLink target ⟨some fromNode, source⟩ }
  | .exit target actor reason fromNode =>
      runtime.deliverExit (fromNode ++ "/" ++ actor) target reason
  | .monitor ref watcher watcherNode target =>
      let watching := { runtime with
        signals := runtime.signals.addWatcher target ref ⟨some watcherNode, watcher⟩ }
      match runtime.names target with
      | none => watching.post watcherNode (.down ref target "noproc" runtime.localId)
      | some _ => watching
  | .demonitor ref target =>
      { runtime with signals := runtime.signals.dropWatcher target ref }
  | .down ref actor reason fromNode =>
      runtime.deliverDown ref (fromNode ++ "/" ++ actor) reason

end Runtime

end LapinBeam.Actor
