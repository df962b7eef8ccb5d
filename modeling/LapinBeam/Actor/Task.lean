import LapinBeam.Actor.Runtime
import LapinBeam.Lib.TaskSystem

/-!
# The tasks of a supervised node

`_run_actor_child` and `_run_supervisor_child` are the tasks of the children, `_drive` is the driver
of one generation of an actor; signals are delivered by tasks of their own, and everything else that
calls into the node (handlers and applications) is the outside, task 0.

asyncio is cooperative: a task that runs goes on until it awaits something. Here a task runs in
short steps, and as long as it has not come to an `await` no other task is resumed. What a handler
does in between is not looked into: when it is cancelled it may still go on, return, or raise.
-/

namespace LapinBeam.Actor

open Asyncio (TaskId Await)

/-- A crash on its way through `_handle_child_crash`. -/
structure Crash where
  exc : Exc
  obituary : Obituary := {}
deriving DecidableEq

inductive ChildStage
  /-- The top of the loop; `fresh` before the first step of the task. -/
  | attempting (fresh : Bool)
  /-- In `await child.driver`. -/
  | driving (driver : TaskId)
  | budgeting (crash : Crash)
  /-- In `asyncio.sleep(self._backoff())`. -/
  | backingOff (crash : Crash)
  | exhausted (crash : Crash)
  | tearing (crash : Crash) (siblings rest : List ChildId)
  /-- In the `await child.task` of `_teardown_sibling`. -/
  | awaiting (crash : Crash) (siblings rest : List ChildId) (task : TaskId)
  | respawning (rest : List ChildId)
  | cancelling (crash : Crash) (rest tasks : List TaskId)
  /-- In the `gather` of `_shutdown_except`. -/
  | gathering (crash : Crash) (tasks : List TaskId)
  | notifying (obituary : Obituary) (reason : String) (outcome : Outcome)
  | building
  | waiting
  | closing (rest tasks : List TaskId)
  /-- In the `gather` of the nested supervisor's `shutdown`. -/
  | draining (tasks : List TaskId)
  | finished (outcome : Outcome)
deriving DecidableEq

def ChildStage.await : ChildStage → Await Outcome
  | .attempting fresh => if fresh then .outside else .running
  | .driving driver => .task driver
  | .backingOff _ | .building | .waiting => .outside
  | .awaiting _ _ _ task => .task task
  | .gathering _ tasks | .draining tasks => .gather tasks
  | .finished outcome => .done outcome
  | _ => .running

inductive DriverStage
  | created
  | getting
  | handling (msg : Message)
  | finished (outcome : Outcome)
deriving DecidableEq

def DriverStage.await : DriverStage → Await Outcome
  | .finished outcome => .done outcome
  | _ => .outside

inductive Frame
  | child (id : ChildId) (stage : ChildStage)
  | driver (child : ChildId) (mailbox : MailboxId) (stage : DriverStage)
  | delivery (delivery : Delivery)
  | delivered (delivery : Delivery)
  /-- Task 0, with the tasks a call is still about to cancel. -/
  | outside (rest : List TaskId)
deriving DecidableEq

def Frame.await : Frame → Await Outcome
  | .child _ stage => stage.await
  | .driver _ _ stage => stage.await
  | .delivery _ => .outside
  | .delivered _ => .done .returned
  | .outside rest => if rest = [] then .outside else .running

structure Task where
  id : TaskId
  frame : Frame
deriving DecidableEq

/-- What applications and handlers do. The name of the calling actor is that of the child whose context it is. -/
inductive Call
  | newSupervisor (settings : Settings)
  | spawn (supervisor : SupervisorId) (name : String)
  | spawnSupervisor (supervisor : SupervisorId) (name : String) (settings : Settings)
  | sendLocal (name : String) (msg : Message)
  | shutdown (supervisor : SupervisorId)
  | stop
  /-- `stop()` goes on once everything it waits for is done. -/
  | stopped
  /-- `ActorRef.task.cancel()`, and `SupervisorRef`'s. -/
  | cancelTask (child : ChildId)
  | trapExit (me : ChildId) (enabled : Bool)
  | link (me : ChildId) (other : Address)
  | unlink (me : ChildId) (other : Address)
  | monitor (me : ChildId) (other : Address) (ref : Ref)
  | demonitor (ref : Ref)
  | receive (msg : PeerMessage)
  | disconnected (peer : String)
deriving DecidableEq

inductive Input
  | go
  | constructed (raised : Option Exc)
  | clock (now : ℚ)
  /-- A handler or a `build` returns, raises an `Exception`, a `CancelledError`, or anything else. -/
  | returned
  | raised (exc : Exc)
  | unwound
  | escaped (exc : Exc)
  | call (call : Call)
deriving DecidableEq

/-! ### Changes to the shared state -/

inductive Effect
  | skip
  | cancel (task : TaskId)
  | launch (child : ChildId) (mailbox : MailboxId) (driver : TaskId)
  /-- The cleanup at the end of a generation; the `CancelledError` branch also takes `pending_exit`. -/
  | cleanup (child : ChildId) (takeExit : Bool)
  | decide (child : ChildId) (now : ℚ)
  | denied (child : ChildId) (exc : Exc)
  | giveUp (child : ChildId) (exc : Exc)
  | discard (child : ChildId)
  | respawn (child : ChildId) (task : TaskId)
  | nest (child : ChildId)
  | dequeue (mailbox : MailboxId)
  | deliver (delivery : Delivery)
  | newSupervisor (settings : Settings)
  | spawn (supervisor : SupervisorId) (name : String) (kind : ChildKind)
  | sendLocal (name : String) (msg : Message)
  | stop
  | stopped
  | trapExit (me : String) (enabled : Bool)
  | link (me : String) (other : Address)
  | unlink (me : String) (other : Address)
  | monitor (me : String) (other : Address) (ref : Ref)
  | demonitor (ref : Ref)
  | receive (msg : PeerMessage)
  | forgetPeer (peer : String)
deriving DecidableEq

namespace Runtime

variable (runtime : Runtime)

/-- The rest of an attempt once the instance is constructed, up to `await child.driver`. -/
def launch (child : ChildId) (mailbox : MailboxId) (driver : TaskId) : Runtime :=
  let name := (runtime.children child).name
  { (runtime.registerActor name mailbox).setChild child
      { runtime.children child with driver := some driver } with
    liveChildren := Function.update runtime.liveChildren name (some child) }

def cleanup (child : ChildId) (takeExit : Bool) : Runtime :=
  let name := (runtime.children child).name
  let cleaned := { runtime.unregisterActor name with
    liveChildren := Function.update runtime.liveChildren name none
    signals := runtime.signals.clear name }
  if takeExit then
    cleaned.setChild child { runtime.children child with pendingExit := none }
  else cleaned

def updateSupervisorOf (child : ChildId) (update : Supervisor → Supervisor) : Runtime :=
  runtime.setSupervisor (runtime.children child).supervisor (update (runtime.supervisorOf child))

/-- `_allow_restart` on the supervisor of a crashed child. -/
def decideRestart (child : ChildId) (now : ℚ) : Runtime :=
  { runtime.updateSupervisorOf child fun supervisor =>
      let (granted, restartTimes) := supervisor.allowRestart now
      { supervisor with
        restartTimes, decisions := supervisor.decisions ++ [⟨child, now, granted⟩] } with
    clock := now }

def giveUp (child : ChildId) (exc : Exc) : Runtime :=
  runtime.updateSupervisorOf child fun supervisor =>
    { supervisor with giveUpExc := some exc }

def discardChild (child : ChildId) : Runtime :=
  runtime.updateSupervisorOf child fun supervisor =>
    { supervisor with children := supervisor.children.erase child }

/-- The exhausted budget is reported; under `one_for_one` only the exhausted child goes, and the supervisor with its last child. -/
def denied (child : ChildId) (exc : Exc) : Runtime :=
  let reported := { runtime with
    events := runtime.events ++ [.supervisorGaveUp (runtime.children child).name exc.reason] }
  match (runtime.supervisorOf child).settings.strategy with
  | .oneForOne =>
      let discarded := reported.discardChild child
      if (discarded.supervisorOf child).children = [] then discarded.giveUp child exc
      else discarded
  | _ => reported

def respawn (child : ChildId) (task : TaskId) : Runtime :=
  let record := runtime.children child
  { runtime.setChild child
      { record with
        task
        driver := match record.kind with
          | .actor _ => none
          | .supervisor _ => record.driver } with
    actorTasks := task :: runtime.actorTasks }

def nest (child : ChildId) : Runtime :=
  let settings :=
    match (runtime.children child).kind with
    | .supervisor settings => settings
    | .actor _ => {}
  { (runtime.setSupervisor runtime.nextSupervisor { settings }).setChild child
      { runtime.children child with nested := runtime.nextSupervisor } with
    nextSupervisor := runtime.nextSupervisor + 1 }

/-- The record of a spawned child, its place among its supervisor's children and its task. A new actor has the mailbox named after it. -/
def spawn (supervisor : SupervisorId) (name : String) (kind : ChildKind) : Runtime :=
  let child := runtime.nextChild
  let owner := runtime.supervisors supervisor
  let spawned := { (runtime.setSupervisor supervisor
        { owner with children := owner.children ++ [child] }).setChild child
      { supervisor, name, kind, task := runtime.nextTask } with
    nextChild := child + 1
    actorTasks := runtime.nextTask :: runtime.actorTasks }
  match kind with
  | .actor mailbox =>
      { spawned.registerActor name mailbox with
        mailboxes := Function.update runtime.mailboxes mailbox
          { maxsize := runtime.mailboxCapacity.getD 0 } }
  | .supervisor _ => spawned

end Runtime

def Effect.apply (runtime : Runtime) : Effect → Runtime
  | .skip => runtime
  | .cancel task => runtime.cancel task
  | .launch child mailbox driver => runtime.launch child mailbox driver
  | .cleanup child takeExit => runtime.cleanup child takeExit
  | .decide child now => runtime.decideRestart child now
  | .denied child exc => runtime.denied child exc
  | .giveUp child exc => runtime.giveUp child exc
  | .discard child => runtime.discardChild child
  | .respawn child task => runtime.respawn child task
  | .nest child => runtime.nest child
  | .dequeue mailbox =>
      { runtime with
        mailboxes := Function.update runtime.mailboxes mailbox (runtime.mailboxes mailbox).take }
  | .deliver delivery => runtime.deliver delivery
  | .newSupervisor settings =>
      { runtime.setSupervisor runtime.nextSupervisor { settings } with
        nextSupervisor := runtime.nextSupervisor + 1 }
  | .spawn supervisor name kind => runtime.spawn supervisor name kind
  | .sendLocal name msg => runtime.sendLocal name msg
  | .stop => { runtime with stopping := some runtime.actorTasks }
  | .stopped => { runtime with started := false, names := fun _ => none, stopping := none }
  | .trapExit me enabled => { runtime with signals := runtime.signals.setTrapExit me enabled }
  | .link me other => runtime.link me other
  | .unlink me other => runtime.unlink me other
  | .monitor me other ref => runtime.monitor me other ref
  | .demonitor ref => runtime.demonitor ref
  | .receive msg => runtime.receive msg
  | .forgetPeer peer => { runtime with signals := runtime.signals.forgetPeer peer }

/-! ### Steps of the tasks -/

/-- A step of a task: what it changes, where it comes to, and the tasks it creates. -/
structure Move where
  effect : Effect
  frame : Frame
  spawned : List Frame := []

namespace Runtime

variable (runtime : Runtime)

/-- Whether `CancelledError` is thrown into the task when it resumes. -/
def cancelled (task : TaskId) : Bool := (runtime.loop task).mustCancel

def outcomeOf (task : TaskId) : Outcome :=
  match (runtime.loop task).await with
  | .done outcome => outcome
  | _ => .returned

/-- The task is at the next `await`, or done; a pending cancellation has been thrown. -/
def commit (task : TaskId) (frame : Frame) : Runtime :=
  { runtime with
    loop := Function.update runtime.loop task ⟨frame.await, false⟩
    running := match frame.await with
      | .running => some task
      | _ => none }

def enroll (count : Nat) : Runtime :=
  { runtime with
    loop := fun task =>
      if runtime.nextTask ≤ task then ⟨.outside, false⟩ else runtime.loop task
    nextTask := runtime.nextTask + count }

def tasksOf (children : List ChildId) : List TaskId :=
  children.map fun child => (runtime.children child).task

/-- The tasks of the children of the supervisor a supervisor child has built. -/
def nestedTasks (child : ChildId) : List TaskId :=
  runtime.tasksOf (runtime.supervisors (runtime.children child).nested).children

def resumable (task : TaskId) : Bool :=
  (runtime.running = none || runtime.running = some task) && runtime.loop.ready task

end Runtime

/-- An attempt to start a generation has failed, or the generation has ended in a crash. -/
def Move.crash (runtime : Runtime) (child : ChildId) (exc : Exc) : Move :=
  ⟨.cleanup child false,
    .child child (.budgeting ⟨exc, runtime.signals.obituary (runtime.children child).name⟩), []⟩

/-- The `CancelledError` branch of `_run_actor_child`, up to the first wait. -/
def Move.unwind (runtime : Runtime) (child : ChildId) : Move :=
  let record := runtime.children child
  let obituary := runtime.signals.obituary record.name
  match record.pendingExit with
  | some exc => ⟨.cleanup child true, .child child (.budgeting ⟨exc, obituary⟩), []⟩
  | none => ⟨.cleanup child true, .child child (.notifying obituary "shutdown" .cancelled), []⟩

/-- Neither `except` of a child's loop catches it: the task ends and nothing is cleaned up. -/
def Move.escape (child : ChildId) (exc : Exc) : Move :=
  ⟨.skip, .child child (.finished (.escaped exc)), []⟩

/-- `_run_actor_child` and `_run_supervisor_child`, with `_handle_child_crash` between two rounds. -/
def ChildStage.move (runtime : Runtime) (self : TaskId) (child : ChildId) :
    ChildStage → Input → Option Move
  | .attempting fresh, input =>
      if fresh && runtime.cancelled self then
        some ⟨.skip, .child child (.finished .cancelled), []⟩
      else
        match (runtime.children child).kind, input with
        | .actor _, .constructed (some exc) => some (.crash runtime child exc)
        | .actor _, .unwound => some (.unwind runtime child)
        | .actor _, .escaped exc => some (.escape child exc)
        | .actor mailbox, .constructed none =>
            match runtime.registerError (runtime.children child).name mailbox with
            | some exc => some (.crash runtime child exc)
            | none =>
                some ⟨.launch child mailbox runtime.nextTask,
                  .child child (.driving runtime.nextTask), [.driver child mailbox .created]⟩
        | .supervisor _, .go => some ⟨.nest child, .child child .building, []⟩
        | _, _ => none
  | .driving driver, .go =>
      if runtime.cancelled self then some (.unwind runtime child)
      else
        match runtime.outcomeOf driver with
        | .cancelled => some (.unwind runtime child)
        | .raised exc => some (.crash runtime child exc)
        | .escaped exc => some (.escape child exc)
        | .returned =>
            let obituary := runtime.signals.obituary (runtime.children child).name
            some ⟨.cleanup child false,
              .child child (.notifying obituary "normal" .returned), []⟩
  | .budgeting crash, .clock now =>
      if now < runtime.clock then none
      else if ((runtime.supervisorOf child).allowRestart now).1 then
        match ((runtime.decideRestart child now).supervisorOf child).backoff with
        | .ok _ => some ⟨.decide child now, .child child (.backingOff crash), []⟩
        -- nobody catches what the backoff raises
        | .error exc => some ⟨.decide child now, .child child (.finished (.raised exc)), []⟩
      else some ⟨.decide child now, .child child (.exhausted crash), []⟩
  | .exhausted crash, .go =>
      match (runtime.supervisorOf child).settings.strategy with
      | .oneForOne =>
          some ⟨.denied child crash.exc,
            .child child (.notifying crash.obituary crash.exc.reason (.raised crash.exc)), []⟩
      | _ =>
          let tasks := runtime.tasksOf ((runtime.supervisorOf child).children.filter (· ≠ child))
          some ⟨.denied child crash.exc, .child child (.cancelling crash tasks tasks), []⟩
  -- the exception's text and the listeners of the event are not guarded against either
  | .exhausted _, .escaped exc => some (.escape child exc)
  | .cancelling crash (task :: rest) tasks, .go =>
      some ⟨.cancel task, .child child (.cancelling crash rest tasks), []⟩
  | .cancelling crash [] tasks, .go =>
      if tasks = [] then
        some ⟨.giveUp child crash.exc,
          .child child (.notifying crash.obituary crash.exc.reason (.raised crash.exc)), []⟩
      else some ⟨.skip, .child child (.gathering crash tasks), []⟩
  | .gathering crash _, .go =>
      if runtime.cancelled self then some ⟨.skip, .child child (.finished .cancelled), []⟩
      else
        some ⟨.giveUp child crash.exc,
          .child child (.notifying crash.obituary crash.exc.reason (.raised crash.exc)), []⟩
  | .backingOff crash, .go =>
      if runtime.cancelled self then some ⟨.skip, .child child (.finished .cancelled), []⟩
      else
        match (runtime.supervisorOf child).affectedChildren child with
        | none =>
            some ⟨.skip, .child child (.finished (.raised ⟨"ValueError", "not in list"⟩)), []⟩
        | some affected =>
            let siblings := affected.filter (· ≠ child)
            some ⟨.skip, .child child (.tearing crash siblings siblings), []⟩
  | .tearing crash siblings (sibling :: rest), .go =>
      let task := (runtime.children sibling).task
      if runtime.isDone task then some ⟨.skip, .child child (.tearing crash siblings rest), []⟩
      else some ⟨.cancel task, .child child (.awaiting crash siblings rest task), []⟩
  -- whatever the await raises is dropped, a cancellation of this task included
  | .awaiting crash siblings rest _, .go =>
      some ⟨.skip, .child child (.tearing crash siblings rest), []⟩
  | .tearing _ siblings [], .go => some ⟨.skip, .child child (.respawning siblings), []⟩
  | .respawning (sibling :: rest), .go =>
      some ⟨.respawn sibling runtime.nextTask, .child child (.respawning rest),
        [.child sibling (.attempting true)]⟩
  | .respawning [], .go => some ⟨.skip, .child child (.attempting false), []⟩
  | .notifying obituary reason outcome, .go =>
      some ⟨if outcome = .returned then .discard child else .skip,
        .child child (.finished outcome),
        (obituary.deliveries (runtime.children child).name reason).map .delivery⟩
  | .building, .returned => some ⟨.skip, .child child .waiting, []⟩
  | .building, .raised exc => some ⟨.skip, .child child (.budgeting ⟨exc, {}⟩), []⟩
  | .building, .unwound =>
      let tasks := runtime.nestedTasks child
      some ⟨.skip, .child child (.closing tasks tasks), []⟩
  | .building, .escaped exc => some (.escape child exc)
  | .waiting, .go =>
      if runtime.cancelled self then
        let tasks := runtime.nestedTasks child
        some ⟨.skip, .child child (.closing tasks tasks), []⟩
      else
        match (runtime.supervisors (runtime.children child).nested).giveUpExc with
        | some exc => some ⟨.skip, .child child (.budgeting ⟨exc, {}⟩), []⟩
        | none => none
  | .closing (task :: rest) tasks, .go =>
      some ⟨.cancel task, .child child (.closing rest tasks), []⟩
  | .closing [] tasks, .go =>
      if tasks = [] then some ⟨.skip, .child child (.finished .cancelled), []⟩
      else some ⟨.skip, .child child (.draining tasks), []⟩
  | .draining _, .go => some ⟨.skip, .child child (.finished .cancelled), []⟩
  | _, _ => none

/-- `_drive`. A `get()` that is cancelled takes nothing. -/
def DriverStage.move (runtime : Runtime) (self : TaskId) (child : ChildId) (mailbox : MailboxId) :
    DriverStage → Input → Option Move
  | .created, .go =>
      if runtime.cancelled self then
        some ⟨.skip, .driver child mailbox (.finished .cancelled), []⟩
      else some ⟨.skip, .driver child mailbox .getting, []⟩
  | .getting, .go =>
      if runtime.cancelled self then
        some ⟨.skip, .driver child mailbox (.finished .cancelled), []⟩
      else
        match (runtime.mailboxes mailbox).queue with
        | [] => none
        | msg :: _ => some ⟨.dequeue mailbox, .driver child mailbox (.handling msg), []⟩
  | .handling _, .returned => some ⟨.skip, .driver child mailbox .getting, []⟩
  | .handling _, .raised exc => some ⟨.skip, .driver child mailbox (.finished (.raised exc)), []⟩
  | .handling _, .unwound => some ⟨.skip, .driver child mailbox (.finished .cancelled), []⟩
  | .handling _, .escaped exc => some ⟨.skip, .driver child mailbox (.finished (.escaped exc)), []⟩
  | _, _ => none

/-- A call from outside, up to its first wait. One that raises changes nothing. -/
def Call.move (runtime : Runtime) : Call → Option Move
  | .newSupervisor settings => some ⟨.newSupervisor settings, .outside [], []⟩
  | .spawn supervisor name =>
      if supervisor < runtime.nextSupervisor ∧
          runtime.registerError name runtime.nextChild = none then
        some ⟨.spawn supervisor name (.actor runtime.nextChild), .outside [],
          [.child runtime.nextChild (.attempting true)]⟩
      else none
  | .spawnSupervisor supervisor name settings =>
      if supervisor < runtime.nextSupervisor then
        some ⟨.spawn supervisor name (.supervisor settings), .outside [],
          [.child runtime.nextChild (.attempting true)]⟩
      else none
  | .sendLocal name msg => some ⟨.sendLocal name msg, .outside [], []⟩
  | .shutdown supervisor =>
      some ⟨.skip, .outside (runtime.tasksOf (runtime.supervisors supervisor).children), []⟩
  | .stop => some ⟨.stop, .outside runtime.actorTasks, []⟩
  | .stopped =>
      match runtime.stopping with
      | some tasks =>
          if tasks.all runtime.isDone then some ⟨.stopped, .outside [], []⟩ else none
      | none => none
  | .cancelTask child =>
      if child < runtime.nextChild then
        some ⟨.skip, .outside [(runtime.children child).task], []⟩
      else none
  | .trapExit me enabled =>
      some ⟨.trapExit (runtime.children me).name enabled, .outside [], []⟩
  | .link me other => some ⟨.link (runtime.children me).name other, .outside [], []⟩
  | .unlink me other => some ⟨.unlink (runtime.children me).name other, .outside [], []⟩
  | .monitor me other ref => some ⟨.monitor (runtime.children me).name other ref, .outside [], []⟩
  | .demonitor ref => some ⟨.demonitor ref, .outside [], []⟩
  | .receive msg => some ⟨.receive msg, .outside [], []⟩
  | .disconnected peer =>
      some ⟨.forgetPeer peer, .outside [], (runtime.signals.lost peer).map .delivery⟩

def Frame.move (runtime : Runtime) (self : TaskId) : Frame → Input → Option Move
  | .child id stage, input => stage.move runtime self id input
  | .driver owner mailbox stage, input => stage.move runtime self owner mailbox input
  | .delivery signal, .go => some ⟨.deliver signal, .delivered signal, []⟩
  | .outside [], .call call => call.move runtime
  | .outside (task :: rest), .go => some ⟨.cancel task, .outside rest, []⟩
  | _, _ => none

def Move.outcome (move : Move) (runtime : Runtime) (self : TaskId) :
    TaskSystem.Outcome Runtime Task :=
  ⟨((move.effect.apply runtime).commit self move.frame).enroll move.spawned.length,
    ⟨self, move.frame⟩,
    move.spawned.mapIdx fun offset frame => ⟨runtime.nextTask + offset, frame⟩⟩

/-- All tasks of one node, in any interleaving. Calls are made by task 0. -/
def program : TaskSystem.Program Runtime Task Input where
  perform runtime task input :=
    if runtime.resumable task.id then
      (task.frame.move runtime task.id input).map fun move => move.outcome runtime task.id
    else none
  entry _ := false

abbrev System := TaskSystem.State Runtime Task

abbrev Action := TaskSystem.Action Task Input

def step : System → Action → Option System := TaskSystem.step program

def start (localId : String) (mailboxCapacity : Option Nat) : System :=
  ⟨Runtime.start localId mailboxCapacity, [⟨0, .outside []⟩]⟩

end LapinBeam.Actor
