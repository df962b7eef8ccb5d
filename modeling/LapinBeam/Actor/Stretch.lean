import LapinBeam.Actor.Task

/-!
# What a step of a supervised node can do

One constructor for each way a task can move, with what the source checks on the way. Every property
of the supervisors is proved by cases on it.
-/

namespace LapinBeam.Actor

open Asyncio (TaskId Await)

def Call.plain : Call → Bool
  | .spawn _ _ | .spawnSupervisor _ _ _ | .shutdown _ | .stop | .stopped | .cancelTask _
  | .disconnected _ => false
  | _ => true

inductive Stretch (runtime : Runtime) (self : TaskId) : Frame → Move → Prop
  -- the top of the loop
  | aborted {child} (hcancelled : runtime.cancelled self = true) :
      Stretch runtime self (.child child (.attempting true))
        ⟨.skip, .child child (.finished .cancelled), []⟩
  | failed {child fresh mailbox exc} (halone : (fresh && runtime.cancelled self) = false)
      (hkind : (runtime.children child).kind = .actor mailbox) :
      Stretch runtime self (.child child (.attempting fresh)) (.crash runtime child exc)
  | constructorKilled {child fresh mailbox exc} (halone : (fresh && runtime.cancelled self) = false)
      (hkind : (runtime.children child).kind = .actor mailbox)
      (hexit : (runtime.children child).pendingExit = some exc) :
      Stretch runtime self (.child child (.attempting fresh))
        ⟨.cleanup child true, .child child
          (.budgeting ⟨exc, runtime.signals.obituary (runtime.children child).name⟩), []⟩
  | constructorShut {child fresh mailbox} (halone : (fresh && runtime.cancelled self) = false)
      (hkind : (runtime.children child).kind = .actor mailbox)
      (hexit : (runtime.children child).pendingExit = none) :
      Stretch runtime self (.child child (.attempting fresh))
        ⟨.cleanup child true, .child child (.notifying
          (runtime.signals.obituary (runtime.children child).name) "shutdown" .cancelled), []⟩
  | constructorEscaped {child fresh exc} :
      Stretch runtime self (.child child (.attempting fresh))
        ⟨.skip, .child child (.finished (.escaped exc)), []⟩
  | launched {child fresh mailbox} (halone : (fresh && runtime.cancelled self) = false)
      (hkind : (runtime.children child).kind = .actor mailbox)
      (hfree : runtime.registerError (runtime.children child).name mailbox = none) :
      Stretch runtime self (.child child (.attempting fresh))
        ⟨.launch child mailbox runtime.nextTask, .child child (.driving runtime.nextTask),
          [.driver child mailbox .created]⟩
  | nested {child fresh settings} (halone : (fresh && runtime.cancelled self) = false)
      (hkind : (runtime.children child).kind = .supervisor settings) :
      Stretch runtime self (.child child (.attempting fresh))
        ⟨.nest child, .child child .building, []⟩
  -- the end of a generation
  | killed {child driver exc}
      (hended : runtime.cancelled self = true ∨ runtime.outcomeOf driver = .cancelled)
      (hexit : (runtime.children child).pendingExit = some exc) :
      Stretch runtime self (.child child (.driving driver))
        ⟨.cleanup child true, .child child
          (.budgeting ⟨exc, runtime.signals.obituary (runtime.children child).name⟩), []⟩
  | shut {child driver}
      (hended : runtime.cancelled self = true ∨ runtime.outcomeOf driver = .cancelled)
      (hexit : (runtime.children child).pendingExit = none) :
      Stretch runtime self (.child child (.driving driver))
        ⟨.cleanup child true, .child child (.notifying
          (runtime.signals.obituary (runtime.children child).name) "shutdown" .cancelled), []⟩
  | crashed {child driver exc} (halone : runtime.cancelled self = false)
      (hraised : runtime.outcomeOf driver = .raised exc) :
      Stretch runtime self (.child child (.driving driver)) (.crash runtime child exc)
  | escaped {child driver exc} (halone : runtime.cancelled self = false)
      (hescaped : runtime.outcomeOf driver = .escaped exc) :
      Stretch runtime self (.child child (.driving driver))
        ⟨.skip, .child child (.finished (.escaped exc)), []⟩
  | completed {child driver} (halone : runtime.cancelled self = false)
      (hreturned : runtime.outcomeOf driver = .returned) :
      Stretch runtime self (.child child (.driving driver))
        ⟨.cleanup child false, .child child (.notifying
          (runtime.signals.obituary (runtime.children child).name) "normal" .returned), []⟩
  -- _handle_child_crash
  | granted {child crash now delay} (hclock : runtime.clock ≤ now)
      (hallowed : ((runtime.supervisorOf child).allowRestart now).1 = true)
      (hdelay : ((runtime.decideRestart child now).supervisorOf child).backoff = .ok delay) :
      Stretch runtime self (.child child (.budgeting crash))
        ⟨.decide child now, .child child (.backingOff crash), []⟩
  | overflowed {child crash now exc} (hclock : runtime.clock ≤ now)
      (hallowed : ((runtime.supervisorOf child).allowRestart now).1 = true)
      (hraised : ((runtime.decideRestart child now).supervisorOf child).backoff = .error exc) :
      Stretch runtime self (.child child (.budgeting crash))
        ⟨.decide child now, .child child (.finished (.raised exc)), []⟩
  | refused {child crash now} (hclock : runtime.clock ≤ now)
      (hallowed : ((runtime.supervisorOf child).allowRestart now).1 = false) :
      Stretch runtime self (.child child (.budgeting crash))
        ⟨.decide child now, .child child (.exhausted crash), []⟩
  | giveUpAlone {child crash}
      (hstrategy : (runtime.supervisorOf child).settings.strategy = .oneForOne) :
      Stretch runtime self (.child child (.exhausted crash))
        ⟨.denied child crash.exc, .child child
          (.notifying crash.obituary crash.exc.reason (.raised crash.exc)), []⟩
  | giveUpAll {child crash tasks}
      (hstrategy : (runtime.supervisorOf child).settings.strategy ≠ .oneForOne)
      (htasks : tasks = runtime.tasksOf ((runtime.supervisorOf child).children.filter (· ≠ child)))
      :
      Stretch runtime self (.child child (.exhausted crash))
        ⟨.denied child crash.exc, .child child (.cancelling crash tasks tasks), []⟩
  | reportEscaped {child crash exc} :
      Stretch runtime self (.child child (.exhausted crash))
        ⟨.skip, .child child (.finished (.escaped exc)), []⟩
  | cancelOther {child crash task rest tasks} :
      Stretch runtime self (.child child (.cancelling crash (task :: rest) tasks))
        ⟨.cancel task, .child child (.cancelling crash rest tasks), []⟩
  | gather {child crash tasks} :
      Stretch runtime self (.child child (.cancelling crash [] tasks))
        ⟨.skip, .child child (.gathering crash tasks), []⟩
  | nobodyElse {child crash tasks} :
      Stretch runtime self (.child child (.cancelling crash [] tasks))
        ⟨.giveUp child crash.exc, .child child
          (.notifying crash.obituary crash.exc.reason (.raised crash.exc)), []⟩
  | gathered {child crash tasks} :
      Stretch runtime self (.child child (.gathering crash tasks))
        ⟨.giveUp child crash.exc, .child child
          (.notifying crash.obituary crash.exc.reason (.raised crash.exc)), []⟩
  | gatherCancelled {child crash tasks} (hcancelled : runtime.cancelled self = true) :
      Stretch runtime self (.child child (.gathering crash tasks))
        ⟨.skip, .child child (.finished .cancelled), []⟩
  | sleepCancelled {child crash} (hcancelled : runtime.cancelled self = true) :
      Stretch runtime self (.child child (.backingOff crash))
        ⟨.skip, .child child (.finished .cancelled), []⟩
  | woken {child crash affected} (halone : runtime.cancelled self = false)
      (haffected : (runtime.supervisorOf child).affectedChildren child = some affected) :
      Stretch runtime self (.child child (.backingOff crash))
        ⟨.skip, .child child
          (.tearing crash (affected.filter (· ≠ child)) (affected.filter (· ≠ child))), []⟩
  | unlisted {child crash} (haffected : (runtime.supervisorOf child).affectedChildren child = none)
      :
      Stretch runtime self (.child child (.backingOff crash))
        ⟨.skip, .child child (.finished (.raised ⟨"ValueError", "not in list"⟩)), []⟩
  | alreadyDone {child crash siblings rest sibling}
      (hdone : runtime.isDone (runtime.children sibling).task = true) :
      Stretch runtime self (.child child (.tearing crash siblings (sibling :: rest)))
        ⟨.skip, .child child (.tearing crash siblings rest), []⟩
  | tear {child crash siblings rest sibling}
      (hlive : runtime.isDone (runtime.children sibling).task = false) :
      Stretch runtime self (.child child (.tearing crash siblings (sibling :: rest)))
        ⟨.cancel (runtime.children sibling).task, .child child
          (.awaiting crash siblings rest (runtime.children sibling).task), []⟩
  | torn {child crash siblings rest task} :
      Stretch runtime self (.child child (.awaiting crash siblings rest task))
        ⟨.skip, .child child (.tearing crash siblings rest), []⟩
  | tornAll {child crash siblings} :
      Stretch runtime self (.child child (.tearing crash siblings []))
        ⟨.skip, .child child (.respawning siblings), []⟩
  | respawn {child sibling rest} :
      Stretch runtime self (.child child (.respawning (sibling :: rest)))
        ⟨.respawn sibling runtime.nextTask, .child child (.respawning rest),
          [.child sibling (.attempting true)]⟩
  | again {child} :
      Stretch runtime self (.child child (.respawning []))
        ⟨.skip, .child child (.attempting false), []⟩
  | notified {child obituary reason outcome} :
      Stretch runtime self (.child child (.notifying obituary reason outcome))
        ⟨if outcome = .returned then .discard child else .skip,
          .child child (.finished outcome),
          (obituary.deliveries (runtime.children child).name reason).map .delivery⟩
  -- a nested supervisor
  | built {child} : Stretch runtime self (.child child .building) ⟨.skip, .child child .waiting, []⟩
  | buildFailed {child exc} :
      Stretch runtime self (.child child .building) ⟨.skip, .child child (.budgeting ⟨exc, {}⟩), []⟩
  | buildCancelled {child} :
      Stretch runtime self (.child child .building)
        ⟨.skip, .child child (.closing (runtime.nestedTasks child) (runtime.nestedTasks child)), []⟩
  | buildEscaped {child exc} :
      Stretch runtime self (.child child .building)
        ⟨.skip, .child child (.finished (.escaped exc)), []⟩
  | gaveUp {child exc} (halone : runtime.cancelled self = false) :
      Stretch runtime self (.child child .waiting) ⟨.skip, .child child (.budgeting ⟨exc, {}⟩), []⟩
  | waitCancelled {child} (hcancelled : runtime.cancelled self = true) :
      Stretch runtime self (.child child .waiting)
        ⟨.skip, .child child (.closing (runtime.nestedTasks child) (runtime.nestedTasks child)), []⟩
  | closeOther {child task rest tasks} :
      Stretch runtime self (.child child (.closing (task :: rest) tasks))
        ⟨.cancel task, .child child (.closing rest tasks), []⟩
  | drain {child tasks} :
      Stretch runtime self (.child child (.closing [] tasks))
        ⟨.skip, .child child (.draining tasks), []⟩
  | nobodyNested {child tasks} :
      Stretch runtime self (.child child (.closing [] tasks))
        ⟨.skip, .child child (.finished .cancelled), []⟩
  | drained {child tasks} :
      Stretch runtime self (.child child (.draining tasks))
        ⟨.skip, .child child (.finished .cancelled), []⟩
  -- a driver
  | driverCancelled {child mailbox stage} (hstage : stage = .created ∨ stage = .getting)
      (hcancelled : runtime.cancelled self = true) :
      Stretch runtime self (.driver child mailbox stage)
        ⟨.skip, .driver child mailbox (.finished .cancelled), []⟩
  | driverStarted {child mailbox} (halone : runtime.cancelled self = false) :
      Stretch runtime self (.driver child mailbox .created)
        ⟨.skip, .driver child mailbox .getting, []⟩
  | received {child mailbox msg rest} (halone : runtime.cancelled self = false)
      (hqueue : (runtime.mailboxes mailbox).queue = msg :: rest) :
      Stretch runtime self (.driver child mailbox .getting)
        ⟨.dequeue mailbox, .driver child mailbox (.handling msg), []⟩
  | handled {child mailbox msg} :
      Stretch runtime self (.driver child mailbox (.handling msg))
        ⟨.skip, .driver child mailbox .getting, []⟩
  | driverRaised {child mailbox msg exc} :
      Stretch runtime self (.driver child mailbox (.handling msg))
        ⟨.skip, .driver child mailbox (.finished (.raised exc)), []⟩
  | unwound {child mailbox msg} :
      Stretch runtime self (.driver child mailbox (.handling msg))
        ⟨.skip, .driver child mailbox (.finished .cancelled), []⟩
  | driverEscaped {child mailbox msg exc} :
      Stretch runtime self (.driver child mailbox (.handling msg))
        ⟨.skip, .driver child mailbox (.finished (.escaped exc)), []⟩
  | delivered {signal} :
      Stretch runtime self (.delivery signal) ⟨.deliver signal, .delivered signal, []⟩
  -- the outside
  | cancelNext {task rest} :
      Stretch runtime self (.outside (task :: rest)) ⟨.cancel task, .outside rest, []⟩
  | spawned {supervisor name} (hfree : runtime.registerError name runtime.nextChild = none) :
      Stretch runtime self (.outside [])
        ⟨.spawn supervisor name (.actor runtime.nextChild), .outside [],
          [.child runtime.nextChild (.attempting true)]⟩
  | spawnedSupervisor {supervisor name settings} :
      Stretch runtime self (.outside [])
        ⟨.spawn supervisor name (.supervisor settings), .outside [],
          [.child runtime.nextChild (.attempting true)]⟩
  | shutdown {tasks} : Stretch runtime self (.outside []) ⟨.skip, .outside tasks, []⟩
  | stop : Stretch runtime self (.outside []) ⟨.stop, .outside runtime.actorTasks, []⟩
  | stopped {tasks} (hstopping : runtime.stopping = some tasks)
      (hdone : ∀ task ∈ tasks, runtime.isDone task = true) :
      Stretch runtime self (.outside []) ⟨.stopped, .outside [], []⟩
  | disconnected {peer} :
      Stretch runtime self (.outside [])
        ⟨.forgetPeer peer, .outside [], (runtime.signals.lost peer).map .delivery⟩
  | called {call : Call} {effect} (hplain : call.plain = true)
      (hcall : call.move runtime = some ⟨effect, .outside [], []⟩) :
      Stretch runtime self (.outside []) ⟨effect, .outside [], []⟩

inductive Role
  | child (id : ChildId)
  | driver (child : ChildId) (mailbox : MailboxId)
  | delivery (delivery : Delivery)
  | outside

def Frame.role : Frame → Role
  | .child id _ => .child id
  | .driver owner mailbox _ => .driver owner mailbox
  | .delivery signal | .delivered signal => .delivery signal
  | .outside _ => .outside

theorem Frame.role_eq_child {frame : Frame} {child : ChildId} (hrole : frame.role = .child child) :
    ∃ stage, frame = .child child stage := by
  cases frame <;> cases hrole
  exact ⟨_, rfl⟩

theorem Frame.role_eq_driver {frame : Frame} {child : ChildId} {mailbox : MailboxId}
    (hrole : frame.role = .driver child mailbox) : ∃ stage, frame = .driver child mailbox stage := by
  cases frame <;> cases hrole
  exact ⟨_, rfl⟩

section Consequences

variable {runtime : Runtime} {self : TaskId} {frame later : Frame} {move : Move}

section

variable (hstretch : Stretch runtime self frame move)

include hstretch

theorem Stretch.role_eq : move.frame.role = frame.role := by
  cases hstretch <;> rfl

theorem Stretch.of_child {child : ChildId} {stage : ChildStage}
    (heq : .child child stage = move.frame) : ∃ before, frame = .child child before :=
  Frame.role_eq_child (by rw [← hstretch.role_eq, ← heq]; rfl)

theorem Stretch.of_driver {child : ChildId} {mailbox : MailboxId} {stage : DriverStage}
    (heq : .driver child mailbox stage = move.frame) :
    ∃ before, frame = .driver child mailbox before :=
  Frame.role_eq_driver (by rw [← hstretch.role_eq, ← heq]; rfl)

theorem Stretch.spawned_cases {offset : Nat} (hspawned : move.spawned[offset]? = some later) :
    (∃ child mailbox, later = .driver child mailbox .created ∧ offset = 0 ∧
      frame.role = .child child ∧ (runtime.children child).kind = .actor mailbox ∧
      move.effect = .launch child mailbox runtime.nextTask ∧
      move.frame = .child child (.driving runtime.nextTask)) ∨
    (∃ child, later = .child child (.attempting true) ∧ offset = 0 ∧
      (move.effect = .respawn child runtime.nextTask ∨ ∃ supervisor name kind,
        move.effect = .spawn supervisor name kind ∧ child = runtime.nextChild)) ∨
    ∃ signal, later = .delivery signal := by
  have hone : ∀ {spawned : Frame}, [spawned][offset]? = some later →
      offset = 0 ∧ spawned = later := by
    simp [List.getElem?_singleton]
  cases hstretch with
  | notified | disconnected =>
      obtain ⟨signal, -, heq⟩ := List.mem_map.mp (List.mem_of_getElem? hspawned)
      exact .inr (.inr ⟨signal, heq.symm⟩)
  | launched _ hkind =>
      obtain ⟨rfl, rfl⟩ := hone hspawned
      exact .inl ⟨_, _, rfl, rfl, rfl, hkind, rfl, rfl⟩
  | respawn =>
      obtain ⟨rfl, rfl⟩ := hone hspawned
      exact .inr (.inl ⟨_, rfl, rfl, .inl rfl⟩)
  | spawned | spawnedSupervisor =>
      obtain ⟨rfl, rfl⟩ := hone hspawned
      exact .inr (.inl ⟨_, rfl, rfl, .inr ⟨_, _, _, rfl, rfl⟩⟩)
  | _ => simp [Move.crash] at hspawned

end

end Consequences

section Inversion

variable {runtime : Runtime} {self : TaskId} {child : ChildId} {input : Input} {move : Move}

theorem stretch_unwind {driver : TaskId}
    (hended : runtime.cancelled self = true ∨ runtime.outcomeOf driver = .cancelled) :
    Stretch runtime self (.child child (.driving driver)) (.unwind runtime child) := by
  simp only [Move.unwind]
  cases hexit : (runtime.children child).pendingExit with
  | none => exact .shut hended hexit
  | some exc => exact .killed hended hexit

theorem stretch_constructor {fresh : Bool} {mailbox : MailboxId}
    (halone : (fresh && runtime.cancelled self) = false)
    (hkind : (runtime.children child).kind = .actor mailbox) :
    Stretch runtime self (.child child (.attempting fresh)) (.unwind runtime child) := by
  simp only [Move.unwind]
  cases hexit : (runtime.children child).pendingExit with
  | none => exact .constructorShut halone hkind hexit
  | some exc => exact .constructorKilled halone hkind hexit

theorem ChildStage.stretch_of_move {stage : ChildStage}
    (hmove : stage.move runtime self child input = some move) :
    Stretch runtime self (.child child stage) move := by
  revert hmove
  fun_cases ChildStage.move <;> intro hmove <;>
    first | (cases hmove; done) | obtain rfl := Option.some.inj hmove
  · rename_i fresh hcancelled
    obtain ⟨rfl, hself⟩ := Bool.and_eq_true_iff.mp hcancelled
    exact .aborted hself
  · exact .failed (Bool.eq_false_iff.mpr ‹_›) ‹_›
  · exact stretch_constructor (Bool.eq_false_iff.mpr ‹_›) ‹_›
  · exact .constructorEscaped
  · exact .failed (Bool.eq_false_iff.mpr ‹_›) ‹_›
  · exact .launched (Bool.eq_false_iff.mpr ‹_›) ‹_› ‹_›
  · exact .nested (Bool.eq_false_iff.mpr ‹_›) ‹_›
  · exact stretch_unwind (.inl ‹_›)
  · exact stretch_unwind (.inr ‹_›)
  · exact .crashed (Bool.eq_false_iff.mpr ‹_›) ‹_›
  · exact .escaped (Bool.eq_false_iff.mpr ‹_›) ‹_›
  · exact .completed (Bool.eq_false_iff.mpr ‹_›) ‹_›
  · rename_i hearlier hallowed delay hdelay
    exact .granted (Rat.not_lt.mp hearlier) hallowed hdelay
  · rename_i hearlier hallowed exc hraised
    exact .overflowed (Rat.not_lt.mp hearlier) hallowed hraised
  · exact .refused (Rat.not_lt.mp ‹_›) (Bool.eq_false_iff.mpr ‹_›)
  · exact .giveUpAlone ‹_›
  · exact .giveUpAll (fun heq => by simp_all) rfl
  · exact .reportEscaped
  · exact .cancelOther
  · exact .nobodyElse
  · exact .gather
  · exact .gatherCancelled ‹_›
  · exact .gathered
  · exact .sleepCancelled ‹_›
  · exact .unlisted ‹_›
  · exact .woken (Bool.eq_false_iff.mpr ‹_›) ‹_›
  · exact .alreadyDone ‹_›
  · exact .tear (Bool.eq_false_iff.mpr ‹_›)
  · exact .torn
  · exact .tornAll
  · exact .respawn
  · exact .again
  · exact .notified
  · exact .built
  · exact .buildFailed
  · exact .buildCancelled
  · exact .buildEscaped
  · exact .waitCancelled ‹_›
  · exact .gaveUp (Bool.eq_false_iff.mpr ‹_›)
  · exact .closeOther
  · exact .nobodyNested
  · exact .drain
  · exact .drained

theorem DriverStage.stretch_of_move {mailbox : MailboxId} {stage : DriverStage}
    (hmove : stage.move runtime self child mailbox input = some move) :
    Stretch runtime self (.driver child mailbox stage) move := by
  revert hmove
  fun_cases DriverStage.move <;> rintro ⟨⟩
  · exact .driverCancelled (.inl rfl) ‹_›
  · exact .driverStarted (Bool.eq_false_iff.mpr ‹_›)
  · exact .driverCancelled (.inr rfl) ‹_›
  · exact .received (Bool.eq_false_iff.mpr ‹_›) ‹_›
  · exact .handled
  · exact .driverRaised
  · exact .unwound
  · exact .driverEscaped

theorem Call.stretch_of_move {call : Call} (hmove : call.move runtime = some move) :
    Stretch runtime self (.outside []) move := by
  cases call with
  | spawn supervisor name =>
      simp only [Call.move, Option.ite_none_right_eq_some] at hmove
      obtain ⟨⟨-, hfree⟩, hmove⟩ := hmove
      cases hmove
      exact .spawned hfree
  | spawnSupervisor supervisor name settings =>
      simp only [Call.move, Option.ite_none_right_eq_some] at hmove
      cases hmove.2
      exact .spawnedSupervisor
  | shutdown supervisor =>
      cases hmove
      exact .shutdown
  | stop =>
      cases hmove
      exact .stop
  | stopped =>
      simp only [Call.move] at hmove
      split at hmove
      · rename_i tasks hstopping
        rw [Option.ite_none_right_eq_some] at hmove
        cases hmove.2
        exact .stopped hstopping (List.all_eq_true.mp hmove.1)
      · cases hmove
  | cancelTask target =>
      simp only [Call.move, Option.ite_none_right_eq_some] at hmove
      cases hmove.2
      exact .shutdown
  | disconnected peer =>
      cases hmove
      exact .disconnected
  | _ =>
      obtain rfl := Option.some.inj hmove
      exact .called rfl hmove

theorem Frame.stretch_of_move {frame : Frame} (hmove : frame.move runtime self input = some move) :
    Stretch runtime self frame move := by
  revert hmove
  fun_cases Frame.move <;> intro hmove
  · exact ChildStage.stretch_of_move hmove
  · exact DriverStage.stretch_of_move hmove
  · cases hmove
    exact .delivered
  · exact Call.stretch_of_move hmove
  · cases hmove
    exact .cancelNext
  · cases hmove

theorem step_cases {system next : System} {action : Action} (hstep : step system action = some next) :
    ∃ index input task move, action = .resume index input ∧ system.tasks[index]? = some task ∧
      system.shared.resumable task.id = true ∧
      task.frame.move system.shared task.id input = some move ∧
      next = system.after index (move.outcome system.shared task.id) := by
  cases action with
  | call task =>
      obtain ⟨hentry, -⟩ := TaskSystem.step_call_eq_some hstep
      cases hentry
  | resume index input =>
      obtain ⟨task, out, htask, hout, rfl⟩ := TaskSystem.step_resume_eq_some hstep
      simp only [program, Option.ite_none_right_eq_some] at hout
      obtain ⟨hresumable, hmap⟩ := hout
      obtain ⟨move, hmove, rfl⟩ := Option.map_eq_some_iff.mp hmap
      exact ⟨index, input, task, move, rfl, htask, hresumable, hmove, rfl⟩

end Inversion

end LapinBeam.Actor
