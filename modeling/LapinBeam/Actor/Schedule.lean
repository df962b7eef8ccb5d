import LapinBeam.Actor.Effects

/-!
# The tasks and what the loop knows of them

A task is known by its position in the list of tasks, and the event loop has its `await`, as long as
only its own steps change it (`Mirrored`). A cancellation is thrown into a task that awaits another
one only when that one is done (`settled`). Tasks and supervisors name only children that have been
spawned, and a driver reads the mailbox its child was spawned with (`Known`).
-/

namespace LapinBeam.Actor

open Asyncio (TaskId Await Future Loop)

def At (system : System) (id : TaskId) (frame : Frame) : Prop :=
  system.tasks[id]? = some ⟨id, frame⟩

theorem At.unique {system : System} {id : TaskId} {frame other : Frame} (hat : At system id frame)
    (hother : At system id other) : frame = other :=
  congrArg Task.frame (Option.some.inj (hat.symm.trans hother))

def Frame.isDone (frame : Frame) : Bool := (Future.mk frame.await false).isDone

theorem at_start {localId : String} {mailboxCapacity : Option Nat} {id : TaskId} {frame : Frame}
    (hat : At (start localId mailboxCapacity) id frame) : id = 0 ∧ frame = .outside [] := by
  obtain ⟨hlt, heq⟩ := List.getElem?_eq_some_iff.mp hat
  obtain rfl : id = 0 := Nat.lt_one_iff.mp hlt
  cases heq
  exact ⟨rfl, rfl⟩

structure Mirrored (system : System) : Prop where
  count : system.shared.nextTask = system.tasks.length
  identity : ∀ (index : Nat) (task : Task), system.tasks[index]? = some task → task.id = index
  await : ∀ id frame, At system id frame → (system.shared.loop id).await = frame.await
  running : ∀ id frame, At system id frame → frame.await = .running →
    system.shared.running = some id
  settled : ∀ id other, (system.shared.loop id).mustCancel = true →
    (system.shared.loop id).await = .task other → system.shared.isDone other = true
  unborn : ∀ id, system.shared.nextTask ≤ id → (system.shared.loop id).await = .outside

/-- One task goes on with `input`, by `move`. -/
structure Resumed (system : System) (id : TaskId) (input : Input) (frame : Frame) (move : Move) :
    Prop where
  here : At system id frame
  ready : system.shared.resumable id = true
  eq_some : frame.move system.shared id input = some move

theorem Resumed.stretch {system : System} {self : TaskId} {input : Input} {frame : Frame}
    {move : Move} (hresumed : Resumed system self input frame move) :
    Stretch system.shared self frame move :=
  Frame.stretch_of_move hresumed.eq_some

abbrev Move.next (move : Move) (system : System) (self : TaskId) : System :=
  system.after self (move.outcome system.shared self)

theorem Resumed.step_eq {system : System} {self : TaskId} {input : Input} {frame : Frame}
    {move : Move} (hresumed : Resumed system self input frame move) :
    step system (.resume self input) = some (move.next system self) := by
  refine TaskSystem.step_resume_of_perform hresumed.here ?_
  simp [program, hresumed.ready, hresumed.eq_some]

section Fields

variable (move : Move) (system : System) (self : TaskId)

@[simp]
theorem children_next :
    (move.next system self).shared.children = (move.effect.apply system.shared).children := rfl

@[simp]
theorem nextChild_next :
    (move.next system self).shared.nextChild = (move.effect.apply system.shared).nextChild := rfl

@[simp]
theorem supervisors_next :
    (move.next system self).shared.supervisors = (move.effect.apply system.shared).supervisors :=
  rfl

@[simp]
theorem mailboxes_next :
    (move.next system self).shared.mailboxes = (move.effect.apply system.shared).mailboxes := rfl

@[simp]
theorem names_next :
    (move.next system self).shared.names = (move.effect.apply system.shared).names := rfl

@[simp]
theorem nextTask_next :
    (move.next system self).shared.nextTask = system.shared.nextTask + move.spawned.length := by
  show (move.effect.apply system.shared).nextTask + _ = _
  rw [(Effect.loop_apply _ _).1]

theorem loop_next {id : TaskId} (hlt : id < system.shared.nextTask) :
    (move.next system self).shared.loop id =
      if id = self then ⟨move.frame.await, false⟩
      else (move.effect.apply system.shared).loop id := by
  have hnext := (Effect.loop_apply move.effect system.shared).1
  show ((move.effect.apply system.shared).commit self move.frame |>.enroll _).loop id = _
  simp only [Runtime.enroll, Runtime.commit, hnext, Nat.not_le.mpr hlt, ↓reduceIte]
  by_cases heq : id = self <;> simp [heq]

theorem loop_next_of_le {id : TaskId} (hle : system.shared.nextTask ≤ id) :
    (move.next system self).shared.loop id = ⟨.outside, false⟩ := by
  have hnext := (Effect.loop_apply move.effect system.shared).1
  show ((move.effect.apply system.shared).commit self move.frame |>.enroll _).loop id = _
  simp only [Runtime.enroll, Runtime.commit, hnext, hle, ↓reduceIte]

end Fields

namespace Mirrored

variable {system next : System} {action : Action} {self id : TaskId} {input : Input}
  {frame other : Frame} {move : Move}

section

variable (hmirrored : Mirrored system)

include hmirrored

theorem step_cases (hstep : step system action = some next) :
    ∃ self input frame move, Resumed system self input frame move ∧
      action = .resume self input ∧ next = move.next system self := by
  obtain ⟨index, input, task, move, rfl, htask, hready, hmove, rfl⟩ := Actor.step_cases hstep
  obtain rfl := hmirrored.identity _ _ htask
  exact ⟨task.id, input, task.frame, move, ⟨htask, hready, hmove⟩, rfl, rfl⟩

theorem lt_of_at (hat : At system id frame) : id < system.shared.nextTask := by
  rw [hmirrored.count]
  exact (List.getElem?_eq_some_iff.mp hat).1

theorem exists_at (hlt : id < system.shared.nextTask) : ∃ frame, At system id frame := by
  have htask := List.getElem?_eq_getElem (hmirrored.count ▸ hlt)
  obtain ⟨task, heq⟩ : ∃ task, system.tasks[id]? = some task := ⟨_, htask⟩
  obtain rfl := hmirrored.identity _ _ heq
  exact ⟨task.frame, heq⟩

theorem isDone_of_at (hat : At system id frame) : system.shared.isDone id = frame.isDone := by
  simp only [Runtime.isDone, Future.isDone, Frame.isDone, hmirrored.await _ _ hat]

theorem exists_at_of_isDone (hdone : system.shared.isDone id = true) :
    ∃ frame, At system id frame ∧ frame.isDone = true := by
  by_cases hlt : id < system.shared.nextTask
  · obtain ⟨frame, hat⟩ := hmirrored.exists_at hlt
    exact ⟨frame, hat, (hmirrored.isDone_of_at hat).symm.trans hdone⟩
  · rw [Runtime.isDone, Future.isDone, hmirrored.unborn id (Nat.le_of_not_lt hlt)] at hdone
    cases hdone

theorem at_next (hat : At (move.next system self) id other) :
    (id = self ∧ other = move.frame) ∨ (id ≠ self ∧ At system id other) ∨
      (system.shared.nextTask ≤ id ∧
        move.spawned[id - system.shared.nextTask]? = some other) := by
  rcases TaskSystem.lookup_after hat with ⟨rfl, heq⟩ | hold | ⟨hle, hspawned⟩
  · exact .inl ⟨rfl, congrArg Task.frame heq⟩
  · exact .inr (.inl hold)
  · refine .inr (.inr ⟨hmirrored.count ▸ hle, ?_⟩)
    simp only [Move.outcome, List.getElem?_mapIdx, Option.map_eq_some_iff] at hspawned
    obtain ⟨frame, hframe, heq⟩ := hspawned
    rw [hmirrored.count, hframe]
    exact congrArg some (congrArg Task.frame heq)

end

theorem at_next_self (hresumed : Resumed system self input frame move) :
    At (move.next system self) self move.frame :=
  TaskSystem.lookup_self hresumed.here

theorem at_next_other (hne : id ≠ self) (hat : At system id other) :
    At (move.next system self) id other :=
  TaskSystem.lookup_other hne hat

theorem exists_at_next (hresumed : Resumed system self input frame move) (hat : At system id other) :
    ∃ later, At (move.next system self) id later ∧ later.role = other.role := by
  by_cases hself : id = self
  · subst hself
    obtain rfl := hresumed.here.unique hat
    exact ⟨move.frame, at_next_self hresumed, hresumed.stretch.role_eq⟩
  · exact ⟨other, at_next_other hself hat, rfl⟩

theorem at_next_spawned (hmirrored : Mirrored system) (offset : Nat)
    (hspawned : move.spawned[offset]? = some other) :
    At (move.next system self) (system.shared.nextTask + offset) other := by
  show (system.tasks.set self _ ++ _)[_]? = _
  rw [hmirrored.count, List.getElem?_append_right (by simp)]
  simp [Move.outcome, hspawned, hmirrored.count]

theorem isDone_self (hready : system.shared.resumable self = true) :
    system.shared.isDone self = false := by
  have hready := (Bool.and_eq_true_iff.mp hready).2
  simp only [Loop.ready] at hready
  simp only [Runtime.isDone, Future.isDone]
  split at hready <;> simp_all

theorem isDone_next (hmirrored : Mirrored system) (hresumed : Resumed system self input frame move)
    (hdone : system.shared.isDone id = true) :
    (move.next system self).shared.isDone id = true := by
  have hne : id ≠ self := by
    rintro rfl
    rw [isDone_self hresumed.ready] at hdone
    cases hdone
  obtain ⟨done, hat, -⟩ := hmirrored.exists_at_of_isDone hdone
  rw [Runtime.isDone, loop_next _ _ _ (hmirrored.lt_of_at hat), if_neg hne, ← hdone]
  simp only [Runtime.isDone, Future.isDone, Effect.await_apply]

theorem eq_self_of_running (hmirrored : Mirrored system)
    (hresumed : Resumed system self input frame move) (hat : At system id other)
    (hrunning : other.await = .running) : id = self := by
  have hready := (Bool.and_eq_true_iff.mp hresumed.ready).1
  simpa [hmirrored.running id other hat hrunning] using hready

theorem cancelled_next (hmirrored : Mirrored system) (hne : id ≠ self) (hat : At system id other)
    (hcancelled : system.shared.cancelled id = true) :
    (move.next system self).shared.cancelled id = true := by
  rw [Runtime.cancelled, loop_next _ _ _ (hmirrored.lt_of_at hat), if_neg hne]
  rcases (Effect.loop_apply move.effect system.shared).2.2 with hloop | ⟨task, hloop⟩
  · rw [hloop]
    exact hcancelled
  · rw [hloop]
    exact Loop.mustCancel_cancel.mpr (.inl hcancelled)

end Mirrored

theorem Stretch.await_spawned {runtime : Runtime} {self : TaskId} {frame later : Frame}
    {move : Move} {offset : Nat} (hstretch : Stretch runtime self frame move)
    (hspawned : move.spawned[offset]? = some later) : later.await = .outside := by
  rcases hstretch.spawned_cases hspawned with
    ⟨_, _, rfl, -⟩ | ⟨_, rfl, -⟩ | ⟨_, rfl⟩ <;> rfl

theorem Stretch.attempting_of_spawned {runtime : Runtime} {self : TaskId} {frame : Frame}
    {move : Move} {offset : Nat} {child : ChildId} {stage : ChildStage}
    (hstretch : Stretch runtime self frame move)
    (hspawned : move.spawned[offset]? = some (.child child stage)) : stage = .attempting true := by
  rcases hstretch.spawned_cases hspawned with
    ⟨_, _, heq, -⟩ | ⟨_, heq, -⟩ | ⟨_, heq⟩ <;> cases heq
  rfl

namespace Mirrored

variable {system : System} {self id : TaskId} {input : Input} {frame : Frame} {move : Move}

theorem settled_next (hmirrored : Mirrored system)
    (hresumed : Resumed system self input frame move) {awaited : TaskId}
    (hmust : ((move.next system self).shared.loop id).mustCancel = true)
    (hawait : ((move.next system self).shared.loop id).await = .task awaited) :
    (move.next system self).shared.isDone awaited = true := by
  by_cases hlt : id < system.shared.nextTask
  swap
  · rw [loop_next_of_le _ _ _ (Nat.le_of_not_lt hlt)] at hmust
    cases hmust
  rw [loop_next _ _ _ hlt] at hmust hawait
  by_cases heq : id = self
  · simp [heq] at hmust
  simp only [heq, ↓reduceIte, Effect.await_apply] at hmust hawait
  refine hmirrored.isDone_next hresumed ?_
  -- the request is an old one, or was left with this task because it could take it
  rcases (Effect.loop_apply move.effect system.shared).2.2 with hloop | ⟨task, hloop⟩
  · rw [hloop] at hmust
    exact hmirrored.settled id awaited hmust hawait
  · rw [hloop, Loop.mustCancel_cancel] at hmust
    rcases hmust with hold | htarget
    · exact hmirrored.settled id awaited hold hawait
    · exact (Loop.receptive_of_mem_targets htarget).settled awaited hawait

theorem next (hmirrored : Mirrored system) (hresumed : Resumed system self input frame move) :
    Mirrored (move.next system self) where
  count := by
    rw [nextTask_next, hmirrored.count]
    simp [TaskSystem.State.after, Move.outcome]
  identity := by
    intro index task htask
    rcases TaskSystem.lookup_after htask with ⟨rfl, rfl⟩ | ⟨-, hold⟩ | ⟨hle, hspawned⟩
    · rfl
    · exact hmirrored.identity _ _ hold
    · simp only [Move.outcome, List.getElem?_mapIdx, Option.map_eq_some_iff] at hspawned
      obtain ⟨_, -, rfl⟩ := hspawned
      show system.shared.nextTask + (index - system.tasks.length) = index
      rw [hmirrored.count, Nat.add_sub_cancel' hle]
  await := by
    intro id other hat
    have hself := hmirrored.lt_of_at hresumed.here
    rcases hmirrored.at_next hat with ⟨rfl, rfl⟩ | ⟨hne, hold⟩ | ⟨hle, hspawned⟩
    · rw [loop_next _ _ _ hself, if_pos rfl]
    · rw [loop_next _ _ _ (hmirrored.lt_of_at hold), if_neg hne, Effect.await_apply]
      exact hmirrored.await id other hold
    · rw [loop_next_of_le _ _ _ hle,
        hresumed.stretch.await_spawned hspawned]
  running := by
    intro id other hat hrunning
    rcases hmirrored.at_next hat with ⟨rfl, rfl⟩ | ⟨hne, hold⟩ | ⟨-, hspawned⟩
    · show ((move.effect.apply system.shared).commit id move.frame).running = some id
      simp only [Runtime.commit, hrunning]
    · exact absurd (hmirrored.eq_self_of_running hresumed hold hrunning) hne
    · rw [hresumed.stretch.await_spawned hspawned] at hrunning
      cases hrunning
  settled := fun _ _ hmust hawait => hmirrored.settled_next hresumed hmust hawait
  unborn := by
    intro id hle
    rw [nextTask_next] at hle
    rw [loop_next_of_le _ _ _ (Nat.le_of_add_right_le hle)]

theorem start (localId : String) (mailboxCapacity : Option Nat) :
    Mirrored (start localId mailboxCapacity) where
  count := rfl
  identity := by
    intro index task htask
    obtain ⟨hlt, rfl⟩ := List.getElem?_eq_some_iff.mp htask
    obtain rfl : index = 0 := Nat.lt_one_iff.mp hlt
    rfl
  await := by
    intro id frame hat
    obtain ⟨rfl, rfl⟩ := at_start hat
    rfl
  running := by
    intro id frame hat hrunning
    obtain ⟨rfl, rfl⟩ := at_start hat
    cases hrunning
  settled := fun _ _ hmust => nomatch hmust
  unborn := fun _ _ => rfl

end Mirrored

/-! ### The children that are mentioned -/

def ChildStage.siblings : ChildStage → List ChildId
  | .tearing _ siblings rest | .awaiting _ siblings rest _ => siblings ++ rest
  | .respawning rest => rest
  | _ => []

def Frame.mentions : Frame → List ChildId
  | .child id stage => id :: stage.siblings
  | .driver owner _ _ => [owner]
  | _ => []

structure Known (system : System) : Prop where
  frames : ∀ id frame, At system id frame → ∀ child ∈ frame.mentions, child < system.shared.nextChild
  listed : ∀ supervisor, ∀ child ∈ (system.shared.supervisors supervisor).children,
    child < system.shared.nextChild
  mailbox : ∀ child mailbox, child < system.shared.nextChild →
    (system.shared.children child).kind = .actor mailbox → mailbox = child
  reads : ∀ id child mailbox stage, At system id (.driver child mailbox stage) →
    (system.shared.children child).kind = .actor mailbox
  drives : ∀ id child driver, At system id (.child child (.driving driver)) →
    ∃ mailbox stage, At system driver (.driver child mailbox stage)

theorem Supervisor.mem_affectedChildren {supervisor : Supervisor} {child other : ChildId}
    {affected : List ChildId} (haffected : supervisor.affectedChildren child = some affected)
    (hmem : other ∈ affected.filter (· ≠ child)) : other ∈ supervisor.children := by
  obtain ⟨hmem, hne⟩ := List.mem_filter.mp hmem
  simp only [affectedChildren] at haffected
  split at haffected
  · obtain rfl := Option.some.inj haffected
    obtain rfl := List.mem_singleton.mp hmem
    simp at hne
  · exact Option.some.inj haffected ▸ hmem
  · rw [Option.ite_none_right_eq_some] at haffected
    exact (List.dropWhile_sublist _).subset (Option.some.inj haffected.2 ▸ hmem)

theorem Stretch.mentions_cases {runtime : Runtime} {self : TaskId} {frame : Frame} {move : Move}
    {child : ChildId} (hstretch : Stretch runtime self frame move)
    (hmem : child ∈ move.frame.mentions) :
    child ∈ frame.mentions ∨ ∃ supervisor, child ∈ (runtime.supervisors supervisor).children := by
  cases hstretch with
  | woken _ haffected =>
      simp only [Frame.mentions, ChildStage.siblings, List.mem_cons, List.mem_append,
        or_self] at hmem ⊢
      rcases hmem with rfl | hmem
      · exact .inl (.inl rfl)
      · exact .inr ⟨_, Supervisor.mem_affectedChildren haffected hmem⟩
  | _ =>
      left
      simp_all [Move.crash, Frame.mentions, ChildStage.siblings]
      try grind

theorem Stretch.of_driving {runtime : Runtime} {self : TaskId} {frame : Frame} {move : Move}
    {child : ChildId} {driver : TaskId} (hstretch : Stretch runtime self frame move)
    (heq : .child child (.driving driver) = move.frame) :
    ∃ mailbox, move.spawned[0]? = some (.driver child mailbox .created) ∧
      driver = runtime.nextTask ∧ move.effect = .launch child mailbox driver := by
  cases hstretch with
  | launched => cases heq; exact ⟨_, rfl, rfl, rfl⟩
  | _ => cases heq

def ChildStage.notifies : ChildStage → Bool
  | .notifying _ _ _ => true
  | _ => false

/-- Where an effect other than that of a send or a signal comes from. -/
def Effect.Origin (runtime : Runtime) (self : TaskId) (frame : Frame) (move : Move) : Effect → Prop
  | .launch child mailbox _ => ∃ fresh, frame = .child child (.attempting fresh) ∧
      (fresh && runtime.cancelled self) = false ∧
      (runtime.children child).kind = .actor mailbox ∧
      runtime.registerError (runtime.children child).name mailbox = none
  | .nest child => ∃ fresh, frame = .child child (.attempting fresh) ∧
      move.frame = .child child .building
  | .cleanup child _ =>
      (∃ fresh mailbox, frame = .child child (.attempting fresh) ∧
        (runtime.children child).kind = .actor mailbox) ∨
      ∃ driver, frame = .child child (.driving driver)
  | .decide child now => (∃ crash, frame = .child child (.budgeting crash)) ∧ runtime.clock ≤ now
  | .denied child _ => ∃ crash later, frame = .child child (.exhausted crash) ∧
      move.frame = .child child later ∧
      ((runtime.supervisorOf child).settings.strategy = .oneForOne → later.notifies = true)
  | .giveUp child _ => ∃ crash tasks later,
      (frame = .child child (.cancelling crash [] tasks) ∨
        frame = .child child (.gathering crash tasks)) ∧
      move.frame = .child child later ∧ later.notifies = true
  | .discard child => ∃ obituary reason, frame = .child child (.notifying obituary reason .returned)
  | .respawn sibling task => ∃ child rest, frame = .child child (.respawning (sibling :: rest)) ∧
      task = runtime.nextTask ∧ move.spawned = [.child sibling (.attempting true)]
  | .spawn _ name kind => frame = .outside [] ∧
      move.spawned = [.child runtime.nextChild (.attempting true)] ∧
      ∀ mailbox, kind = .actor mailbox →
        mailbox = runtime.nextChild ∧ runtime.registerError name mailbox = none
  | .cancel task => frame.await = .running ∧
      ((∃ child stage, frame = .child child stage) ∨ ∃ rest, frame = .outside (task :: rest))
  | _ => True

theorem Stretch.origin {runtime : Runtime} {self : TaskId} {frame : Frame} {move : Move}
    {effect : Effect} (hstretch : Stretch runtime self frame move) (heffect : move.effect = effect) :
    effect.Origin runtime self frame move := by
  subst heffect
  cases hstretch with
  | failed _ hkind | constructorKilled _ hkind | constructorShut _ hkind =>
      exact .inl ⟨_, _, rfl, hkind⟩
  | launched halone hkind hfree => exact ⟨_, rfl, halone, hkind, hfree⟩
  | nested => exact ⟨_, rfl, rfl⟩
  | killed | shut | crashed | completed => exact .inr ⟨_, rfl⟩
  | granted hclock | overflowed hclock | refused hclock => exact ⟨⟨_, rfl⟩, hclock⟩
  | giveUpAlone => exact ⟨_, _, rfl, rfl, fun _ => rfl⟩
  | giveUpAll hstrategy => exact ⟨_, _, rfl, rfl, fun heq => absurd heq hstrategy⟩
  | nobodyElse => exact ⟨_, _, _, .inl rfl, rfl, rfl⟩
  | gathered => exact ⟨_, _, _, .inr rfl, rfl, rfl⟩
  | respawn => exact ⟨_, _, rfl, rfl, rfl⟩
  | @notified _ _ _ outcome =>
      cases outcome with
      | returned => exact ⟨_, _, rfl⟩
      | _ => trivial
  | cancelOther | tear | closeOther => exact ⟨rfl, .inl ⟨_, _, rfl⟩⟩
  | cancelNext => exact ⟨rfl, .inr ⟨_, rfl⟩⟩
  | spawned hfree =>
      refine ⟨rfl, rfl, fun mailbox heq => ?_⟩
      cases heq
      exact ⟨rfl, hfree⟩
  | spawnedSupervisor => exact ⟨rfl, rfl, fun _ heq => nomatch heq⟩
  | @called _ effect hplain hcall =>
      have hplain := Call.plain_effect hplain hcall
      cases effect <;> first | (cases hplain; done) | trivial
  | _ => trivial

namespace Known

variable {system : System} {self : TaskId} {input : Input} {frame : Frame} {move : Move}
  {child : ChildId}

theorem sameChild_next (move : Move) (self : TaskId) (hlt : child < system.shared.nextChild) :
    SameChild (system.shared.children child) ((move.next system self).shared.children child) := by
  rw [children_next]
  rcases Effect.child_cases move.effect system.shared child with
    ⟨hsame, -⟩ | ⟨_, -, hsame, -⟩ | ⟨_, _, _, -, heq, -⟩
  · exact hsame
  · exact hsame
  · exact absurd hlt (heq ▸ Nat.lt_irrefl _)

theorem task_next (self : TaskId) (hlt : child < system.shared.nextChild)
    (hkept : ∀ task, move.effect ≠ .respawn child task) :
    ((move.next system self).shared.children child).task = (system.shared.children child).task := by
  rw [children_next]
  rcases Effect.child_cases move.effect system.shared child with
    ⟨-, htask⟩ | ⟨_, heffect, -⟩ | ⟨_, _, _, -, heq, -⟩
  · exact htask
  · exact absurd heffect (hkept _)
  · exact absurd hlt (heq ▸ Nat.lt_irrefl _)

theorem child_next_cases (hlt : child < (move.next system self).shared.nextChild) :
    child < system.shared.nextChild ∨ ∃ supervisor name kind,
      move.effect = .spawn supervisor name kind ∧ child = system.shared.nextChild ∧
      (move.next system self).shared.children child =
        { supervisor, name, kind, task := system.shared.nextTask } := by
  by_cases hold : child < system.shared.nextChild
  · exact .inl hold
  · rw [nextChild_next] at hlt
    rcases Effect.nextChild_apply move.effect system.shared with
      heq | ⟨supervisor, name, kind, heffect, heq⟩
    · exact absurd (heq ▸ hlt) hold
    · obtain rfl : child = system.shared.nextChild :=
        Nat.le_antisymm (Nat.le_of_lt_succ (by rwa [heq] at hlt)) (Nat.le_of_not_lt hold)
      refine .inr ⟨supervisor, name, kind, heffect, rfl, ?_⟩
      rw [children_next, heffect, Effect.apply, Runtime.children_spawn, Function.update_self]

theorem lt_next (self : TaskId) (hcases : child < system.shared.nextChild ∨ ∃ supervisor name kind,
      move.effect = .spawn supervisor name kind ∧ child = system.shared.nextChild) :
    child < (move.next system self).shared.nextChild := by
  rw [nextChild_next]
  rcases hcases with hlt | ⟨supervisor, name, kind, heffect, rfl⟩
  · rcases Effect.nextChild_apply move.effect system.shared with heq | ⟨_, _, _, -, heq⟩
    · exact heq ▸ hlt
    · exact heq ▸ Nat.lt_succ_of_lt hlt
  · rw [heffect]
    cases kind <;> exact Nat.lt_succ_self _

theorem next (hmirrored : Mirrored system) (hknown : Known system)
    (hresumed : Resumed system self input frame move) : Known (move.next system self) where
  frames := by
    intro id other hat child hmem
    have hself := hknown.frames self frame hresumed.here
    refine lt_next self ?_
    rcases hmirrored.at_next hat with ⟨rfl, rfl⟩ | ⟨-, hold⟩ | ⟨-, hspawned⟩
    · rcases hresumed.stretch.mentions_cases hmem with hmention | ⟨supervisor, hlisted⟩
      · exact .inl (hself child hmention)
      · exact .inl (hknown.listed supervisor child hlisted)
    · exact .inl (hknown.frames id other hold child hmem)
    · rcases hresumed.stretch.spawned_cases hspawned with
        ⟨owner, mailbox, rfl, -, hrole, -⟩ | ⟨owner, rfl, -, hcases⟩ | ⟨signal, rfl⟩
      · obtain rfl := List.mem_singleton.mp hmem
        obtain ⟨stage, rfl⟩ := Frame.role_eq_child hrole
        exact .inl (hself child List.mem_cons_self)
      · obtain rfl := List.mem_singleton.mp hmem
        rcases hcases with heffect | hspawn
        · obtain ⟨_, _, rfl, -⟩ := hresumed.stretch.origin heffect
          exact .inl (hself child (List.mem_cons_of_mem _ List.mem_cons_self))
        · exact .inr hspawn
      · cases hmem
  listed := by
    intro supervisor child hlisted
    rw [supervisors_next] at hlisted
    rcases Effect.listed_apply _ _ hlisted with hold | ⟨name, kind, heffect, heq⟩
    · exact lt_next self (.inl (hknown.listed supervisor child hold))
    · exact lt_next self (.inr ⟨supervisor, name, kind, heffect, heq⟩)
  mailbox := by
    intro child mailbox hlt hkind
    rcases child_next_cases hlt with hold | ⟨supervisor, name, kind, heffect, rfl, hrecord⟩
    · exact hknown.mailbox child mailbox hold ((sameChild_next move self hold).kind ▸ hkind)
    · rw [hrecord] at hkind
      obtain rfl : kind = .actor mailbox := hkind
      exact ((hresumed.stretch.origin heffect).2.2 _ rfl).1
  reads := by
    intro id child mailbox stage hat
    have hkind : child < system.shared.nextChild ∧
        (system.shared.children child).kind = .actor mailbox := by
      have hself := hknown.frames self frame hresumed.here
      rcases hmirrored.at_next hat with ⟨rfl, heq⟩ | ⟨-, hold⟩ | ⟨-, hspawned⟩
      · obtain ⟨before, rfl⟩ := hresumed.stretch.of_driver heq
        exact ⟨hself child List.mem_cons_self, hknown.reads id child mailbox before hresumed.here⟩
      · exact ⟨hknown.frames id _ hold child List.mem_cons_self,
          hknown.reads id child mailbox stage hold⟩
      · rcases hresumed.stretch.spawned_cases hspawned with
          ⟨_, _, heq, -, hrole, hkind, -⟩ | ⟨_, heq, -⟩ | ⟨_, heq⟩ <;> cases heq
        obtain ⟨before, rfl⟩ := Frame.role_eq_child hrole
        exact ⟨hself child List.mem_cons_self, hkind⟩
    rw [(sameChild_next move self hkind.1).kind]
    exact hkind.2
  drives := by
    intro id child driver hat
    rcases hmirrored.at_next hat with ⟨rfl, heq⟩ | ⟨-, hold⟩ | ⟨-, hspawned⟩
    · obtain ⟨mailbox, hspawn, rfl, -⟩ := hresumed.stretch.of_driving heq
      exact ⟨mailbox, .created, hmirrored.at_next_spawned 0 hspawn⟩
    · obtain ⟨mailbox, stage, hdriver⟩ := hknown.drives id child driver hold
      obtain ⟨later, hlater, hrole⟩ := Mirrored.exists_at_next hresumed hdriver
      obtain ⟨after, rfl⟩ := Frame.role_eq_driver hrole
      exact ⟨mailbox, after, hlater⟩
    · cases hresumed.stretch.attempting_of_spawned hspawned

theorem start (localId : String) (mailboxCapacity : Option Nat) :
    Known (start localId mailboxCapacity) where
  frames := by
    intro id frame hat
    obtain ⟨rfl, rfl⟩ := at_start hat
    exact fun _ hmem => nomatch hmem
  listed := fun _ _ hmem => nomatch hmem
  mailbox := fun _ _ hlt => nomatch hlt
  reads := by
    intro id child mailbox stage hat
    cases (at_start hat).2
  drives := by
    intro id child driver hat
    cases (at_start hat).2

end Known

structure WellFormed (system : System) : Prop where
  mirrored : Mirrored system
  known : Known system

theorem WellFormed.start (localId : String) (mailboxCapacity : Option Nat) :
    WellFormed (start localId mailboxCapacity) :=
  ⟨.start _ _, .start _ _⟩

theorem WellFormed.next {system : System} {self : TaskId} {input : Input} {frame : Frame}
    {move : Move} (hformed : WellFormed system) (hresumed : Resumed system self input frame move) :
    WellFormed (move.next system self) :=
  ⟨hformed.mirrored.next hresumed, hformed.known.next hformed.mirrored hresumed⟩

/-- The invariant rule for a node: what one move keeps, every run keeps. -/
theorem WellFormed.invariant {allowed : System → Action → Prop} (Inv : System → Prop)
    {before system : System} (hbefore : WellFormed before) (hinv : Inv before)
    (hnext : ∀ system self input frame move, WellFormed system → Inv system →
      allowed system (.resume self input) → Resumed system self input frame move →
      Inv (move.next system self))
    (hreach : Machine.ReachableWhere step allowed before system) :
    WellFormed system ∧ Inv system := by
  induction hreach with
  | start => exact ⟨hbefore, hinv⟩
  | step action _ hallowed hstep ih =>
      obtain ⟨hformed, hinv⟩ := ih
      obtain ⟨self, input, frame, move, hresumed, rfl, rfl⟩ := hformed.mirrored.step_cases hstep
      exact ⟨hformed.next hresumed, hnext _ _ _ _ _ hformed hinv hallowed hresumed⟩

end LapinBeam.Actor
