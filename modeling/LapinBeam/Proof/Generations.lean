import LapinBeam.Actor.Schedule

/-!
# One generation at a time

An actor handles one message at a time as long as its child record has one live driver. The driver
lives under the task of its child, which waits for it (`Driven`), so it is enough that a child has
one live task, the one in its record (`OneTask`). Restarting in place keeps the task, and a sibling
swept into a group restart gets a new one. The old one is done by then, unless two crash handlers
were at work on the same sibling: then `_respawn_child` replaces a task that runs.
-/

namespace LapinBeam.Actor

open Asyncio (TaskId Await Future Loop)

abbrev Condition := System → TaskId → Frame → Input → Bool

def meets (condition : Condition) (system : System) : Action → Bool
  | .call _ => true
  | .resume id input =>
      match system.tasks[id]? with
      | none => true
      | some task => condition system id task.frame input

abbrev Meets (condition : Condition) (system : System) (action : Action) : Prop :=
  meets condition system action = true

theorem Resumed.meets {condition : Condition} {system : System} {id : TaskId} {input : Input}
    {frame : Frame} {move : Move} (hresumed : Resumed system id input frame move)
    (hmeets : Meets condition system (.resume id input)) :
    condition system id frame input = true := by
  have hat : system.tasks[id]? = some ⟨id, frame⟩ := hresumed.here
  simpa [Meets, Actor.meets, hat] using hmeets

def respawnsEnded : Condition
  | system, _, .child _ (.respawning (sibling :: _)), _ =>
      system.shared.isDone (system.shared.children sibling).task
  | _, _, _, _ => true

def OneTask (system : System) : Prop :=
  ∀ id child stage, At system id (.child child stage) → (Frame.child child stage).isDone = false →
    (system.shared.children child).task = id

def Driven (system : System) : Prop :=
  ∀ id child mailbox stage, At system id (.driver child mailbox stage) →
    (Frame.driver child mailbox stage).isDone = false →
    ∃ task, At system task (.child child (.driving id))

def Recorded (system : System) : Prop :=
  ∀ id child driver, At system id (.child child (.driving driver)) →
    (system.shared.children child).driver = some driver

structure Supervised (system : System) : Prop where
  one : OneTask system
  driven : Driven system
  recorded : Recorded system

section Step

variable {system : System} {self : TaskId} {input : Input} {frame : Frame} {move : Move}

theorem Mirrored.live_self (hmirrored : Mirrored system)
    (hresumed : Resumed system self input frame move) : frame.isDone = false :=
  (hmirrored.isDone_of_at hresumed.here).symm.trans (Mirrored.isDone_self hresumed.ready)

theorem Mirrored.isDone_of_driving (hmirrored : Mirrored system) {child : ChildId} {driver : TaskId}
    (hat : At system self (.child child (.driving driver)))
    (hready : system.shared.resumable self = true) : system.shared.isDone driver = true := by
  have hawait := hmirrored.await _ _ hat
  have hready := (Bool.and_eq_true_iff.mp hready).2
  simp only [Loop.ready, hawait, Frame.await, ChildStage.await, Bool.or_eq_true] at hready
  rcases hready with hdone | hmust
  · exact hdone
  · exact hmirrored.settled self driver hmust hawait

theorem OneTask.next (hformed : WellFormed system) (hone : OneTask system)
    (hended : respawnsEnded system self frame input = true)
    (hresumed : Resumed system self input frame move) : OneTask (move.next system self) := by
  have hrespawn : ∀ child task, move.effect = .respawn child task →
      system.shared.isDone (system.shared.children child).task = true := by
    intro child task heffect
    obtain ⟨_, _, rfl, -⟩ := hresumed.stretch.origin heffect
    exact hended
  -- an old task of the child stays the current one: it is live, so nobody respawns the child
  have hkeep : ∀ id child before, At system id (.child child before) →
      (Frame.child child before).isDone = false →
      ((move.next system self).shared.children child).task = id := by
    intro id child before hat hlive
    have hcurrent := hone id child before hat hlive
    rw [children_next]
    rcases Effect.child_cases move.effect system.shared child with
      ⟨-, htask⟩ | ⟨_, heffect, -⟩ | ⟨_, _, _, -, heq, -⟩
    · exact htask.trans hcurrent
    · have hdone := hrespawn _ _ heffect
      rw [hcurrent, hformed.mirrored.isDone_of_at hat, hlive] at hdone
      cases hdone
    · have hlt := hformed.known.frames _ _ hat child List.mem_cons_self
      exact absurd hlt (heq ▸ Nat.lt_irrefl _)
  intro id child stage hat hlive
  rcases hformed.mirrored.at_next hat with ⟨rfl, heq⟩ | ⟨-, hold⟩ | ⟨hle, hspawned⟩
  · obtain ⟨before, rfl⟩ := hresumed.stretch.of_child heq
    exact hkeep id child before hresumed.here (hformed.mirrored.live_self hresumed)
  · exact hkeep id child stage hold hlive
  · rcases hresumed.stretch.spawned_cases hspawned with
      ⟨_, _, heq, -⟩ | ⟨_, heq, hoffset, hcases⟩ | ⟨_, heq⟩ <;> cases heq
    have hid : id = system.shared.nextTask := Nat.le_antisymm (Nat.le_of_sub_eq_zero hoffset) hle
    rw [children_next, hid]
    rcases hcases with heffect | ⟨_, _, _, heffect, rfl⟩
    · simp [heffect, Effect.apply, Runtime.respawn, Runtime.setChild]
    · simp [heffect, Effect.apply, Runtime.children_spawn]

theorem Driven.next (hmirrored : Mirrored system) (hdriven : Driven system)
    (hresumed : Resumed system self input frame move) : Driven (move.next system self) := by
  intro id child mailbox stage hat hlive
  rcases hmirrored.at_next hat with ⟨rfl, heq⟩ | ⟨-, hold⟩ | ⟨hle, hspawned⟩
  · obtain ⟨before, rfl⟩ := hresumed.stretch.of_driver heq
    obtain ⟨task, htask⟩ :=
      hdriven id child mailbox before hresumed.here (hmirrored.live_self hresumed)
    refine ⟨task, Mirrored.at_next_other ?_ htask⟩
    rintro rfl
    cases Option.some.inj (htask.symm.trans hresumed.here)
  · obtain ⟨task, htask⟩ := hdriven id child mailbox stage hold hlive
    by_cases hself : task = self
    · subst hself
      have hdone := hmirrored.isDone_of_driving htask hresumed.ready
      rw [hmirrored.isDone_of_at hold, hlive] at hdone
      cases hdone
    · exact ⟨task, Mirrored.at_next_other hself htask⟩
  · rcases hresumed.stretch.spawned_cases hspawned with
      ⟨_, _, heq, hoffset, -, -, -, hframe⟩ | ⟨_, heq, -⟩ | ⟨_, heq⟩ <;> cases heq
    have hid : id = system.shared.nextTask := Nat.le_antisymm (Nat.le_of_sub_eq_zero hoffset) hle
    exact ⟨self, hid ▸ hframe ▸ Mirrored.at_next_self hresumed⟩

theorem Resumed.driver_before (hmirrored : Mirrored system)
    (hresumed : Resumed system self input frame move) {id : TaskId} {child : ChildId}
    {mailbox : MailboxId} {stage : DriverStage}
    (hat : At (move.next system self) id (.driver child mailbox stage)) :
    (∃ before, At system id (.driver child mailbox before)) ∨
      ∃ fresh, frame = .child child (.attempting fresh) ∧
        (fresh && system.shared.cancelled self) = false := by
  rcases hmirrored.at_next hat with ⟨rfl, heq⟩ | ⟨-, hold⟩ | ⟨-, hspawned⟩
  · obtain ⟨before, rfl⟩ := hresumed.stretch.of_driver heq
    exact .inl ⟨before, hresumed.here⟩
  · exact .inl ⟨stage, hold⟩
  · rcases hresumed.stretch.spawned_cases hspawned with
      ⟨_, _, heq, -, -, -, heffect, -⟩ | ⟨_, heq, -⟩ | ⟨_, heq⟩ <;> cases heq
    obtain ⟨fresh, rfl, halone, -⟩ := hresumed.stretch.origin heffect
    exact .inr ⟨fresh, rfl, halone⟩

theorem Recorded.next (hformed : WellFormed system) (hone : OneTask system)
    (hrecorded : Recorded system) (hended : respawnsEnded system self frame input = true)
    (hresumed : Resumed system self input frame move) : Recorded (move.next system self) := by
  intro id child driver hat
  rw [children_next]
  rcases hformed.mirrored.at_next hat with ⟨rfl, heq⟩ | ⟨hne, hold⟩ | ⟨-, hspawned⟩
  · obtain ⟨mailbox, -, -, heffect⟩ := hresumed.stretch.of_driving heq
    simp [heffect, Effect.apply, Runtime.launch, Runtime.setChild]
  · have hcurrent := hone id child _ hold rfl
    rcases Effect.driver_cases move.effect system.shared child with
      heq | ⟨_, _, heffect⟩ | ⟨_, heffect⟩ | ⟨_, _, _, -, heq⟩
    · exact heq.trans (hrecorded id child driver hold)
    · obtain ⟨fresh, rfl, -⟩ := hresumed.stretch.origin heffect
      have hself := hone self child _ hresumed.here (hformed.mirrored.live_self hresumed)
      exact absurd (hcurrent.symm.trans hself) hne
    · obtain ⟨_, _, rfl, -⟩ := hresumed.stretch.origin heffect
      have hdone : system.shared.isDone (system.shared.children child).task = true := hended
      rw [hcurrent, hformed.mirrored.isDone_of_at hold] at hdone
      cases hdone
    · have hlt := hformed.known.frames _ _ hold child List.mem_cons_self
      exact absurd hlt (heq ▸ Nat.lt_irrefl _)
  · cases hresumed.stretch.attempting_of_spawned hspawned

theorem Supervised.next (hformed : WellFormed system) (hsupervised : Supervised system)
    (hended : respawnsEnded system self frame input = true)
    (hresumed : Resumed system self input frame move) : Supervised (move.next system self) :=
  ⟨hsupervised.one.next hformed hended hresumed,
    hsupervised.driven.next hformed.mirrored hresumed,
    hsupervised.recorded.next hformed hsupervised.one hended hresumed⟩

theorem Supervised.start (localId : String) (mailboxCapacity : Option Nat) :
    Supervised (start localId mailboxCapacity) where
  one := by
    intro id child stage hat
    cases (at_start hat).2
  driven := by
    intro id child mailbox stage hat
    cases (at_start hat).2
  recorded := by
    intro id child driver hat
    cases (at_start hat).2

end Step

namespace Fixed

def go (id : TaskId) : Action := .resume id .go

def ask (call : Call) : Action := .resume 0 (.call call)

def launch (task driver : TaskId) : List Action := [.resume task (.constructed none), go driver]

def busy (name : String) (driver : TaskId) : List Action :=
  [ask (.sendLocal name (.user "work")), go driver]

def crash (task driver : TaskId) : List Action :=
  [.resume driver (.raised ⟨"ValueError", "boom"⟩), go task, .resume task (.clock 1)]

def crashing : List Action :=
  [ask (.newSupervisor {}), ask (.spawn 0 "worker")] ++ launch 1 2 ++
    [ask (.sendLocal "worker" (.user "first")), ask (.sendLocal "worker" (.user "second")),
      ask (.sendLocal "worker" (.user "third")), go 2] ++
    crash 1 2 ++ [go 1, go 1, go 1] ++ launch 1 3 ++ [go 3]

def pair : List Action :=
  [ask (.newSupervisor { strategy := .oneForAll }), ask (.spawn 0 "slow"), ask (.spawn 0 "first")] ++
    launch 1 3 ++ launch 2 4 ++ busy "slow" 3 ++ busy "first" 4

def watched (strategy : Strategy) : List Action :=
  [ask (.newSupervisor { strategy }), ask (.newSupervisor {}), ask (.spawn 0 "worker"),
    ask (.spawn 1 "watcher")] ++ launch 1 3 ++ launch 2 4 ++
    [ask (.monitor 1 ⟨none, "worker"⟩ 7)]

def swept : List Action :=
  pair ++ crash 2 4 ++ [go 2, go 2, .resume 3 .unwound, go 1, go 1] ++
    [go 2, go 2, go 2, go 2, .resume 2 (.constructed none)] ++ launch 5 7

/-- `first` crashes and waits for `slow` to unwind; `second`, spawned meanwhile, crashes too and waits for the same task. Then `first` respawns `slow`, and so does `second`, which has to stop `first` before. -/
def respawnedTwice : List Action :=
  pair ++ crash 2 4 ++ [go 2, go 2, ask (.spawn 0 "second")] ++ launch 5 6 ++ busy "second" 6 ++
    crash 5 6 ++ [go 5, go 5, .resume 3 .unwound, go 1, go 1] ++
    [go 2, go 2, go 2, go 2, .resume 2 (.constructed none), go 5, go 5] ++
    launch 7 9 ++ [go 8, go 2, go 2] ++
    [go 5, go 5, go 5, go 5, go 5, .resume 5 (.constructed none)] ++ launch 10 13

end Fixed

section Runs

variable {localId : String} {mailboxCapacity : Option Nat} {system : System}

theorem supervised_of_reachable {condition : Condition}
    (hended : ∀ system id frame input, condition system id frame input = true →
      respawnsEnded system id frame input = true)
    (hreach : Machine.ReachableWhere step (Meets condition) (start localId mailboxCapacity) system) :
    WellFormed system ∧ Supervised system := by
  refine WellFormed.invariant Supervised (.start _ _) (.start _ _) ?_ hreach
  intro system self input frame move hformed hsupervised hmeets hresumed
  exact hsupervised.next hformed (hended _ _ _ _ (hresumed.meets hmeets)) hresumed

/-- Two live drivers of one child, or of one mailbox, are the same task, in every run in which no sibling is respawned while its task runs. -/
theorem one_live_driver {first second : TaskId} {child other : ChildId}
    {mailbox shared : MailboxId} {stage later : DriverStage}
    (hreach : Machine.ReachableWhere step (Meets respawnsEnded) (start localId mailboxCapacity)
      system)
    (hfirst : At system first (.driver child mailbox stage))
    (hsecond : At system second (.driver other shared later))
    (hlive : system.shared.isDone first = false) (hlive' : system.shared.isDone second = false)
    (hsame : child = other ∨ mailbox = shared) : first = second := by
  obtain ⟨hformed, hone, hdriven, -⟩ := supervised_of_reachable (fun _ _ _ _ h => h) hreach
  have hown : ∀ {id child mailbox stage}, At system id (.driver child mailbox stage) →
      mailbox = child := fun hat => hformed.known.mailbox _ _
    (hformed.known.frames _ _ hat _ List.mem_cons_self) (hformed.known.reads _ _ _ _ hat)
  obtain rfl : child = other := by
    rcases hsame with heq | rfl
    · exact heq
    · exact (hown hfirst).symm.trans (hown hsecond)
  rw [hformed.mirrored.isDone_of_at hfirst] at hlive
  rw [hformed.mirrored.isDone_of_at hsecond] at hlive'
  obtain ⟨task, htask⟩ := hdriven _ _ _ _ hfirst hlive
  obtain ⟨task', htask'⟩ := hdriven _ _ _ _ hsecond hlive'
  -- both tasks are the one in the child's record
  obtain rfl : task = task' := (hone _ _ _ htask rfl).symm.trans (hone _ _ _ htask' rfl)
  cases Option.some.inj (htask.symm.trans htask')
  rfl

theorem one_live_driver_swept :
    ∃ system, Machine.ReachableWhere step (Meets respawnsEnded) (start "node" none) system ∧
      At system 7 (.driver 0 0 .getting) ∧ system.shared.isDone 7 = false ∧
      ∀ id stage, At system id (.driver 0 0 stage) → system.shared.isDone id = false → id = 7 := by
  have hrun : (Machine.runWhere step (Meets respawnsEnded) (start "node" none) Fixed.swept).map
      (fun system => (system.tasks[7]?, system.shared.isDone 7)) =
      some (some ⟨7, .driver 0 0 .getting⟩, false) := by
    decide +kernel
  obtain ⟨system, hreach, hobserved⟩ := Machine.exists_reachableWhere hrun
  obtain ⟨hat, hlive⟩ := Prod.mk.inj hobserved
  exact ⟨system, hreach, hat, hlive, fun id stage hother hlive' =>
    one_live_driver hreach hother hat hlive' hlive (.inl rfl)⟩

/-- A child whose task was replaced while it ran has two generations, which read the same mailbox. -/
theorem two_live_drivers :
    ∃ system, Machine.Reachable step (start "node" none) system ∧
      At system 9 (.driver 0 0 .getting) ∧ At system 13 (.driver 0 0 .getting) ∧
      system.shared.isDone 9 = false ∧ system.shared.isDone 13 = false := by
  have hrun : (Machine.runWhere step (fun _ _ => True) (start "node" none)
      Fixed.respawnedTwice).map (fun system => (system.tasks[9]?, system.tasks[13]?,
        system.shared.isDone 9, system.shared.isDone 13)) =
      some (some ⟨9, .driver 0 0 .getting⟩, some ⟨13, .driver 0 0 .getting⟩, false, false) := by
    decide +kernel
  obtain ⟨system, hreach, hobserved⟩ := Machine.exists_reachableWhere hrun
  simp only [Prod.mk.injEq] at hobserved
  exact ⟨system, hreach, hobserved⟩

end Runs

end LapinBeam.Actor
