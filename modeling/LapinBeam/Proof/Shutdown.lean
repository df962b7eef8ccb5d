import LapinBeam.Proof.Ending

/-!
# Shutting down against link exits

A shutdown and a link kill reach the task of an actor as the same `CancelledError`. What tells them
apart is `pending_exit`: if an exit signal has set it by the time the generation has unwound, the
shutdown is taken for a crash and the actor comes back. Two linked actors that are shut down
together do this to each other, when one of them is done while the other one is still in its
handler.
-/

namespace LapinBeam.Actor

open Asyncio (TaskId)

def Frame.shuts : Frame → Option TaskId
  | .outside (task :: _) => some task
  | .child _ (.cancelling _ (task :: _) _) | .child _ (.closing (task :: _) _) => some task
  | _ => none

/-- A sibling gets a new task only when its old one is done, no sweep takes the child along, no exit signal hits a driver that is being cancelled, and handlers let cancellations through. -/
def lettingEnd (child : ChildId) : Condition :=
  both (both respawnsEnded (sparing child)) (both exitsApart unwinds)

structure ShutDown (child : ChildId) (task bound : TaskId) (system : System) : Prop where
  spawned : child < system.shared.nextChild
  current : (system.shared.children child).task = task
  ending : Ending system task child
  unswept : Unswept child system
  old : ∀ id mailbox stage, At system id (.driver child mailbox stage) → id < bound

section Step

variable {system : System} {self task bound : TaskId} {input : Input} {frame : Frame} {move : Move}
  {child : ChildId}

theorem ShutDown.next (hformed : WellFormed system) (hsupervised : Supervised system)
    (hshut : ShutDown child task bound system)
    (hletting : lettingEnd child system self frame input = true)
    (hresumed : Resumed system self input frame move) :
    ShutDown child task bound (move.next system self) := by
  obtain ⟨hfirst, hsecond⟩ := Bool.and_eq_true_iff.mp hletting
  obtain ⟨-, hspared⟩ := Bool.and_eq_true_iff.mp hfirst
  obtain ⟨hapart, hunwinds⟩ := Bool.and_eq_true_iff.mp hsecond
  exact
    { spawned := Known.lt_next self (.inl hshut.spawned)
      current := (hshut.unswept.task_next hresumed hshut.spawned).trans hshut.current
      ending := hshut.ending.next hformed.mirrored hsupervised.recorded hapart hunwinds hresumed
      unswept := hshut.unswept.next hformed.mirrored hspared hresumed
      old := by
        intro id mailbox stage hat
        rcases hresumed.driver_before hformed.mirrored hat with
          ⟨before, hold⟩ | ⟨fresh, rfl, halone⟩
        · exact hshut.old id mailbox before hold
        · -- only the current task of the child could start one
          have hself := hsupervised.one self child _ hresumed.here
            (hformed.mirrored.live_self hresumed)
          obtain rfl := hshut.current.symm.trans hself
          rw [hshut.ending.not_attempting hresumed.here] at halone
          cases halone }

theorem Frame.lenient_of_shuts (frame : Frame) (child : ChildId) (hshuts : frame.shuts = some task) :
    respawnsEnded system self frame input = true ∧
      sparing child system self frame input = true := by
  revert hshuts
  fun_cases Frame.shuts <;> rintro ⟨⟩ <;> exact ⟨rfl, rfl⟩

theorem Resumed.effect_of_shuts (hresumed : Resumed system self .go frame move)
    (hshuts : frame.shuts = some task) : move.effect = .cancel task := by
  have hmove := hresumed.eq_some
  revert hshuts
  fun_cases Frame.shuts <;> rintro ⟨⟩ <;> cases hmove <;> rfl

theorem ending_of_shuts (hformed : WellFormed system) {stage : ChildStage}
    (hresumed : Resumed system self .go frame move) (hshuts : frame.shuts = some task)
    (hat : At system task (.child child stage))
    (hfree : ∀ crash siblings rest other, stage ≠ .awaiting crash siblings rest other)
    (hexit : ∀ driver, stage = .driving driver →
      (system.shared.children child).pendingExit = none) :
    Ending (move.next system self) task child := by
  by_cases hself : task = self
  · subst hself
    obtain rfl := hresumed.here.unique hat
    have hleaving : stage.leaving = true := by
      cases stage <;> first | rfl | cases hshuts
    obtain ⟨later, heq, hlater⟩ := hresumed.stretch.leaving_of_leaving hleaving
    exact .leaving (heq ▸ Mirrored.at_next_self hresumed) hlater
  · exact ending_of_cancel hformed hresumed (hresumed.effect_of_shuts hshuts) hat hself hfree hexit

theorem shutDown_of_shuts (hformed : WellFormed system) {stage : ChildStage}
    (hresumed : Resumed system self .go frame move) (hshuts : frame.shuts = some task)
    (hat : At system task (.child child stage))
    (hcurrent : (system.shared.children child).task = task)
    (hfree : ∀ crash siblings rest other, stage ≠ .awaiting crash siblings rest other)
    (hexit : ∀ driver, stage = .driving driver →
      (system.shared.children child).pendingExit = none)
    (hunswept : Unswept child system) :
    ShutDown child task system.shared.nextTask (move.next system self) := by
  have hspawned := hformed.known.frames _ _ hat child List.mem_cons_self
  refine ⟨Known.lt_next self (.inl hspawned),
    (hunswept.task_next hresumed hspawned).trans hcurrent,
    ending_of_shuts hformed hresumed hshuts hat hfree hexit,
    hunswept.next hformed.mirrored (frame.lenient_of_shuts child hshuts).2 hresumed, ?_⟩
  · intro id mailbox later hdriver
    rcases hresumed.driver_before hformed.mirrored hdriver with ⟨_, hbefore⟩ | ⟨_, rfl, -⟩
    · exact hformed.mirrored.lt_of_at hbefore
    · cases hshuts

end Step

/-- Once its task has been cancelled a child starts no generation any more, in every run in which its end is let happen. -/
theorem shutdown_wins {localId : String} {mailboxCapacity : Option Nat}
    {before after later : System} {self task : TaskId} {frame : Frame} {child : ChildId}
    {stage : ChildStage}
    (hbefore : Machine.ReachableWhere step (Meets respawnsEnded) (start localId mailboxCapacity)
      before)
    (hself : At before self frame) (hshuts : frame.shuts = some task)
    (hat : At before task (.child child stage))
    (hcurrent : (before.shared.children child).task = task)
    (hfree : ∀ crash siblings rest other, stage ≠ .awaiting crash siblings rest other)
    (hexit : ∀ driver, stage = .driving driver →
      (before.shared.children child).pendingExit = none)
    (hunswept : Unswept child before) (hstep : step before (.resume self .go) = some after)
    (hlater : Machine.ReachableWhere step (Meets (lettingEnd child)) after later)
    {id : TaskId} {mailbox : MailboxId} {generation : DriverStage}
    (hdriver : At later id (.driver child mailbox generation)) : id < before.shared.nextTask := by
  obtain ⟨hformed, hsupervised⟩ := supervised_of_reachable (fun _ _ _ _ h => h) hbefore
  obtain ⟨_, _, other, move, hresumed, hresume, rfl⟩ := hformed.mirrored.step_cases hstep
  cases hresume
  obtain rfl := hresumed.here.unique hself
  have hinv : WellFormed later ∧ Supervised later ∧
      ShutDown child task before.shared.nextTask later := by
    refine WellFormed.invariant
      (fun system => Supervised system ∧ ShutDown child task before.shared.nextTask system)
      (hformed.next hresumed) ⟨?_, ?_⟩ ?_ hlater
    · exact hsupervised.next hformed (other.lenient_of_shuts child hshuts).1 hresumed
    · exact shutDown_of_shuts hformed hresumed hshuts hat hcurrent hfree hexit hunswept
    · rintro system self input frame move hformed ⟨hsupervised, hshut⟩ hmeets hresumed
      have hletting := hresumed.meets hmeets
      have hended := (Bool.and_eq_true_iff.mp (Bool.and_eq_true_iff.mp hletting).1).1
      exact ⟨hsupervised.next hformed hended hresumed,
        hshut.next hformed hsupervised hletting hresumed⟩
  exact hinv.2.2.old id mailbox generation hdriver

namespace Fixed

def linked : List Action :=
  [ask (.newSupervisor {}), ask (.spawn 0 "slow"), ask (.spawn 0 "first")] ++
    launch 1 3 ++ launch 2 4 ++ [ask (.link 1 ⟨none, "slow"⟩)] ++ busy "slow" 3 ++
    [ask (.shutdown 0)]

/-- Both are cancelled and unwind, `slow` before anybody hears of it. -/
def unwinding : List Action :=
  [go 0, .resume 3 .unwound, go 1, go 1, go 4, go 2, go 2]

/-- `first` is done, and its exit signal reaches `slow` in its handler: it is restarted. -/
def outliving : List Action :=
  [go 0, go 4, go 2, go 2, go 5, .resume 3 .unwound, go 1, .resume 1 (.clock 1), go 1, go 1, go 1] ++
    launch 1 6

end Fixed

theorem shutdown_wins_linked :
    ∃ before after later, Machine.ReachableWhere step (Meets respawnsEnded) (start "node" none)
        before ∧ At before 0 (.outside [1, 2]) ∧ step before (Fixed.go 0) = some after ∧
      Machine.ReachableWhere step (Meets (lettingEnd 0)) after later ∧
      later.shared.isDone 1 = true ∧
      ∀ id mailbox stage, At later id (.driver 0 mailbox stage) → id < before.shared.nextTask := by
  have hrun : (Machine.runWhere step (Meets respawnsEnded) (start "node" none)
      Fixed.linked).map (fun before => (before.tasks[0]?, before.tasks[1]?,
        decide ((before.shared.children 0).task = 1 ∧
          (before.shared.children 0).pendingExit = none),
        (before.tasks.all fun task => task.frame.spares 0),
        (step before (Fixed.go 0)).bind fun after =>
          (Machine.runWhere step (Meets (lettingEnd 0)) after Fixed.unwinding).map fun later =>
            later.shared.isDone 1)) =
      some (some ⟨0, .outside [1, 2]⟩, some ⟨1, .child 0 (.driving 3)⟩, true, true, some true) := by
    decide +kernel
  obtain ⟨before, hreach, hobserved⟩ := Machine.exists_reachableWhere hrun
  simp only [Prod.mk.injEq, decide_eq_true_eq] at hobserved
  obtain ⟨hself, hat, ⟨hcurrent, hexit⟩, hfree, hrest⟩ := hobserved
  obtain ⟨after, hafter, hlater⟩ := Option.bind_eq_some_iff.mp hrest
  obtain ⟨later, hreach', hdone⟩ := Machine.exists_reachableWhere hlater
  exact ⟨before, after, later, hreach, hself, hafter, hreach', hdone, fun id mailbox stage hdriver =>
    shutdown_wins hreach hself rfl hat hcurrent (fun _ _ _ _ heq => nomatch heq)
      (fun _ _ => hexit) (unswept_of_all hfree) hafter hreach' hdriver⟩

/-- An actor that was shut down is restarted by the exit signal of one that was shut down with it. -/
theorem shutdown_loses :
    ∃ before after later, Machine.Reachable step (start "node" none) before ∧
      At before 0 (.outside [1, 2]) ∧ (before.shared.children 0).task = 1 ∧
      At before 1 (.child 0 (.driving 3)) ∧ step before (Fixed.go 0) = some after ∧
      Machine.Reachable step after later ∧ before.shared.nextTask ≤ 6 ∧
      At later 6 (.driver 0 0 .getting) := by
  have hrun : (Machine.runWhere step (fun _ _ => True) (start "node" none)
      Fixed.linked).map (fun before => (before.tasks[0]?, before.tasks[1]?,
        decide ((before.shared.children 0).task = 1 ∧ before.shared.nextTask ≤ 6),
        (step before (Fixed.go 0)).bind fun after =>
          (Machine.runWhere step (fun _ _ => True) after Fixed.outliving).map fun later =>
            later.tasks[6]?)) =
      some (some ⟨0, .outside [1, 2]⟩, some ⟨1, .child 0 (.driving 3)⟩, true,
        some (some ⟨6, .driver 0 0 .getting⟩)) := by
    decide +kernel
  obtain ⟨before, hreach, hobserved⟩ := Machine.exists_reachableWhere hrun
  simp only [Prod.mk.injEq, decide_eq_true_eq] at hobserved
  obtain ⟨hself, hat, ⟨hcurrent, hbound⟩, hrest⟩ := hobserved
  obtain ⟨after, hafter, hlater⟩ := Option.bind_eq_some_iff.mp hrest
  obtain ⟨later, hreach', hdriver⟩ := Machine.exists_reachableWhere hlater
  exact ⟨before, after, later, hreach, hself, hcurrent, hat, hafter, hreach', hbound, hdriver⟩

end LapinBeam.Actor
