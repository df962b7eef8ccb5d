import LapinBeam.Proof.Generations

/-!
# Children that start no further generation

A generation is started by the live task of its child at the top of its loop. So a child has had its
last one when its task is done, or when it is on a way out that does not lead back to the loop, and
no crash handler of a sibling has it on its list of children to respawn.

A cancellation puts a task on its way out (`Ending`) unless it is dropped: `_teardown_sibling` drops
one that arrives while it awaits, a pending link exit turns it into a crash, and a handler may catch
it.
-/

namespace LapinBeam.Actor

open Asyncio (TaskId Loop)

def both (left right : Condition) : Condition := fun system id frame input =>
  left system id frame input && right system id frame input

/-- No crash handler that wakes up finds the child among the siblings it has to restart. -/
def sparing (child : ChildId) : Condition
  | ⟨runtime, _⟩, _, .child other (.backingOff _), _ =>
      match (runtime.supervisorOf other).affectedChildren other with
      | none => true
      | some affected => child = other || !affected.contains child
  | _, _, _, _ => true

def Unswept (child : ChildId) (system : System) : Prop :=
  ∀ id other stage, At system id (.child other stage) → child ∉ stage.siblings

def Frame.spares (child : ChildId) : Frame → Bool
  | .child _ stage => !stage.siblings.contains child
  | _ => true

theorem unswept_of_all {child : ChildId} {system : System}
    (hall : (system.tasks.all fun task => task.frame.spares child) = true) :
    Unswept child system := by
  intro id other stage hat hmem
  have hfree := List.all_eq_true.mp hall _ (List.mem_of_getElem? hat)
  simp [Frame.spares, hmem] at hfree

section Step

variable {system : System} {self : TaskId} {input : Input} {frame : Frame} {move : Move}
  {child : ChildId}

theorem Stretch.siblings_cases {runtime : Runtime} {other : ChildId} {stage : ChildStage}
    (hstretch : Stretch runtime self frame move) (heq : .child other stage = move.frame)
    (hmem : child ∈ stage.siblings) :
    (∃ before, frame = .child other before ∧ child ∈ before.siblings) ∨
      ∃ crash affected, frame = .child other (.backingOff crash) ∧
        (runtime.supervisorOf other).affectedChildren other = some affected ∧
        child ∈ affected ∧ child ≠ other := by
  cases hstretch with
  | woken _ haffected =>
      cases heq
      simp only [ChildStage.siblings, List.mem_append, or_self, List.mem_filter,
        decide_eq_true_eq] at hmem
      exact .inr ⟨_, _, rfl, haffected, hmem⟩
  | alreadyDone | tear | torn | tornAll | respawn =>
      cases heq
      refine .inl ⟨_, rfl, ?_⟩
      simp only [ChildStage.siblings, List.mem_append, List.mem_cons] at hmem ⊢
      tauto
  | _ => cases heq <;> simp [ChildStage.siblings] at hmem

theorem Unswept.next (hmirrored : Mirrored system) (hunswept : Unswept child system)
    (hspared : sparing child system self frame input = true)
    (hresumed : Resumed system self input frame move) : Unswept child (move.next system self) := by
  intro id other stage hat hmem
  rcases hmirrored.at_next hat with ⟨rfl, heq⟩ | ⟨-, hold⟩ | ⟨-, hspawned⟩
  · rcases hresumed.stretch.siblings_cases heq hmem with
      ⟨before, rfl, hbefore⟩ | ⟨crash, affected, rfl, haffected, hlisted, hne⟩
    · exact hunswept id other before hresumed.here hbefore
    · simp [sparing, haffected, hlisted, hne] at hspared
  · exact hunswept id other stage hold hmem
  · cases hresumed.stretch.attempting_of_spawned hspawned
    cases hmem

theorem Unswept.task_next (hresumed : Resumed system self input frame move)
    (hunswept : Unswept child system) (hspawned : child < system.shared.nextChild) :
    ((move.next system self).shared.children child).task = (system.shared.children child).task := by
  refine Known.task_next self hspawned ?_
  intro task heffect
  obtain ⟨other, rest, rfl, -⟩ := hresumed.stretch.origin heffect
  exact hunswept self other _ hresumed.here List.mem_cons_self

end Step

/-- An exit signal hits a driver that has no cancellation pending. -/
def exitsApart : Condition := fun system id frame input =>
  match frame.move system.shared id input with
  | none => true
  | some move =>
      match (move.effect.exitTarget system.shared).bind system.shared.victim with
      | none => true
      | some (_, driver) => !system.shared.cancelled driver

def unwinds : Condition
  | system, id, .driver _ _ (.handling _), input | system, id, .child _ .building, input =>
      !system.shared.cancelled id || input = .unwound
  | _, _, _, _ => true

def ChildStage.parked : ChildStage → Bool
  | .attempting fresh => fresh
  | .backingOff _ | .building | .waiting => true
  | _ => false

def ChildStage.leaving : ChildStage → Bool
  | .exhausted _ | .cancelling _ _ _ | .gathering _ _ | .notifying _ _ _ | .closing _ _
  | .draining _ | .finished _ => true
  | _ => false

inductive DriverEnding (system : System) (driver : TaskId) : Prop
  | ended {child : ChildId} {mailbox : MailboxId}
      (hat : At system driver (.driver child mailbox (.finished .cancelled)))
  | marked {child : ChildId} {mailbox : MailboxId} {stage : DriverStage}
      (hat : At system driver (.driver child mailbox stage))
      (hlive : (Frame.driver child mailbox stage).isDone = false)
      (hcancelled : system.shared.cancelled driver = true)

inductive Ending (system : System) (task : TaskId) (child : ChildId) : Prop
  | parked {stage : ChildStage} (hat : At system task (.child child stage))
      (hparked : stage.parked = true) (hcancelled : system.shared.cancelled task = true)
  | cancelled {driver : TaskId} (hat : At system task (.child child (.driving driver)))
      (hexit : (system.shared.children child).pendingExit = none)
      (hcancelled : system.shared.cancelled task = true)
  | driving {driver : TaskId} (hat : At system task (.child child (.driving driver)))
      (hexit : (system.shared.children child).pendingExit = none)
      (hdriver : DriverEnding system driver)
  | leaving {stage : ChildStage} (hat : At system task (.child child stage))
      (hleaving : stage.leaving = true)

section Ending

variable {system : System} {self task driver : TaskId} {input : Input} {frame : Frame} {move : Move}
  {child : ChildId} {runtime : Runtime}

theorem Ending.exists_at (hending : Ending system task child) :
    ∃ stage, At system task (.child child stage) := by
  cases hending with
  | parked hat | cancelled hat | driving hat | leaving hat => exact ⟨_, hat⟩

theorem Stretch.leaving_of_leaving {stage : ChildStage}
    (hstretch : Stretch runtime self (.child child stage) move) (hleaving : stage.leaving = true) :
    ∃ later, move.frame = .child child later ∧ later.leaving = true := by
  cases hstretch <;> first | exact ⟨_, rfl, rfl⟩ | cases hleaving

theorem Resumed.leaving_of_parked {stage : ChildStage}
    (hresumed : Resumed system self input (.child child stage) move)
    (hparked : stage.parked = true) (hcancelled : system.shared.cancelled self = true)
    (hunwinds : unwinds system self (.child child stage) input = true) :
    ∃ later, move.frame = .child child later ∧ later.leaving = true := by
  by_cases hbuilding : stage = .building
  · subst hbuilding
    obtain rfl : input = .unwound := by simpa [unwinds, hcancelled] using hunwinds
    cases hresumed.eq_some
    exact ⟨_, rfl, rfl⟩
  · cases hresumed.stretch <;> first | exact ⟨_, rfl, rfl⟩ | simp_all [ChildStage.parked]

theorem DriverEnding.ended_of_resumed (hmirrored : Mirrored system)
    (hdriver : DriverEnding system self) (hunwinds : unwinds system self frame input = true)
    (hresumed : Resumed system self input frame move) :
    ∃ child mailbox, move.frame = .driver child mailbox (.finished .cancelled) := by
  cases hdriver with
  | ended hat =>
      obtain rfl := hresumed.here.unique hat
      cases hmirrored.live_self hresumed
  | marked hat _ hcancelled =>
      obtain rfl := hresumed.here.unique hat
      have hmove := hresumed.eq_some
      cases hresumed.stretch with
      | driverCancelled | unwound => exact ⟨_, _, rfl⟩
      | driverStarted halone | received halone => rw [halone] at hcancelled; cases hcancelled
      | handled | driverRaised | driverEscaped =>
          obtain rfl : input = .unwound := by simpa [unwinds, hcancelled] using hunwinds
          cases hmove

theorem DriverEnding.next (hmirrored : Mirrored system) (hdriver : DriverEnding system driver)
    (hunwinds : unwinds system self frame input = true)
    (hresumed : Resumed system self input frame move) :
    DriverEnding (move.next system self) driver := by
  by_cases hself : driver = self
  · subst hself
    obtain ⟨child, mailbox, heq⟩ := hdriver.ended_of_resumed hmirrored hunwinds hresumed
    exact .ended (heq ▸ Mirrored.at_next_self hresumed)
  · cases hdriver with
    | ended hat => exact .ended (Mirrored.at_next_other hself hat)
    | marked hat hlive hcancelled =>
        exact .marked (Mirrored.at_next_other hself hat) hlive
          (hmirrored.cancelled_next hself hat hcancelled)

theorem Runtime.victim_eq_some {target : String}
    (hvictim : runtime.victim target = some (child, driver)) :
    (runtime.children child).driver = some driver ∧ runtime.isDone driver = false := by
  revert hvictim
  fun_cases Runtime.victim <;> rintro ⟨⟩
  exact ⟨‹_›, Bool.eq_false_iff.mpr ‹_›⟩

theorem pendingExit_next (hrecorded : Recorded system)
    (hat : At system task (.child child (.driving driver)))
    (hexit : (system.shared.children child).pendingExit = none)
    (hending : system.shared.isDone driver = true ∨ system.shared.cancelled driver = true)
    (hapart : exitsApart system self frame input = true)
    (hresumed : Resumed system self input frame move) :
    ((move.next system self).shared.children child).pendingExit = none := by
  rw [children_next]
  rcases Effect.pendingExit_cases move.effect system.shared child hexit with
    hnone | ⟨target, hit, haim, hvictim⟩
  · exact hnone
  obtain ⟨hdriver, hlive⟩ := Runtime.victim_eq_some hvictim
  obtain rfl := Option.some.inj (hdriver.symm.trans (hrecorded task child driver hat))
  rcases hending with hdone | hcancelled
  · rw [hdone] at hlive
    cases hlive
  · simp [exitsApart, hresumed.eq_some, haim, hvictim, hcancelled] at hapart

theorem DriverEnding.isDone_or_cancelled (hmirrored : Mirrored system)
    (hdriver : DriverEnding system driver) :
    system.shared.isDone driver = true ∨ system.shared.cancelled driver = true := by
  cases hdriver with
  | ended hat => exact .inl (hmirrored.isDone_of_at hat)
  | marked _ _ hcancelled => exact .inr hcancelled

theorem DriverEnding.outcomeOf_eq (hmirrored : Mirrored system)
    (hdriver : DriverEnding system driver) (hdone : system.shared.isDone driver = true) :
    system.shared.outcomeOf driver = .cancelled := by
  cases hdriver with
  | ended hat => simp [Runtime.outcomeOf, hmirrored.await _ _ hat, Frame.await, DriverStage.await]
  | marked hat hlive =>
      rw [hmirrored.isDone_of_at hat, hlive] at hdone
      cases hdone

theorem Stretch.leaving_of_driving
    (hstretch : Stretch runtime self (.child child (.driving driver)) move)
    (hexit : (runtime.children child).pendingExit = none)
    (hended : runtime.cancelled self = true ∨ runtime.outcomeOf driver = .cancelled) :
    ∃ later, move.frame = .child child later ∧ later.leaving = true := by
  cases hstretch with
  | shut | completed => exact ⟨_, rfl, rfl⟩
  | killed _ hsome => rw [hexit] at hsome; cases hsome
  | crashed halone hraised | escaped halone hraised => simp [halone, hraised] at hended

theorem Ending.leaving_of_resumed (hmirrored : Mirrored system) (hending : Ending system self child)
    (hunwinds : unwinds system self frame input = true)
    (hresumed : Resumed system self input frame move) :
    ∃ later, move.frame = .child child later ∧ later.leaving = true := by
  cases hending with
  | parked hat hparked hcancelled =>
      obtain rfl := hresumed.here.unique hat
      exact hresumed.leaving_of_parked hparked hcancelled hunwinds
  | cancelled hat hexit hcancelled =>
      obtain rfl := hresumed.here.unique hat
      exact hresumed.stretch.leaving_of_driving hexit (.inl hcancelled)
  | driving hat hexit hdriver =>
      obtain rfl := hresumed.here.unique hat
      have hdone := hmirrored.isDone_of_driving hat hresumed.ready
      exact hresumed.stretch.leaving_of_driving hexit (.inr (hdriver.outcomeOf_eq hmirrored hdone))
  | leaving hat hleaving =>
      obtain rfl := hresumed.here.unique hat
      exact hresumed.stretch.leaving_of_leaving hleaving

theorem Ending.next (hmirrored : Mirrored system) (hrecorded : Recorded system)
    (hending : Ending system task child) (hapart : exitsApart system self frame input = true)
    (hunwinds : unwinds system self frame input = true)
    (hresumed : Resumed system self input frame move) : Ending (move.next system self) task child := by
  by_cases hself : task = self
  · subst hself
    obtain ⟨later, heq, hleaving⟩ := hending.leaving_of_resumed hmirrored hunwinds hresumed
    exact .leaving (heq ▸ Mirrored.at_next_self hresumed) hleaving
  cases hending with
  | parked hat hparked hcancelled =>
      exact .parked (Mirrored.at_next_other hself hat) hparked
        (hmirrored.cancelled_next hself hat hcancelled)
  | cancelled hat hexit hcancelled =>
      have hdone := hmirrored.settled task _ hcancelled (hmirrored.await _ _ hat)
      exact .cancelled (Mirrored.at_next_other hself hat)
        (pendingExit_next hrecorded hat hexit (.inl hdone) hapart hresumed)
        (hmirrored.cancelled_next hself hat hcancelled)
  | driving hat hexit hdriver =>
      exact .driving (Mirrored.at_next_other hself hat)
        (pendingExit_next hrecorded hat hexit (hdriver.isDone_or_cancelled hmirrored) hapart hresumed)
        (hdriver.next hmirrored hunwinds hresumed)
  | leaving hat hleaving => exact .leaving (Mirrored.at_next_other hself hat) hleaving

theorem Ending.not_attempting (hending : Ending system task child) {fresh : Bool}
    (hat : At system task (.child child (.attempting fresh))) :
    (fresh && system.shared.cancelled task) = true := by
  cases hending with
  | parked hother hparked hcancelled =>
      cases hat.unique hother
      exact Bool.and_eq_true_iff.mpr ⟨hparked, hcancelled⟩
  | cancelled hother | driving hother => cases hat.unique hother
  | leaving hother hleaving =>
      cases hat.unique hother
      cases hleaving

theorem Mirrored.cancelled_of_targets (hmirrored : Mirrored system) {target : TaskId}
    {other : Frame} (heffect : move.effect = .cancel task) (hat : At system target other)
    (hne : target ≠ self)
    (htarget : target ∈ system.shared.loop.targets system.shared.nextTask task) :
    (move.next system self).shared.cancelled target = true := by
  rw [Runtime.cancelled, loop_next _ _ _ (hmirrored.lt_of_at hat), if_neg hne, heffect]
  exact Loop.mustCancel_cancel.mpr (.inr htarget)

theorem DriverStage.await_of_live {mailbox : MailboxId} {stage : DriverStage}
    (hlive : (Frame.driver child mailbox stage).isDone = false) : stage.await = .outside := by
  cases stage with
  | finished => cases hlive
  | _ => rfl

theorem ending_of_cancel_driving (hformed : WellFormed system)
    (hresumed : Resumed system self input frame move) (heffect : move.effect = .cancel task)
    (hat : At system task (.child child (.driving driver))) (hne : task ≠ self)
    (hexit : (system.shared.children child).pendingExit = none) :
    Ending (move.next system self) task child := by
  have hmirrored := hformed.mirrored
  have hlater : At (move.next system self) task (.child child (.driving driver)) :=
    Mirrored.at_next_other hne hat
  have hexit' : ((move.next system self).shared.children child).pendingExit = none := by
    rw [children_next, heffect]
    exact hexit
  have hawait := hmirrored.await _ _ hat
  have hlt := hmirrored.lt_of_at hat
  obtain ⟨depth, hdepth⟩ := Nat.exists_eq_add_one.mpr (Nat.zero_lt_of_lt hlt)
  obtain ⟨mailbox, stage, hdriver⟩ := hformed.known.drives task child driver hat
  cases hdone : system.shared.isDone driver with
  | true =>
      refine .cancelled hlater hexit' (hmirrored.cancelled_of_targets heffect hat hne ?_)
      rw [hdepth]
      exact Loop.mem_targets_of_task hawait hdone
  | false =>
      have hlive := (hmirrored.isDone_of_at hdriver).symm.trans hdone
      have hapart : driver ≠ self := by
        rintro rfl
        have hrunning := (hresumed.stretch.origin heffect).1
        rw [hresumed.here.unique hdriver, Frame.await, DriverStage.await_of_live hlive] at hrunning
        cases hrunning
      refine .driving hlater hexit' (.marked (Mirrored.at_next_other hapart hdriver) hlive ?_)
      refine hmirrored.cancelled_of_targets heffect hdriver hapart ?_
      -- two different tasks, so the chain is followed to the second
      have htwo : ∃ shallower, depth = shallower + 1 := by
        refine Nat.exists_eq_add_one.mpr (Nat.pos_of_ne_zero ?_)
        rintro rfl
        have hfirst := Nat.lt_one_iff.mp (hdepth ▸ hlt)
        have hsecond := Nat.lt_one_iff.mp (hdepth ▸ hmirrored.lt_of_at hdriver)
        cases hat.unique (hfirst ▸ hsecond ▸ hdriver)
      obtain ⟨shallower, rfl⟩ := htwo
      rw [hdepth, Loop.targets_of_task hawait hdone]
      refine Loop.mem_targets_of_outside ?_
      rw [hmirrored.await _ _ hdriver]
      exact DriverStage.await_of_live hlive

theorem ending_of_cancel (hformed : WellFormed system) {stage : ChildStage}
    (hresumed : Resumed system self input frame move) (heffect : move.effect = .cancel task)
    (hat : At system task (.child child stage)) (hne : task ≠ self)
    (hfree : ∀ crash siblings rest other, stage ≠ .awaiting crash siblings rest other)
    (hexit : ∀ driver, stage = .driving driver →
      (system.shared.children child).pendingExit = none) :
    Ending (move.next system self) task child := by
  have hmirrored := hformed.mirrored
  have hlater : At (move.next system self) task (.child child stage) :=
    Mirrored.at_next_other hne hat
  have hwaits : stage.await ≠ .running := by
    intro hrunning
    have hcurrent := hmirrored.running _ _ hresumed.here (hresumed.stretch.origin heffect).1
    exact hne (Option.some.inj ((hmirrored.running _ _ hat hrunning).symm.trans hcurrent))
  have hparked : stage.await = .outside → stage.parked = true →
      Ending (move.next system self) task child := by
    intro houtside hparked
    refine .parked hlater hparked (hmirrored.cancelled_of_targets heffect hat hne ?_)
    obtain ⟨depth, hdepth⟩ := Nat.exists_eq_add_one.mpr (Nat.zero_lt_of_lt (hmirrored.lt_of_at hat))
    rw [hdepth]
    exact Loop.mem_targets_of_outside ((hmirrored.await _ _ hat).trans houtside)
  cases stage with
  | attempting fresh =>
      cases fresh with
      | true => exact hparked rfl rfl
      | false => exact absurd rfl hwaits
  | driving driver =>
      exact ending_of_cancel_driving hformed hresumed heffect hat hne (hexit driver rfl)
  | backingOff | building | waiting => exact hparked rfl rfl
  | gathering | draining | finished => exact .leaving hlater rfl
  | awaiting => exact absurd rfl (hfree _ _ _ _)
  | _ => exact absurd rfl hwaits

end Ending

end LapinBeam.Actor
