import LapinBeam.Proof.Ending

/-!
# Gone for good

Links and monitors are told of an actor's end when its task ends, and of its absence when its name
is not registered. Neither means that the actor is gone: the name of a child in its backoff is free,
and a child that was cancelled by a sibling's sweep ends like one that was shut down, only to be
respawned by the same sweep. Where absence is reported of ended tasks only, and no crash handler
sweeps up the child, no generation of it follows.
-/

namespace LapinBeam.Actor

open Asyncio (TaskId)

def Call.absent (runtime : Runtime) : Call → Option String
  | .link _ other | .monitor _ other _ =>
      if other.node = none ∧ runtime.names other.name = none then some other.name else none
  | .receive (.link _ target _) | .receive (.monitor _ _ _ target) =>
      if runtime.names target = none then some target else none
  | _ => none

/-- A step that sends somebody an exit signal or a `Down` about a child. -/
inductive Reports (system : System) (self : TaskId) (input : Input) (child : ChildId) : Prop
  | ended {obituary : Obituary} {reason : String} {outcome : Outcome}
      (hat : At system self (.child child (.notifying obituary reason outcome)))
      (hwatched : obituary ≠ {})
  | absent {call : Call} (hat : At system self (.outside [])) (hinput : input = .call call)
      (hspawned : child < system.shared.nextChild)
      (hactor : (system.shared.children child).mailbox ≠ none)
      (habsent : call.absent system.shared = some (system.shared.children child).name)

/-- Absence is reported only of names whose actors have all ended, and a sibling is respawned only when its task is done. -/
def reportsEnded : Condition
  | ⟨runtime, _⟩, _, .outside [], .call call =>
      match call.absent runtime with
      | none => true
      | some name => (List.range runtime.nextChild).all fun child =>
          (runtime.children child).mailbox = none || (runtime.children child).name ≠ name ||
            runtime.isDone (runtime.children child).task
  | system, id, frame, input => respawnsEnded system id frame input

theorem respawnsEnded_of_reportsEnded (system : System) (id : TaskId) (frame : Frame)
    (input : Input) (hreports : reportsEnded system id frame input = true) :
    respawnsEnded system id frame input = true := by
  unfold reportsEnded at hreports
  split at hreports
  · rfl
  · exact hreports

structure Retired (child : ChildId) (bound : TaskId) (system : System) : Prop where
  spawned : child < system.shared.nextChild
  done : system.shared.isDone (system.shared.children child).task = true
  unswept : Unswept child system
  old : ∀ id mailbox stage, At system id (.driver child mailbox stage) → id < bound

section Step

variable {system : System} {self : TaskId} {input : Input} {frame : Frame} {move : Move}
  {child : ChildId} {bound : TaskId}

theorem Retired.next (hformed : WellFormed system) (hone : OneTask system)
    (hretired : Retired child bound system)
    (hspared : sparing child system self frame input = true)
    (hresumed : Resumed system self input frame move) :
    Retired child bound (move.next system self) where
  spawned := Known.lt_next self (.inl hretired.spawned)
  done := by
    rw [hretired.unswept.task_next hresumed hretired.spawned]
    exact hformed.mirrored.isDone_next hresumed hretired.done
  unswept := hretired.unswept.next hformed.mirrored hspared hresumed
  old := by
    intro id mailbox stage hat
    rcases hresumed.driver_before hformed.mirrored hat with ⟨before, hold⟩ | ⟨fresh, rfl, -⟩
    · exact hretired.old id mailbox before hold
    · -- a live task of the child would be the current one, which is done
      have hcurrent := hone self child _ hresumed.here (hformed.mirrored.live_self hresumed)
      have hdone := hretired.done
      rw [hcurrent, Mirrored.isDone_self hresumed.ready] at hdone
      cases hdone

theorem retired_of_reports (hformed : WellFormed system) (hone : OneTask system)
    (hended : reportsEnded system self frame input = true)
    (hunswept : Unswept child system) (hreports : Reports system self input child)
    (hresumed : Resumed system self input frame move) :
    Retired child system.shared.nextTask (move.next system self) := by
  have hold : ∀ {id mailbox before}, At system id (.driver child mailbox before) →
      id < system.shared.nextTask := fun hat => hformed.mirrored.lt_of_at hat
  cases hreports with
  | @ended obituary reason outcome hat hwatched =>
      obtain rfl : frame = .child child (.notifying obituary reason outcome) := hresumed.here.unique hat
      have hspawned := hformed.known.frames _ _ hat child List.mem_cons_self
      refine ⟨Known.lt_next self (.inl hspawned), ?_, hunswept.next hformed.mirrored rfl hresumed, ?_⟩
      · rw [hunswept.task_next hresumed hspawned, hone self child _ hat rfl,
          (hformed.next hresumed).mirrored.isDone_of_at (Mirrored.at_next_self hresumed)]
        cases hresumed.stretch
        rfl
      · intro id mailbox stage hdriver
        rcases hresumed.driver_before hformed.mirrored hdriver with ⟨_, hbefore⟩ | ⟨_, heq, -⟩
        · exact hold hbefore
        · cases heq
  | @absent call hat hinput hspawned hactor habsent =>
      subst hinput
      obtain rfl : frame = .outside [] := hresumed.here.unique hat
      have hdone : system.shared.isDone (system.shared.children child).task = true := by
        simp only [reportsEnded, habsent] at hended
        simpa [hactor] using List.all_eq_true.mp hended child (List.mem_range.mpr hspawned)
      refine ⟨Known.lt_next self (.inl hspawned), ?_, hunswept.next hformed.mirrored rfl hresumed, ?_⟩
      · rw [hunswept.task_next hresumed hspawned]
        exact hformed.mirrored.isDone_next hresumed hdone
      · intro id mailbox stage hdriver
        rcases hresumed.driver_before hformed.mirrored hdriver with ⟨_, hbefore⟩ | ⟨_, heq, -⟩
        · exact hold hbefore
        · cases heq

end Step

/-- Who has been reported gone starts no generation any more, in every run in which absence is reported of ended actors only and no crash handler sweeps up the child. -/
theorem reported_gone_for_good {localId : String} {mailboxCapacity : Option Nat}
    {before after later : System} {self : TaskId} {input : Input} {child : ChildId}
    (hbefore : Machine.ReachableWhere step (Meets reportsEnded) (start localId mailboxCapacity)
      before)
    (hmeets : Meets reportsEnded before (.resume self input))
    (hreports : Reports before self input child) (hunswept : Unswept child before)
    (hstep : step before (.resume self input) = some after)
    (hlater : Machine.ReachableWhere step (Meets (both reportsEnded (sparing child))) after later)
    {id : TaskId} {mailbox : MailboxId} {stage : DriverStage}
    (hdriver : At later id (.driver child mailbox stage)) : id < before.shared.nextTask := by
  obtain ⟨hformed, hsupervised⟩ := supervised_of_reachable respawnsEnded_of_reportsEnded hbefore
  obtain ⟨self, input, frame, move, hresumed, hresume, rfl⟩ := hformed.mirrored.step_cases hstep
  cases hresume
  have hended := hresumed.meets hmeets
  have hinv : WellFormed later ∧ Supervised later ∧
      Retired child before.shared.nextTask later := by
    refine WellFormed.invariant
      (fun system => Supervised system ∧ Retired child before.shared.nextTask system)
      (hformed.next hresumed) ⟨?_, ?_⟩ ?_ hlater
    · exact hsupervised.next hformed (respawnsEnded_of_reportsEnded _ _ _ _ hended) hresumed
    · exact retired_of_reports hformed hsupervised.one hended hunswept hreports hresumed
    · rintro system self input frame move hformed ⟨hsupervised, hretired⟩ hmeets hresumed
      obtain ⟨hended, hspared⟩ := Bool.and_eq_true_iff.mp (hresumed.meets hmeets)
      exact ⟨hsupervised.next hformed (respawnsEnded_of_reportsEnded _ _ _ _ hended) hresumed,
        hretired.next hformed hsupervised.one hspared hresumed⟩
  exact hinv.2.2.old id mailbox stage hdriver

namespace Fixed

def stopping : List Action :=
  watched .oneForOne ++ [ask (.cancelTask 0), go 0, go 3, go 1]

/-- The signal is delivered, and another actor is spawned. -/
def succeeding : List Action := [go 5, ask (.spawn 0 "successor")] ++ launch 6 7

def sweeping : List Action :=
  watched .oneForAll ++ [ask (.spawn 0 "sibling")] ++ launch 5 6 ++ busy "sibling" 6 ++
    crash 5 6 ++ [go 5, go 5, go 3, go 1]

def respawning : List Action :=
  [go 7, go 5, go 5, go 5, go 5, .resume 5 (.constructed none)] ++ launch 8 10

def notifying : Frame :=
  .child 0 (.notifying ⟨[], [(7, ⟨none, "watcher"⟩)]⟩ "shutdown" .cancelled)

theorem reports_of_notifying {system : System} (hat : At system 1 notifying) :
    Reports system 1 .go 0 :=
  .ended hat (by decide)

end Fixed

theorem reported_gone_for_good_stopping :
    ∃ before after later,
      Machine.ReachableWhere step (Meets reportsEnded) (start "node" none) before ∧
      Reports before 1 .go 0 ∧ step before (Fixed.go 1) = some after ∧
      Machine.ReachableWhere step (Meets (both reportsEnded (sparing 0))) after later ∧
      At later 7 (.driver 2 2 .getting) ∧
      ∀ id mailbox stage, At later id (.driver 0 mailbox stage) → id < before.shared.nextTask := by
  have hrun : (Machine.runWhere step (Meets reportsEnded) (start "node" none)
      Fixed.stopping).map (fun before => (before.tasks[1]?,
        (before.tasks.all fun task => task.frame.spares 0),
        meets reportsEnded before (Fixed.go 1), (step before (Fixed.go 1)).bind fun after =>
          (Machine.runWhere step (Meets (both reportsEnded (sparing 0))) after
            Fixed.succeeding).map fun later => later.tasks[7]?)) =
      some (some ⟨1, Fixed.notifying⟩, true, true, some (some ⟨7, .driver 2 2 .getting⟩)) := by
    decide +kernel
  obtain ⟨before, hreach, hobserved⟩ := Machine.exists_reachableWhere hrun
  simp only [Prod.mk.injEq] at hobserved
  obtain ⟨hat, hfree, hmeets, hrest⟩ := hobserved
  obtain ⟨after, hafter, hmore⟩ := Option.bind_eq_some_iff.mp hrest
  obtain ⟨later, hlater, hnew⟩ := Machine.exists_reachableWhere hmore
  have hreports := Fixed.reports_of_notifying hat
  exact ⟨before, after, later, hreach, hreports, hafter, hlater, hnew,
    fun id mailbox stage hdriver =>
      reported_gone_for_good hreach hmeets hreports (unswept_of_all hfree) hafter hlater hdriver⟩

/-- A `Down` with reason `shutdown` is delivered for an actor that is then restarted. -/
theorem reported_but_restarted :
    ∃ before after later, Machine.Reachable step (start "node" none) before ∧
      Reports before 1 .go 0 ∧ step before (Fixed.go 1) = some after ∧
      Machine.Reachable step after later ∧
      (later.shared.mailboxes 1).accepted = [.down 7 "worker" "shutdown"] ∧
      before.shared.nextTask ≤ 10 ∧ At later 10 (.driver 0 0 .getting) := by
  have hrun : (Machine.runWhere step (fun _ _ => True) (start "node" none)
      Fixed.sweeping).map (fun before => (before.tasks[1]?,
        decide (before.shared.nextTask ≤ 10),
        (step before (Fixed.go 1)).bind fun after =>
          (Machine.runWhere step (fun _ _ => True) after Fixed.respawning).map fun later =>
            ((later.shared.mailboxes 1).accepted, later.tasks[10]?))) =
      some (some ⟨1, Fixed.notifying⟩, true, some ([.down 7 "worker" "shutdown"],
        some ⟨10, .driver 0 0 .getting⟩)) := by
    decide +kernel
  obtain ⟨before, hreach, hobserved⟩ := Machine.exists_reachableWhere hrun
  simp only [Prod.mk.injEq, decide_eq_true_eq] at hobserved
  obtain ⟨hat, hbound, hrest⟩ := hobserved
  obtain ⟨after, hafter, hlater⟩ := Option.bind_eq_some_iff.mp hrest
  obtain ⟨later, hreach', hobserved'⟩ := Machine.exists_reachableWhere hlater
  obtain ⟨hdown, hdriver⟩ := Prod.mk.inj hobserved'
  exact ⟨before, after, later, hreach, Fixed.reports_of_notifying hat, hafter, hreach', hdown,
    hbound, hdriver⟩

end LapinBeam.Actor
