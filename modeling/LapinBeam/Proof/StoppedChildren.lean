import LapinBeam.Proof.Ending
import LapinBeam.Proof.Lineage

/-!
# Children that were stopped

`shutdown()` and `ActorRef.task.cancel()` end the task of a child and leave the child on the list of
its supervisor, so a later crash of a sibling that sweeps the list starts it again. `PoolRef.stop()`
takes the children off the list when their tasks are done; that is the step which is added to the
node here, and a child that is off the list is not started again.
-/

namespace LapinBeam.Actor

open Asyncio (TaskId)

def Runtime.discardAll (runtime : Runtime) (children : List ChildId) : Runtime :=
  children.foldl Runtime.discardChild runtime

namespace Pooled

inductive Action
  | run (action : Actor.Action)
  /-- `PoolRef.stop()` goes on when the tasks it has cancelled are done: a child with the task it had when the call was made. -/
  | discard (refs : List (ChildId × TaskId))

def step (system : System) : Action → Option System
  | .run action => Actor.step system action
  | .discard refs =>
      if system.shared.running = none ∧ (refs.all fun ref => system.shared.isDone ref.2) = true then
        some ⟨system.shared.discardAll (refs.map Prod.fst), system.tasks⟩
      else none

def meets (condition : Condition) (system : System) : Action → Bool
  | .run action => Actor.meets condition system action
  | .discard _ => true

abbrev Meets (condition : Condition) (system : System) (action : Action) : Prop :=
  meets condition system action = true

end Pooled

/-! ### Taking children off a list -/

section Discard

variable {runtime : Runtime} {child : ChildId}

structure Runtime.Thinned (before after : Runtime) : Prop where
  eq : ∃ supervisors, after = { before with supervisors := supervisors }
  sublist : ∀ id, ((after.supervisors id).children).Sublist (before.supervisors id).children

theorem Runtime.Thinned.refl (runtime : Runtime) : Thinned runtime runtime :=
  ⟨⟨_, rfl⟩, fun _ => .refl _⟩

theorem Runtime.Thinned.trans {first second third : Runtime} (hfirst : Thinned first second)
    (hsecond : Thinned second third) : Thinned first third := by
  refine ⟨?_, fun id => (hsecond.sublist id).trans (hfirst.sublist id)⟩
  obtain ⟨_, rfl⟩ := hfirst.eq
  obtain ⟨_, rfl⟩ := hsecond.eq
  exact ⟨_, rfl⟩

theorem Runtime.thinned_discardChild (runtime : Runtime) (child : ChildId) :
    Thinned runtime (runtime.discardChild child) := by
  refine ⟨⟨_, rfl⟩, fun id => ?_⟩
  by_cases hid : id = (runtime.children child).supervisor
  · subst hid
    simpa [discardChild, updateSupervisorOf, setSupervisor, supervisorOf]
      using List.erase_sublist
  · simp [discardChild, updateSupervisorOf, setSupervisor, hid]

theorem Runtime.thinned_discardAll (children : List ChildId) (runtime : Runtime) :
    Thinned runtime (runtime.discardAll children) := by
  induction children generalizing runtime with
  | nil => exact .refl runtime
  | cons first rest ih => exact (thinned_discardChild runtime first).trans (ih _)

theorem Runtime.notMem_discardChild (hnodup : (runtime.supervisorOf child).children.Nodup) :
    child ∉ ((runtime.discardChild child).supervisors
      (runtime.children child).supervisor).children := by
  simp only [discardChild, updateSupervisorOf, setSupervisor, Function.update_self]
  exact hnodup.not_mem_erase

theorem Runtime.notMem_discardAll {children : List ChildId}
    (hnodup : ∀ id, (runtime.supervisors id).children.Nodup) (hmem : child ∈ children) :
    child ∉ ((runtime.discardAll children).supervisors
      (runtime.children child).supervisor).children := by
  induction children generalizing runtime with
  | nil => cases hmem
  | cons first rest ih =>
      have hthinned := thinned_discardChild runtime first
      by_cases hlater : child ∈ rest
      · exact ih (fun id => (hthinned.sublist id).nodup (hnodup id)) hlater
      · obtain rfl := (List.mem_cons.mp hmem).resolve_right hlater
        intro hlisted
        have hgone : child ∉ ((runtime.discardChild child).supervisors
            (runtime.children child).supervisor).children := notMem_discardChild (hnodup _)
        exact hgone (((thinned_discardAll rest (runtime.discardChild child)).sublist _).subset hlisted)

end Discard

structure Filed (system : System) : Prop where
  formed : WellFormed system
  under : Under system
  distinct : Distinct system

section Step

variable {system later : System} {child : ChildId} {action : Pooled.Action} {task : TaskId}

theorem WellFormed.thinned {after : Runtime} (hformed : WellFormed system)
    (hthinned : system.shared.Thinned after) : WellFormed ⟨after, system.tasks⟩ := by
  have hsublist := hthinned.sublist
  obtain ⟨supervisors, rfl⟩ := hthinned.eq
  obtain ⟨hmirrored, hknown⟩ := hformed
  exact ⟨⟨hmirrored.count, hmirrored.identity, hmirrored.await, hmirrored.running,
      hmirrored.settled, hmirrored.unborn⟩,
    ⟨hknown.frames, fun id child hlisted => hknown.listed id child ((hsublist id).subset hlisted),
      hknown.mailbox, hknown.reads, hknown.drives⟩⟩

theorem Filed.thinned {after : Runtime} (hfiled : Filed system)
    (hthinned : system.shared.Thinned after) : Filed ⟨after, system.tasks⟩ := by
  have hformed := hfiled.formed.thinned hthinned
  have hsublist := hthinned.sublist
  obtain ⟨supervisors, rfl⟩ := hthinned.eq
  exact ⟨hformed, fun id child hlisted => hfiled.under id child ((hsublist id).subset hlisted),
    fun id => (hsublist id).nodup (hfiled.distinct id)⟩

theorem Filed.step_cases (hfiled : Filed system) (hstep : Pooled.step system action = some later) :
    (∃ self input frame move, Resumed system self input frame move ∧
      action = .run (.resume self input) ∧ later = move.next system self) ∨
    ∃ refs, action = .discard refs ∧
      later = ⟨system.shared.discardAll (refs.map Prod.fst), system.tasks⟩ := by
  cases action with
  | run action =>
      obtain ⟨self, input, frame, move, hresumed, rfl, rfl⟩ :=
        hfiled.formed.mirrored.step_cases hstep
      exact .inl ⟨self, input, frame, move, hresumed, rfl, rfl⟩
  | discard refs =>
      simp only [Pooled.step, Option.ite_none_right_eq_some] at hstep
      exact .inr ⟨refs, rfl, (Option.some.inj hstep.2).symm⟩

theorem Filed.next (hfiled : Filed system) (hstep : Pooled.step system action = some later) :
    Filed later := by
  rcases hfiled.step_cases hstep with ⟨self, input, frame, move, hresumed, -, rfl⟩ | ⟨refs, -, rfl⟩
  · exact ⟨hfiled.formed.next hresumed, hfiled.under.next hfiled.formed.known,
      hfiled.distinct.next hfiled.formed.known⟩
  · exact hfiled.thinned (Runtime.thinned_discardAll _ _)

structure Stopped (child : ChildId) (task : TaskId) (system : System) : Prop where
  filed : Filed system
  spawned : child < system.shared.nextChild
  current : (system.shared.children child).task = task
  done : system.shared.isDone task = true
  unswept : Unswept child system

theorem Stopped.next (hstopped : Stopped child task system)
    (hspared : Pooled.Meets (sparing child) system action)
    (hstep : Pooled.step system action = some later) : Stopped child task later := by
  have hfiled := hstopped.filed.next hstep
  have hmirrored := hstopped.filed.formed.mirrored
  rcases hstopped.filed.step_cases hstep with
    ⟨self, input, frame, move, hresumed, rfl, rfl⟩ | ⟨refs, rfl, rfl⟩
  · exact
      { filed := hfiled
        spawned := Known.lt_next self (.inl hstopped.spawned)
        current := (hstopped.unswept.task_next hresumed hstopped.spawned).trans hstopped.current
        done := hmirrored.isDone_next hresumed hstopped.done
        unswept := hstopped.unswept.next hmirrored (hresumed.meets hspared) hresumed }
  · obtain ⟨supervisors, heq⟩ := (Runtime.thinned_discardAll (refs.map Prod.fst) system.shared).eq
    rw [heq] at hfiled ⊢
    exact ⟨hfiled, hstopped.spawned, hstopped.current, hstopped.done, hstopped.unswept⟩

structure Pruned (child : ChildId) (task : TaskId) (system : System) : Prop
    extends Stopped child task system where
  unlisted : child ∉ (system.shared.supervisorOf child).children

theorem sparing_of_unlisted (hunder : Under system)
    (hunlisted : child ∉ (system.shared.supervisorOf child).children) (self : TaskId)
    (frame : Frame) (input : Input) : sparing child system self frame input = true := by
  unfold sparing
  split
  · rename_i runtime tasks other crash
    split
    · rfl
    · rename_i affected haffected
      by_cases heq : child = other
      · simp [heq]
      · have hfree : child ∉ affected := by
          intro hmem
          have hlisted : child ∈ (runtime.supervisorOf other).children :=
            Supervisor.mem_affectedChildren haffected
              (List.mem_filter.mpr ⟨hmem, by simpa using heq⟩)
          have hsame : (runtime.children child).supervisor = (runtime.children other).supervisor :=
            hunder _ child hlisted
          rw [Runtime.supervisorOf, ← hsame] at hlisted
          exact hunlisted hlisted
        simp [hfree]
  · rfl

theorem Pooled.meets_of_forall {condition : Condition} (action : Pooled.Action)
    (hall : ∀ self frame input, condition system self frame input = true) :
    Pooled.Meets condition system action := by
  cases action with
  | discard => rfl
  | run action =>
      cases action with
      | call => rfl
      | resume self input =>
          simp only [Pooled.Meets, Pooled.meets, Actor.meets]
          split
          · rfl
          · exact hall _ _ _

theorem Pruned.next (hpruned : Pruned child task system)
    (hstep : Pooled.step system action = some later) : Pruned child task later := by
  have hspared := Pooled.meets_of_forall action
    (sparing_of_unlisted hpruned.filed.under hpruned.unlisted)
  refine ⟨hpruned.toStopped.next hspared hstep, fun hlisted => hpruned.unlisted ?_⟩
  rcases hpruned.filed.step_cases hstep with ⟨self, _, _, move, -, -, rfl⟩ | ⟨refs, -, rfl⟩
  · rw [Runtime.supervisorOf, (Known.sameChild_next move self hpruned.spawned).supervisor,
      supervisors_next] at hlisted
    rcases Effect.listed_apply _ _ hlisted with hold | ⟨name, kind, -, heq⟩
    · exact hold
    · exact absurd hpruned.spawned (heq ▸ Nat.lt_irrefl _)
  · have hthinned := Runtime.thinned_discardAll (refs.map Prod.fst) system.shared
    have hsublist := hthinned.sublist (system.shared.children child).supervisor
    obtain ⟨supervisors, heq⟩ := hthinned.eq
    rw [heq] at hlisted hsublist
    exact hsublist.subset hlisted

theorem Stopped.pruned {refs : List (ChildId × TaskId)} (hstopped : Stopped child task system)
    (hmem : child ∈ refs.map Prod.fst) (hstep : Pooled.step system (.discard refs) = some later) :
    Pruned child task later := by
  refine ⟨hstopped.next rfl hstep, ?_⟩
  have hgone := Runtime.notMem_discardAll hstopped.filed.distinct hmem
  simp only [Pooled.step, Option.ite_none_right_eq_some] at hstep
  obtain rfl := Option.some.inj hstep.2
  obtain ⟨supervisors, heq⟩ := (Runtime.thinned_discardAll (refs.map Prod.fst) system.shared).eq
  rw [heq] at hgone ⊢
  exact hgone

end Step

theorem filed_of_reachable {localId : String} {mailboxCapacity : Option Nat} {system : System}
    (hreach : Machine.Reachable Pooled.step (start localId mailboxCapacity) system) :
    Filed system := by
  refine hreach.invariant ⟨.start _ _, ?_, ?_⟩ fun _ _ _ hfiled _ hstep => hfiled.next hstep
  · intro supervisor child hlisted
    cases hlisted
  · exact fun supervisor => List.nodup_nil

def StaysStopped (child : ChildId) (before after : System) : Prop :=
  (after.shared.children child).task = (before.shared.children child).task ∧
    after.shared.isDone (before.shared.children child).task = true

/-- **A stopped child that no sweep finds stays stopped**: it gets no new task in any run in which no crash handler finds it among the children to restart, nor in any run at all once `PoolRef.stop()` has taken it off the list. -/
theorem stopped_children_stay_stopped {localId : String} {mailboxCapacity : Option Nat}
    {before : System} {child : ChildId}
    (hbefore : Machine.Reachable Pooled.step (start localId mailboxCapacity) before)
    (hspawned : child < before.shared.nextChild)
    (hdone : before.shared.isDone (before.shared.children child).task = true)
    (hunswept : Unswept child before) :
    (∀ after, Machine.ReachableWhere Pooled.step (Pooled.Meets (sparing child)) before after →
      StaysStopped child before after) ∧
    ∀ refs pruned, child ∈ refs.map Prod.fst →
      Pooled.step before (.discard refs) = some pruned →
      ∀ after, Machine.Reachable Pooled.step pruned after → StaysStopped child before after := by
  have hstopped : Stopped child (before.shared.children child).task before :=
    ⟨filed_of_reachable hbefore, hspawned, rfl, hdone, hunswept⟩
  constructor
  · intro after hafter
    have hinv : Stopped child (before.shared.children child).task after :=
      hafter.invariant hstopped fun _ _ _ hstopped hspared hstep => hstopped.next hspared hstep
    exact ⟨hinv.current, hinv.done⟩
  · intro refs pruned hmem hprune after hafter
    have hinv : Pruned child (before.shared.children child).task after :=
      hafter.invariant (hstopped.pruned hmem hprune) fun _ _ _ hpruned _ hstep => hpruned.next hstep
    exact ⟨hinv.current, hinv.done⟩

namespace Fixed

def shutDown (strategy : Strategy) : List Pooled.Action :=
  ([ask (.newSupervisor { strategy }), ask (.spawn 0 "old")] ++ launch 1 2 ++
    [ask (.shutdown 0), go 0, go 2, go 1, go 1]).map .run

def laterCrash : List Pooled.Action :=
  ([ask (.spawn 0 "young")] ++ launch 3 4 ++ busy "young" 4 ++ crash 3 4 ++ [go 3]).map .run

def revived : List Pooled.Action :=
  laterCrash ++ ([go 3, go 3, go 3, go 3, .resume 3 (.constructed none)] ++ launch 5 7).map .run

end Fixed

theorem stopped_children_stay_stopped_alone :
    ∃ before after, Machine.Reachable Pooled.step (start "node" none) before ∧
      At before 1 (.child 0 (.finished .cancelled)) ∧
      Machine.ReachableWhere Pooled.step (Pooled.Meets (sparing 0)) before after ∧
      StaysStopped 0 before after := by
  have hrun : (Machine.runWhere Pooled.step (fun _ _ => True) (start "node" none)
      (Fixed.shutDown .oneForOne)).map (fun before => (before.tasks[1]?, before.shared.nextChild,
        before.shared.isDone (before.shared.children 0).task,
        (before.tasks.all fun task => task.frame.spares 0),
        (Machine.runWhere Pooled.step (Pooled.Meets (sparing 0)) before Fixed.laterCrash).map
          fun _ => ())) =
      some (some ⟨1, .child 0 (.finished .cancelled)⟩, 1, true, true, some ()) := by
    decide +kernel
  obtain ⟨before, hreach, hobserved⟩ := Machine.exists_reachableWhere hrun
  simp only [Prod.mk.injEq] at hobserved
  obtain ⟨hat, hspawned, hdone, hfree, hlater⟩ := hobserved
  obtain ⟨after, hafter, -⟩ := Machine.exists_reachableWhere hlater
  exact ⟨before, after, hreach, hat, hafter, (stopped_children_stay_stopped hreach
    (hspawned ▸ Nat.one_pos) hdone (unswept_of_all hfree)).1 after hafter⟩

/-- Under `one_for_all`, an actor that was shut down gets a new task, and runs again. -/
theorem stopped_child_revived :
    ∃ before after, Machine.Reachable Pooled.step (start "node" none) before ∧
      (before.shared.children 0).task = 1 ∧ At before 1 (.child 0 (.finished .cancelled)) ∧
      Unswept 0 before ∧ Machine.Reachable Pooled.step before after ∧
      (after.shared.children 0).task = 5 ∧ At after 5 (.child 0 (.driving 7)) := by
  have hrun : (Machine.runWhere Pooled.step (fun _ _ => True) (start "node" none)
      (Fixed.shutDown .oneForAll)).map (fun before => ((before.shared.children 0).task,
        before.tasks[1]?, (before.tasks.all fun task => task.frame.spares 0),
        (Machine.runWhere Pooled.step (fun _ _ => True) before Fixed.revived).map
          fun after => ((after.shared.children 0).task, after.tasks[5]?))) =
      some (1, some ⟨1, .child 0 (.finished .cancelled)⟩, true,
        some (5, some ⟨5, .child 0 (.driving 7)⟩)) := by
    decide +kernel
  obtain ⟨before, hreach, hobserved⟩ := Machine.exists_reachableWhere hrun
  simp only [Prod.mk.injEq] at hobserved
  obtain ⟨htask, hat, hfree, hlater⟩ := hobserved
  obtain ⟨after, hafter, hrevived⟩ := Machine.exists_reachableWhere hlater
  obtain ⟨htask', hat'⟩ := Prod.mk.inj hrevived
  exact ⟨before, after, hreach, htask, hat, unswept_of_all hfree, hafter, htask', hat'⟩

end LapinBeam.Actor
