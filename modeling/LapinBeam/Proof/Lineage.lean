import LapinBeam.Proof.Names
import LapinBeam.Proof.Teardown

/-!
# The tree of supervisors

What holds of the children and their supervisors in every run: a driver never returns, the children
on a supervisor's list are its own and are listed once, a supervisor that a child has built is
younger than the one the child belongs to, and a name is registered for a child that was spawned.
-/

namespace LapinBeam.Actor

open Asyncio (TaskId Loop)

def Frame.returns : Frame → Bool
  | .child _ (.notifying _ _ .returned) | .driver _ _ (.finished .returned) => true
  | _ => false

def Frame.owner : Frame → Option ChildId
  | .child id _ => some id
  | .driver owner _ _ => some owner
  | _ => none

def Bounded (system : System) : Prop :=
  ∀ child < system.shared.nextChild,
    (system.shared.children child).supervisor < system.shared.nextSupervisor ∧
      (system.shared.children child).nested < system.shared.nextSupervisor

def Endless (system : System) : Prop :=
  ∀ id frame, At system id frame → frame.returns = false

def Under (system : System) : Prop :=
  ∀ supervisor, ∀ child ∈ (system.shared.supervisors supervisor).children,
    (system.shared.children child).supervisor = supervisor

def Ascending (system : System) : Prop :=
  ∀ id child stage, At system id (.child child stage) → stage.built = true →
    (system.shared.children child).supervisor < (system.shared.children child).nested

def Distinct (system : System) : Prop :=
  ∀ supervisor, (system.shared.supervisors supervisor).children.Nodup

structure Rooted (system : System) : Prop where
  placed : Placed system
  driven : Driven system
  bounded : Bounded system
  endless : Endless system
  under : Under system
  ascending : Ascending system
  distinct : Distinct system
  claimed : Claimed system

section Effects

variable (effect : Effect) {runtime : Runtime}

theorem Effect.nextSupervisor_le (runtime : Runtime) :
    runtime.nextSupervisor ≤ (effect.apply runtime).nextSupervisor := by
  have happlied := effect.applied runtime
  generalize effect.apply runtime = after at happlied ⊢
  cases happlied with
  | kept | kill => exact Nat.le_refl _
  | acts hacts =>
      cases effect with
      | nest | newSupervisor => exact Nat.le_succ _
      | cleanup child takeExit => cases takeExit <;> exact Nat.le_refl _
      | spawn supervisor name kind => cases kind <;> exact Nat.le_refl _
      | _ => first | (cases hacts; done) | exact Nat.le_refl _

theorem Effect.nested_of_nest (runtime : Runtime) (child : ChildId) :
    (((Effect.nest child).apply runtime).children child).nested = runtime.nextSupervisor ∧
      ((Effect.nest child).apply runtime).nextSupervisor = runtime.nextSupervisor + 1 := by
  simp [Effect.apply, Runtime.nest, Runtime.setChild]

theorem Effect.nodup_apply {supervisor : SupervisorId}
    (hlisted : ∀ child ∈ (runtime.supervisors supervisor).children, child < runtime.nextChild)
    (hnodup : (runtime.supervisors supervisor).children.Nodup) :
    ((effect.apply runtime).supervisors supervisor).children.Nodup := by
  have hchange := Effect.supervisor_change effect runtime supervisor
  generalize (effect.apply runtime).supervisors supervisor = after at hchange ⊢
  cases hchange with
  | discarded | denied => exact hnodup.erase _
  | created => exact List.nodup_nil
  | spawned =>
      refine List.nodup_append.mpr ⟨hnodup, List.nodup_singleton _, fun child hold other hnew => ?_⟩
      rintro rfl
      exact absurd (hlisted child hold) (List.mem_singleton.mp hnew ▸ Nat.lt_irrefl _)
  | _ => exact hnodup

end Effects

section Step

variable {system : System} {self id : TaskId} {input : Input} {frame : Frame} {move : Move}
  {child : ChildId} {supervisor : SupervisorId}

theorem Resumed.spawn_call {name : String} {kind : ChildKind}
    (hresumed : Resumed system self input frame move)
    (heffect : move.effect = .spawn supervisor name kind) :
    frame = .outside [] ∧ supervisor < system.shared.nextSupervisor ∧
      (input = .call (.spawn supervisor name) ∨
        ∃ settings, input = .call (.spawnSupervisor supervisor name settings)) := by
  obtain ⟨rfl, -⟩ := hresumed.stretch.origin heffect
  have hmove := hresumed.eq_some
  cases input with
  | call call =>
      cases call with
      | spawn | spawnSupervisor =>
          simp only [Frame.move, Call.move, Option.ite_none_right_eq_some] at hmove
          obtain ⟨hallowed, hmove⟩ := hmove
          cases hmove
          cases heffect
          simp_all
      | cancelTask =>
          simp only [Frame.move, Call.move, Option.ite_none_right_eq_some] at hmove
          cases hmove.2
          cases heffect
      | stopped =>
          simp only [Frame.move, Call.move] at hmove
          split at hmove
          · cases (Option.ite_none_right_eq_some.mp hmove).2
            cases heffect
          · cases hmove
      | _ =>
          cases hmove
          cases heffect
  | _ => cases hmove

theorem Bounded.next (hbounded : Bounded system) (hresumed : Resumed system self input frame move) :
    Bounded (move.next system self) := by
  intro child hlt
  have hle : system.shared.nextSupervisor ≤ (move.next system self).shared.nextSupervisor :=
    Effect.nextSupervisor_le move.effect system.shared
  rcases Known.child_next_cases hlt with hold | ⟨supervisor, name, kind, heffect, rfl, hrecord⟩
  · obtain ⟨hsupervisor, hnested⟩ := hbounded child hold
    refine ⟨(Known.sameChild_next move self hold).supervisor ▸ hsupervisor.trans_le hle, ?_⟩
    rcases Effect.nested_cases move.effect system.shared child with
      hsame | heffect | ⟨_, _, _, -, heq⟩
    · rw [children_next, hsame]
      exact hnested.trans_le hle
    · show ((move.effect.apply _).children child).nested < (move.effect.apply _).nextSupervisor
      rw [heffect, (Effect.nested_of_nest _ _).1, (Effect.nested_of_nest _ _).2]
      exact Nat.lt_succ_self _
    · exact absurd hold (heq ▸ Nat.lt_irrefl _)
  · have hexists := (hresumed.spawn_call heffect).2.1
    rw [hrecord]
    exact ⟨hexists.trans_le hle, (Nat.zero_lt_of_lt hexists).trans_le hle⟩

theorem Endless.next (hformed : WellFormed system) (hendless : Endless system)
    (hresumed : Resumed system self input frame move) : Endless (move.next system self) := by
  intro id other hat
  rcases hformed.mirrored.at_next hat with ⟨rfl, rfl⟩ | ⟨-, hold⟩ | ⟨-, hspawned⟩
  · have hready := hresumed.ready
    have hhere := hresumed.here
    cases hresumed.stretch with
    | completed _ hreturned =>
        -- the driver it waited for has ended, and no driver ends by returning
        obtain ⟨mailbox, stage, hdriver⟩ := hformed.known.drives _ _ _ hhere
        have hdone := hformed.mirrored.isDone_of_driving hhere hready
        have hearlier := hendless _ _ hdriver
        rw [hformed.mirrored.isDone_of_at hdriver] at hdone
        have hawait := hformed.mirrored.await _ _ hdriver
        cases stage with
        | finished outcome =>
            simp only [Runtime.outcomeOf, hawait, Frame.await, DriverStage.await] at hreturned
            subst hreturned
            cases hearlier
        | _ => cases hdone
    | _ => rfl
  · exact hendless _ _ hold
  · rcases hresumed.stretch.spawned_cases hspawned with
      ⟨_, _, rfl, -⟩ | ⟨_, rfl, -⟩ | ⟨_, rfl⟩ <;> rfl

theorem Under.next (hknown : Known system) (hunder : Under system) :
    Under (move.next system self) := by
  intro supervisor child hlisted
  rw [supervisors_next] at hlisted
  rcases Effect.listed_apply _ _ hlisted with hold | ⟨name, kind, heffect, rfl⟩
  · rw [(Known.sameChild_next move self (hknown.listed _ child hold)).supervisor]
    exact hunder supervisor child hold
  · rw [children_next, heffect, Effect.apply, Runtime.children_spawn, Function.update_self]

theorem Ascending.next (hformed : WellFormed system) (hbounded : Bounded system)
    (hascending : Ascending system) (hresumed : Resumed system self input frame move) :
    Ascending (move.next system self) := by
  intro id child stage hat hbuilt
  have hnests : move.effect = .nest child → child < system.shared.nextChild →
      ((move.next system self).shared.children child).supervisor <
        ((move.next system self).shared.children child).nested := by
    intro heffect hlt
    rw [(Known.sameChild_next move self hlt).supervisor, children_next, heffect,
      (Effect.nested_of_nest _ _).1]
    exact (hbounded child hlt).1
  have hkeeps : ∀ before, At system id (.child child before) → before.built = true →
      ((move.next system self).shared.children child).supervisor <
        ((move.next system self).shared.children child).nested := by
    intro before hold hearlier
    have hlt := hformed.known.frames _ _ hold child List.mem_cons_self
    rcases Effect.nested_cases move.effect system.shared child with
      hsame | heffect | ⟨_, _, _, -, heq⟩
    · rw [(Known.sameChild_next move self hlt).supervisor, children_next, hsame]
      exact hascending id child before hold hearlier
    · exact hnests heffect hlt
    · exact absurd hlt (heq ▸ Nat.lt_irrefl _)
  rcases hformed.mirrored.at_next hat with ⟨rfl, heq⟩ | ⟨-, hold⟩ | ⟨-, hspawned⟩
  · rcases hresumed.stretch.built_cases heq hbuilt with heffect | ⟨before, rfl, hearlier, -⟩
    · obtain ⟨fresh, rfl, -⟩ := hresumed.stretch.origin heffect
      exact hnests heffect (hformed.known.frames _ _ hresumed.here child List.mem_cons_self)
    · exact hkeeps before hresumed.here hearlier
  · exact hkeeps stage hold hbuilt
  · cases hresumed.stretch.attempting_of_spawned hspawned
    cases hbuilt

theorem Distinct.next (hknown : Known system) (hdistinct : Distinct system) :
    Distinct (move.next system self) := fun supervisor =>
  Effect.nodup_apply move.effect (hknown.listed supervisor) (hdistinct supervisor)

theorem Rooted.next (hformed : WellFormed system) (hrooted : Rooted system)
    (hresumed : Resumed system self input frame move) : Rooted (move.next system self) where
  placed := hrooted.placed.next hformed.mirrored hresumed
  driven := hrooted.driven.next hformed.mirrored hresumed
  bounded := hrooted.bounded.next hresumed
  endless := hrooted.endless.next hformed hresumed
  under := hrooted.under.next hformed.known
  ascending := hrooted.ascending.next hformed hrooted.bounded hresumed
  distinct := hrooted.distinct.next hformed.known
  claimed := hrooted.claimed.next hformed.known hresumed

theorem Rooted.start (localId : String) (mailboxCapacity : Option Nat) :
    Rooted (start localId mailboxCapacity) where
  placed := fun _ hlt => nomatch hlt
  driven := fun _ _ _ _ hat => nomatch (at_start hat).2
  bounded := fun _ hlt => nomatch hlt
  endless := by
    intro id frame hat
    obtain ⟨rfl, rfl⟩ := at_start hat
    rfl
  under := fun _ _ hmem => nomatch hmem
  ascending := fun _ _ _ hat => nomatch (at_start hat).2
  distinct := fun _ => List.nodup_nil
  claimed := fun _ _ hname => nomatch hname

end Step

theorem rooted_of_reachable {localId : String} {mailboxCapacity : Option Nat} {system : System}
    (hreach : Machine.Reachable step (start localId mailboxCapacity) system) :
    WellFormed system ∧ Rooted system :=
  WellFormed.invariant Rooted (.start _ _) (.start _ _)
    (fun _ _ _ _ _ hformed hrooted _ hresumed => hrooted.next hformed hresumed) hreach

end LapinBeam.Actor
