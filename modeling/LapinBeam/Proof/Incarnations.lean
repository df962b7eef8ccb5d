import LapinBeam.Proof.Lineage

/-!
# The supervisors and the children they list

A supervisor child builds a fresh supervisor each time it starts over, and what it tears down later
is what that supervisor lists. So the list has to have every child that runs: a child is taken off
only when it is given up under `one_for_one`, and its task ends there. A driver never returns, so
`completed` is no second way off the list.
-/

namespace LapinBeam.Actor

open Asyncio (TaskId Loop)

structure Serving (system : System) (supervisor : SupervisorId) (id : TaskId) (child : ChildId)
    (stage : ChildStage) : Prop where
  here : At system id (.child child stage)
  live : (Frame.child child stage).isDone = false
  under : (system.shared.children child).supervisor = supervisor

structure Listing (system : System) : Prop where
  bounded : ∀ child < system.shared.nextChild,
    (system.shared.children child).supervisor < system.shared.nextSupervisor ∧
      (system.shared.children child).nested < system.shared.nextSupervisor
  endless : ∀ id frame, At system id frame → frame.returns = false
  under : ∀ supervisor, ∀ child ∈ (system.shared.supervisors supervisor).children,
    (system.shared.children child).supervisor = supervisor
  siblings : ∀ id child stage, At system id (.child child stage) → ∀ sibling ∈ stage.siblings,
    sibling ∈ (system.shared.supervisorOf child).children ∧
      (system.shared.supervisorOf child).settings.strategy ≠ .oneForOne
  listed : ∀ supervisor id child stage, Serving system supervisor id child stage →
    child ∈ (system.shared.supervisors supervisor).children ∨ stage.notifies = true

section Effects

variable (effect : Effect) {runtime : Runtime} {supervisor : SupervisorId} {child : ChildId}

theorem Effect.settings_apply (hlt : supervisor < runtime.nextSupervisor) :
    ((effect.apply runtime).supervisors supervisor).settings =
      (runtime.supervisors supervisor).settings := by
  have hchange := Effect.supervisor_change effect runtime supervisor
  generalize (effect.apply runtime).supervisors supervisor = after at hchange ⊢
  cases hchange with
  | created hid => exact absurd hlt (hid ▸ Nat.lt_irrefl _)
  | _ => rfl

theorem Effect.unlisted_cases (hlt : supervisor < runtime.nextSupervisor)
    (hlisted : child ∈ (runtime.supervisors supervisor).children) :
    child ∈ ((effect.apply runtime).supervisors supervisor).children ∨ effect = .discard child ∨
      (runtime.supervisors supervisor).settings.strategy = .oneForOne ∧
        ∃ exc, effect = .denied child exc := by
  have hchange := Effect.supervisor_change effect runtime supervisor
  generalize (effect.apply runtime).supervisors supervisor = after at hchange ⊢
  cases hchange with
  | @discarded other =>
      by_cases heq : child = other
      · exact .inr (.inl (heq ▸ rfl))
      · exact .inl ((List.mem_erase_of_ne heq).mpr hlisted)
  | @denied other exc _ _ hstrategy =>
      by_cases heq : child = other
      · exact .inr (.inr ⟨hstrategy, exc, heq ▸ rfl⟩)
      · exact .inl ((List.mem_erase_of_ne heq).mpr hlisted)
  | created hid => exact absurd hlt (hid ▸ Nat.lt_irrefl _)
  | spawned => exact .inl (List.mem_append_left _ hlisted)
  | _ => exact .inl hlisted

end Effects

theorem Supervisor.strategy_ne_of_affected {supervisor : Supervisor} {child other : ChildId}
    {affected : List ChildId} (haffected : supervisor.affectedChildren child = some affected)
    (hmem : other ∈ affected) (hne : other ≠ child) :
    supervisor.settings.strategy ≠ .oneForOne := by
  intro hstrategy
  simp only [affectedChildren, hstrategy, Option.some.injEq] at haffected
  subst haffected
  exact hne (List.mem_singleton.mp hmem)

section Step

variable {system : System} {self id : TaskId} {input : Input} {frame : Frame} {move : Move}
  {child : ChildId} {stage : ChildStage} {supervisor : SupervisorId}

theorem Serving.lt (hknown : Known system) (hlisting : Listing system)
    (hserving : Serving system supervisor id child stage) :
    supervisor < system.shared.nextSupervisor :=
  hserving.under ▸
    (hlisting.bounded child (hknown.frames _ _ hserving.here child List.mem_cons_self)).1

theorem Resumed.done_of_notifies {before : ChildStage}
    (hresumed : Resumed system self input (.child child before) move)
    (hnotifies : before.notifies = true) (hmove : move.frame = .child child stage)
    (hlive : (Frame.child child stage).isDone = false) : False := by
  have hstretch := hresumed.stretch
  cases before with
  | notifying =>
      cases hstretch
      cases hmove
      cases hlive
  | _ => cases hnotifies

theorem Serving.before (hformed : WellFormed system) (hlisting : Listing system)
    (hresumed : Resumed system self input frame move)
    (hserving : Serving (move.next system self) supervisor id child stage) :
    (id ≠ self ∧ Serving system supervisor id child stage) ∨
    (id = self ∧ move.frame = .child child stage ∧
      ∃ before, frame = .child child before ∧ Serving system supervisor id child before) ∨
    (stage = .attempting true ∧ child ∈ (system.shared.supervisors supervisor).children ∧
      ∃ other rest, frame = .child other (.respawning (child :: rest)) ∧
        Serving system supervisor self other (.respawning (child :: rest))) ∨
    ∃ name kind, stage = .attempting true ∧ move.effect = .spawn supervisor name kind ∧
      child = system.shared.nextChild := by
  obtain ⟨hat, hlive, hunder⟩ := hserving
  have hsame : ∀ {task later}, At system task later → child ∈ later.mentions →
      (system.shared.children child).supervisor = supervisor := by
    intro task later hbefore hmem
    rw [← hunder]
    exact (Known.sameChild_next move self
      (hformed.known.frames _ _ hbefore child hmem)).supervisor.symm
  rcases hformed.mirrored.at_next hat with ⟨rfl, heq⟩ | ⟨hne, hold⟩ | ⟨-, hspawned⟩
  · obtain ⟨before, rfl⟩ := hresumed.stretch.of_child heq
    exact .inr (.inl ⟨rfl, heq.symm, before, rfl, hresumed.here,
      hformed.mirrored.live_self hresumed, hsame hresumed.here List.mem_cons_self⟩)
  · exact .inl ⟨hne, hold, hlive, hsame hold List.mem_cons_self⟩
  · rcases hresumed.stretch.spawned_cases hspawned with
      ⟨_, _, heq, -⟩ | ⟨_, heq, -, hcases⟩ | ⟨_, heq⟩ <;> cases heq
    rcases hcases with heffect | ⟨owner, name, kind, heffect, rfl⟩
    · obtain ⟨other, rest, rfl, -⟩ := hresumed.stretch.origin heffect
      have hmem : child ∈ (ChildStage.respawning (child :: rest)).siblings := List.mem_cons_self
      have hlisted := (hlisting.siblings _ _ _ hresumed.here child hmem).1
      have howner := hsame hresumed.here (List.mem_cons_of_mem _ hmem)
      have hother := (hlisting.under _ child hlisted).symm.trans howner
      exact .inr (.inr (.inl ⟨rfl, hother ▸ hlisted, other, rest, rfl, hresumed.here, rfl, hother⟩))
    · rw [children_next, heffect, Effect.apply, Runtime.children_spawn,
        Function.update_self] at hunder
      exact .inr (.inr (.inr ⟨name, kind, rfl, hunder ▸ heffect, rfl⟩))

namespace Listing

theorem mem_next (hlisting : Listing system) (hresumed : Resumed system self input frame move)
    (hlt : supervisor < system.shared.nextSupervisor)
    (hlisted : child ∈ (system.shared.supervisors supervisor).children) :
    child ∈ ((move.next system self).shared.supervisors supervisor).children ∨
      (system.shared.supervisors supervisor).settings.strategy = .oneForOne ∧
        ∃ exc, move.effect = .denied child exc := by
  rcases Effect.unlisted_cases move.effect hlt hlisted with
    hkept | heffect | hdenied
  · exact .inl hkept
  · obtain ⟨_, _, rfl⟩ := hresumed.stretch.origin heffect
    cases hlisting.endless _ _ hresumed.here
  · exact .inr hdenied

theorem siblings_next (hformed : WellFormed system) (hlisting : Listing system)
    (hresumed : Resumed system self input frame move)
    (hat : At (move.next system self) id (.child child stage)) {sibling : ChildId}
    (hmem : sibling ∈ stage.siblings) :
    sibling ∈ ((move.next system self).shared.supervisorOf child).children ∧
      ((move.next system self).shared.supervisorOf child).settings.strategy ≠ .oneForOne := by
  have hbefore : child < system.shared.nextChild ∧
      sibling ∈ (system.shared.supervisorOf child).children ∧
      (system.shared.supervisorOf child).settings.strategy ≠ .oneForOne := by
    rcases hformed.mirrored.at_next hat with ⟨rfl, heq⟩ | ⟨-, hold⟩ | ⟨-, hspawned⟩
    · obtain ⟨before, rfl⟩ := hresumed.stretch.of_child heq
      refine ⟨hformed.known.frames _ _ hresumed.here child List.mem_cons_self, ?_⟩
      rcases hresumed.stretch.siblings_cases heq hmem with
        ⟨earlier, hframe, hearlier⟩ | ⟨crash, affected, hframe, haffected, hin, hne⟩
      · cases hframe
        exact hlisting.siblings _ _ _ hresumed.here sibling hearlier
      · exact ⟨Supervisor.mem_affectedChildren haffected (List.mem_filter.mpr ⟨hin, by simpa using hne⟩),
          Supervisor.strategy_ne_of_affected haffected hin hne⟩
    · exact ⟨hformed.known.frames _ _ hold child List.mem_cons_self,
        hlisting.siblings _ _ _ hold sibling hmem⟩
    · cases hresumed.stretch.attempting_of_spawned hspawned
      cases hmem
  obtain ⟨hlt, hlisted, hstrategy⟩ := hbefore
  have hexists := (hlisting.bounded child hlt).1
  rw [Runtime.supervisorOf, (Known.sameChild_next move self hlt).supervisor]
  constructor
  · rcases hlisting.mem_next hresumed hexists hlisted with hkept | ⟨heq, -⟩
    · exact hkept
    · exact absurd heq hstrategy
  · rw [supervisors_next, Effect.settings_apply move.effect hexists]
    exact hstrategy

theorem listed_next (hformed : WellFormed system) (hone : OneTask system)
    (hlisting : Listing system) (hresumed : Resumed system self input frame move)
    (hserving : Serving (move.next system self) supervisor id child stage) :
    child ∈ ((move.next system self).shared.supervisors supervisor).children ∨
      stage.notifies = true := by
  rcases hserving.before hformed hlisting hresumed with
    ⟨hne, hbefore⟩ | ⟨rfl, hmove, before, rfl, hbefore⟩ | ⟨rfl, hlisted, other, rest, rfl, hother⟩ |
      ⟨name, kind, rfl, heffect, rfl⟩
  · rcases hlisting.listed _ _ _ _ hbefore with hlisted | hnotifies
    · rcases hlisting.mem_next hresumed (hbefore.lt hformed.known hlisting) hlisted with
        hkept | ⟨-, exc, heffect⟩
      · exact .inl hkept
      · -- only its own task gives a child up
        obtain ⟨earlier, -, rfl, -⟩ := hresumed.stretch.origin heffect
        have hself := hone _ _ _ hresumed.here (hformed.mirrored.live_self hresumed)
        exact absurd ((hone _ _ _ hbefore.here hbefore.live).symm.trans hself) hne
    · exact .inr hnotifies
  · rcases hlisting.listed _ _ _ _ hbefore with hlisted | hnotifies
    · rcases hlisting.mem_next hresumed (hbefore.lt hformed.known hlisting) hlisted with
        hkept | ⟨hstrategy, exc, heffect⟩
      · exact .inl hkept
      · obtain ⟨_, later, -, hlater, hnotifies⟩ := hresumed.stretch.origin heffect
        cases hmove.symm.trans hlater
        rw [← hbefore.under] at hstrategy
        exact .inr (hnotifies hstrategy)
    · exact (hresumed.done_of_notifies hnotifies hmove hserving.live).elim
  · rcases hlisting.mem_next hresumed (hother.lt hformed.known hlisting) hlisted with
      hkept | ⟨-, exc, heffect⟩
    · exact .inl hkept
    · obtain ⟨_, _, hframe, -⟩ := hresumed.stretch.origin heffect
      cases hframe
  · left
    rw [supervisors_next, heffect, Effect.apply, Runtime.supervisors_spawn, Function.update_self]
    exact List.mem_append_right _ (List.mem_singleton_self _)

theorem next (hformed : WellFormed system) (hone : OneTask system) (hlisting : Listing system)
    (hresumed : Resumed system self input frame move) : Listing (move.next system self) where
  bounded := Bounded.next hlisting.bounded hresumed
  endless := Endless.next hformed hlisting.endless hresumed
  under := Under.next hformed.known hlisting.under
  siblings := fun _ _ _ hat _ hmem => hlisting.siblings_next hformed hresumed hat hmem
  listed := fun _ _ _ _ hserving => hlisting.listed_next hformed hone hresumed hserving

theorem start (localId : String) (mailboxCapacity : Option Nat) :
    Listing (start localId mailboxCapacity) where
  bounded := fun _ hlt => nomatch hlt
  endless := by
    intro id frame hat
    obtain ⟨rfl, rfl⟩ := at_start hat
    rfl
  under := fun _ _ hmem => nomatch hmem
  siblings := by
    intro id child stage hat
    cases (at_start hat).2
  listed := by
    intro supervisor id child stage hserving
    cases (at_start hserving.here).2

end Listing

end Step

end LapinBeam.Actor
