import LapinBeam.Proof.Generations

/-!
# Who owns a name

A generation registers its mailbox under its child's name before the driver starts, and the cleanup
at its end releases the name. Between two generations, while the child waits in its backoff, the
name is free and may be taken by another spawn. The attempt that follows then fails, and a failed
attempt is cleaned up like any other crash: it releases the name, whoever owns it.
-/

namespace LapinBeam.Actor

open Asyncio (TaskId)

/-- An attempt is made only while the name is free or the child's own, a sibling is respawned only when its task is done, and `stop()` clears the names only when every child's task is. -/
def namesApart : Condition
  | ⟨runtime, _⟩, _, .child child (.attempting _), _ =>
      match (runtime.children child).mailbox, runtime.names (runtime.children child).name with
      | some mailbox, some owner => owner = mailbox
      | _, _ => true
  | ⟨runtime, _⟩, _, .outside [], .call .stopped =>
      (List.range runtime.nextChild).all fun child => runtime.isDone (runtime.children child).task
  | system, id, frame, input => respawnsEnded system id frame input

theorem respawnsEnded_of_namesApart (system : System) (id : TaskId) (frame : Frame)
    (input : Input) (happart : namesApart system id frame input = true) :
    respawnsEnded system id frame input = true := by
  unfold namesApart at happart
  split at happart
  · rfl
  · rfl
  · exact happart

theorem Runtime.owner_of_free {runtime : Runtime} {name : String} {mailbox owner : MailboxId}
    (hfree : runtime.registerError name mailbox = none) (howner : runtime.names name = some owner) :
    owner = mailbox := by
  simp only [registerError, howner] at hfree
  split at hfree
  · cases hfree
  · split at hfree
    · assumption
    · cases hfree

def Claimed (system : System) : Prop :=
  ∀ name mailbox, system.shared.names name = some mailbox → mailbox < system.shared.nextChild

structure Named (system : System) : Prop where
  driving : ∀ id child driver, At system id (.child child (.driving driver)) →
    system.shared.names (system.shared.children child).name = some child
  spawned : ∀ name mailbox, system.shared.names name = some mailbox →
    mailbox < system.shared.nextChild

section Step

variable {system : System} {self : TaskId} {input : Input} {frame : Frame} {move : Move}

theorem Resumed.stopped_cases (hresumed : Resumed system self input frame move)
    (heffect : move.effect = .stopped) : frame = .outside [] ∧ input = .call .stopped := by
  have hmove := hresumed.eq_some
  have hframe : frame = .outside [] := by
    cases hresumed.stretch with
    | notified => split at heffect <;> cases heffect
    | stopped => rfl
    | called => rfl
    | _ => cases heffect
  subst hframe
  refine ⟨rfl, ?_⟩
  cases input with
  | call call =>
      have hmove : call.move system.shared = some move := hmove
      cases call with
      | stopped => rfl
      | spawn | spawnSupervisor | cancelTask =>
          simp only [Call.move, Option.ite_none_right_eq_some] at hmove
          cases hmove.2
          cases heffect
      | _ => cases hmove; cases heffect
  | _ => cases hmove

theorem Known.mailbox_eq (hknown : Known system) {child : ChildId} {mailbox : MailboxId}
    {stage : ChildStage} {id : TaskId} (hat : At system id (.child child stage))
    (hkind : (system.shared.children child).kind = .actor mailbox) : mailbox = child :=
  hknown.mailbox child mailbox (hknown.frames _ _ hat child List.mem_cons_self) hkind

theorem owner_of_attempt (hknown : Known system) {child owner : ChildId} {fresh : Bool}
    {mailbox : MailboxId} (hat : At system self (.child child (.attempting fresh)))
    (hkind : (system.shared.children child).kind = .actor mailbox)
    (happart : namesApart system self (.child child (.attempting fresh)) input = true)
    (howner : system.shared.names (system.shared.children child).name = some owner) :
    owner = child := by
  simpa [namesApart, Child.mailbox, hkind, howner, hknown.mailbox_eq hat hkind] using happart

theorem Named.keep (hformed : WellFormed system) (hone : OneTask system) (hnamed : Named system)
    (happart : namesApart system self frame input = true)
    (hresumed : Resumed system self input frame move) {id driver : TaskId} {child : ChildId}
    (hne : id ≠ self) (hat : At system id (.child child (.driving driver))) :
    (move.effect.apply system.shared).names (system.shared.children child).name = some child := by
  have hbefore := hnamed.driving id child driver hat
  -- no other task belongs to this child
  have halone : ∀ other stage, frame = .child other stage → child ≠ other := by
    rintro other stage rfl rfl
    have hself := hone self child stage hresumed.here (hformed.mirrored.live_self hresumed)
    exact hne ((hone id child _ hat rfl).symm.trans hself)
  rcases Effect.names_cases move.effect system.shared (system.shared.children child).name with
    heq | ⟨other, mailbox, _, heffect, hname, -⟩ | ⟨other, _, heffect, hname, -⟩ |
      ⟨_, mailbox, heffect, -⟩ | ⟨heffect, -⟩
  · exact heq.trans hbefore
  · obtain ⟨fresh, rfl, -, hkind, -⟩ := hresumed.stretch.origin heffect
    have howner := owner_of_attempt hformed.known hresumed.here hkind happart (hname ▸ hbefore)
    exact absurd howner (halone other _ rfl)
  · rcases hresumed.stretch.origin heffect with ⟨fresh, mailbox, rfl, hkind⟩ | ⟨_, rfl⟩
    · have howner := owner_of_attempt hformed.known hresumed.here hkind happart (hname ▸ hbefore)
      exact absurd howner (halone other _ rfl)
    · have howner := hnamed.driving self other _ hresumed.here
      rw [← hname, hbefore] at howner
      exact absurd (Option.some.inj howner) (halone other _ rfl)
  · obtain ⟨rfl, hfree⟩ := (hresumed.stretch.origin heffect).2.2 _ rfl
    have hlt := hnamed.spawned _ _ hbefore
    rw [Runtime.owner_of_free hfree hbefore] at hlt
    exact absurd hlt (Nat.lt_irrefl _)
  · obtain ⟨rfl, rfl⟩ := hresumed.stopped_cases heffect
    have hlt := hformed.known.frames _ _ hat child List.mem_cons_self
    have hdone := List.all_eq_true.mp happart child (List.mem_range.mpr hlt)
    rw [hone id child _ hat rfl, hformed.mirrored.isDone_of_at hat] at hdone
    cases hdone

theorem Claimed.next (hknown : Known system) (hclaimed : Claimed system)
    (hresumed : Resumed system self input frame move) : Claimed (move.next system self) := by
  intro name mailbox hname
  rw [names_next] at hname
  refine Known.lt_next self ?_
  rcases Effect.names_cases move.effect system.shared name with
    heq | ⟨child, _, _, heffect, -, heq⟩ | ⟨_, _, -, -, heq⟩ | ⟨supervisor, _, heffect, heq⟩ |
      ⟨-, heq⟩ <;> rw [heq] at hname
  · exact .inl (hclaimed name mailbox hname)
  · obtain rfl := Option.some.inj hname
    obtain ⟨fresh, rfl, -, hkind, -⟩ := hresumed.stretch.origin heffect
    rw [hknown.mailbox_eq hresumed.here hkind]
    exact .inl (hknown.frames _ _ hresumed.here child List.mem_cons_self)
  · cases hname
  · obtain rfl := Option.some.inj hname
    exact .inr ⟨_, _, _, heffect, ((hresumed.stretch.origin heffect).2.2 _ rfl).1⟩
  · cases hname

theorem Named.next (hformed : WellFormed system) (hone : OneTask system) (hnamed : Named system)
    (happart : namesApart system self frame input = true)
    (hresumed : Resumed system self input frame move) : Named (move.next system self) where
  driving := by
    intro id child driver hat
    rcases hformed.mirrored.at_next hat with ⟨rfl, heq⟩ | ⟨hne, hold⟩ | ⟨-, hspawned⟩
    · obtain ⟨mailbox, -, -, heffect⟩ := hresumed.stretch.of_driving heq
      obtain ⟨fresh, rfl, -, hkind, -⟩ := hresumed.stretch.origin heffect
      rw [names_next, children_next, heffect]
      simp [Effect.apply, Runtime.launch, Runtime.registerActor, Runtime.setChild,
        hformed.known.mailbox_eq hresumed.here hkind]
    · have hlt := hformed.known.frames _ _ hold child List.mem_cons_self
      rw [(Known.sameChild_next move self hlt).name]
      exact hnamed.keep hformed hone happart hresumed hne hold
    · cases hresumed.stretch.attempting_of_spawned hspawned
  spawned := Claimed.next hformed.known hnamed.spawned hresumed

end Step

/-- A running generation is reachable under its child's name, in every run in which no attempt is made on a name somebody else has. -/
theorem running_owns_name {localId : String} {mailboxCapacity : Option Nat} {system : System}
    (hreach : Machine.ReachableWhere step (Meets namesApart) (start localId mailboxCapacity) system)
    {id : TaskId} {child : ChildId} {mailbox : MailboxId} {stage : DriverStage}
    (hdriver : At system id (.driver child mailbox stage))
    (hrunning : system.shared.isDone id = false) :
    system.shared.names (system.shared.children child).name = some mailbox ∧
      (system.shared.children child).mailbox = some mailbox := by
  have hinv : WellFormed system ∧ Supervised system ∧ Named system := by
    refine WellFormed.invariant (fun system => Supervised system ∧ Named system) (.start _ _)
      ⟨.start _ _, ?_, fun _ _ hname => nomatch hname⟩ ?_ hreach
    · intro id child driver hat
      cases (at_start hat).2
    · rintro system self input frame move hformed ⟨hsupervised, hnamed⟩ hmeets hresumed
      have happart := hresumed.meets hmeets
      exact ⟨hsupervised.next hformed (respawnsEnded_of_namesApart _ _ _ _ happart) hresumed,
        hnamed.next hformed hsupervised.one happart hresumed⟩
  obtain ⟨hformed, hsupervised, hnamed⟩ := hinv
  rw [hformed.mirrored.isDone_of_at hdriver] at hrunning
  obtain ⟨task, htask⟩ := hsupervised.driven _ _ _ _ hdriver hrunning
  have hkind := hformed.known.reads _ _ _ _ hdriver
  obtain rfl := hformed.known.mailbox_eq htask hkind
  exact ⟨hnamed.driving _ _ _ htask, by simp [Child.mailbox, hkind]⟩

theorem running_owns_name_crashing :
    ∃ system, Machine.ReachableWhere step (Meets namesApart) (start "node" none) system ∧
      At system 3 (.driver 0 0 (.handling (.user "second"))) ∧
      system.shared.names (system.shared.children 0).name = some 0 := by
  have hrun : (Machine.runWhere step (Meets namesApart) (start "node" none) Fixed.crashing).map
      (fun system => (system.tasks[3]?, system.shared.isDone 3)) =
      some (some ⟨3, .driver 0 0 (.handling (.user "second"))⟩, false) := by
    decide +kernel
  obtain ⟨system, hreach, hobserved⟩ := Machine.exists_reachableWhere hrun
  obtain ⟨hat, hlive⟩ := Prod.mk.inj hobserved
  exact ⟨system, hreach, hat, (running_owns_name hreach hat hlive).1⟩

/-- A second actor takes the name of one in its backoff, whose next attempt then fails. -/
def Fixed.takenOver : List Action :=
  [ask (.newSupervisor {}), ask (.spawn 0 "worker")] ++ launch 1 2 ++ busy "worker" 2 ++
    crash 1 2 ++ [ask (.spawn 0 "worker")] ++ launch 3 4 ++
    [go 1, go 1, go 1, .resume 1 (.constructed none)]

theorem running_loses_name :
    ∃ system, Machine.Reachable step (start "node" none) system ∧
      At system 4 (.driver 1 1 .getting) ∧ system.shared.isDone 4 = false ∧
      (system.shared.children 1).name = "worker" ∧ system.shared.names "worker" = none := by
  have hrun : (Machine.runWhere step (fun _ _ => True) (start "node" none) Fixed.takenOver).map
      (fun system => (system.tasks[4]?, system.shared.isDone 4, (system.shared.children 1).name,
        system.shared.names "worker")) =
      some (some ⟨4, .driver 1 1 .getting⟩, false, "worker", none) := by
    decide +kernel
  obtain ⟨system, hreach, hobserved⟩ := Machine.exists_reachableWhere hrun
  simp only [Prod.mk.injEq] at hobserved
  exact ⟨system, hreach, hobserved⟩

end LapinBeam.Actor
