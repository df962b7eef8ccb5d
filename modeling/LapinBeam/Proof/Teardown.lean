import LapinBeam.Proof.Ending
import Mathlib.Logic.Relation

/-!
# Crash handlers that tear down their siblings

A crash handler cancels its siblings and awaits them one by one. What it awaits is on its way out as
long as it is not itself a crash handler in the middle of the same: then the cancellation is
forwarded to the task *that* handler awaits, and what comes back is dropped by its
`except BaseException`. Apart from this, a task on its way out waits for tasks further down in the
tree of supervisors only, so nobody waits in a circle.
-/

namespace LapinBeam.Actor

open Asyncio (TaskId)

def granting : Condition
  | system, _, .child id (.budgeting _), .clock now =>
      ((system.shared.supervisorOf id).allowRestart now).1
  | _, _, _, _ => true

def Frame.cancels (runtime : Runtime) : Frame → Option TaskId
  | .child _ (.tearing _ _ (sibling :: _)) => some (runtime.children sibling).task
  | .child _ (.closing (task :: _) _) => some task
  | _ => none

/-- What it cancels is not itself tearing down a sibling, and has no exit to take. -/
def cancelsApart : Condition := fun system _ frame _ =>
  match frame.cancels system.shared with
  | none => true
  | some task =>
      match system.tasks[task]? with
      | some ⟨_, .child _ (.awaiting _ _ _ _)⟩ => false
      | some ⟨_, .child child (.driving _)⟩ => (system.shared.children child).pendingExit = none
      | _ => true

def calm : Condition :=
  both (both respawnsEnded granting) (both cancelsApart (both exitsApart unwinds))

def ChildStage.givingUp : ChildStage → Bool
  | .exhausted _ | .cancelling _ _ _ | .gathering _ _ => true
  | _ => false

def ChildStage.built : ChildStage → Bool
  | .building | .waiting => true
  | _ => false

def ChildStage.drains : ChildStage → Option (List TaskId × List TaskId)
  | .closing rest tasks => some (rest, tasks)
  | .draining tasks => some ([], tasks)
  | _ => none

def Placed (system : System) : Prop :=
  ∀ child < system.shared.nextChild,
    ∃ stage, At system (system.shared.children child).task (.child child stage)

def Spared (system : System) : Prop :=
  ∀ id child stage, At system id (.child child stage) → child ∉ stage.siblings

def Granted (system : System) : Prop :=
  ∀ id child stage, At system id (.child child stage) → stage.givingUp = false

def Nested (system : System) : Prop :=
  ∀ id child stage, At system id (.child child stage) → stage.built = true →
    ∀ younger ∈ (system.shared.supervisors (system.shared.children child).nested).children,
      child < younger

def Awaited (system : System) : Prop :=
  ∀ id child crash siblings rest task,
    At system id (.child child (.awaiting crash siblings rest task)) →
    ∃ sibling, Ending system task sibling

def Drained (system : System) : Prop :=
  ∀ id child stage rest tasks, At system id (.child child stage) →
    stage.drains = some (rest, tasks) → ∀ task ∈ tasks, ∃ younger, child < younger ∧
      (∃ later, At system task (.child younger later)) ∧
      (task ∈ rest ∨ Ending system task younger)

structure Orderly (system : System) : Prop where
  placed : Placed system
  spared : Spared system
  granted : Granted system
  nested : Nested system
  awaited : Awaited system
  drained : Drained system

theorem calm_cases {system : System} {id : TaskId} {frame : Frame} {input : Input}
    (hcalm : calm system id frame input = true) :
    respawnsEnded system id frame input = true ∧ granting system id frame input = true ∧
      cancelsApart system id frame input = true ∧ exitsApart system id frame input = true ∧
      unwinds system id frame input = true := by
  simpa [calm, both, Bool.and_eq_true, and_assoc] using hcalm

section Step

variable {system : System} {self task : TaskId} {input : Input} {frame : Frame} {move : Move}
  {child : ChildId} {stage : ChildStage} {runtime : Runtime}

theorem Resumed.exists_child_next (hresumed : Resumed system self input frame move)
    (hat : At system task (.child child stage)) :
    ∃ later, At (move.next system self) task (.child child later) := by
  obtain ⟨later, hlater, hrole⟩ := Mirrored.exists_at_next hresumed hat
  obtain ⟨after, rfl⟩ := Frame.role_eq_child hrole
  exact ⟨after, hlater⟩

theorem Placed.next (hmirrored : Mirrored system) (hplaced : Placed system)
    (hresumed : Resumed system self input frame move) : Placed (move.next system self) := by
  intro child hlt
  rcases Known.child_next_cases hlt with hold | ⟨supervisor, name, kind, heffect, rfl, hrecord⟩
  · rw [children_next]
    rcases Effect.child_cases move.effect system.shared child with
      ⟨-, htask⟩ | ⟨_, heffect, -, htask⟩ | ⟨_, _, _, -, heq, -⟩
    · obtain ⟨stage, hat⟩ := hplaced child hold
      rw [htask]
      exact hresumed.exists_child_next hat
    · obtain ⟨_, _, -, rfl, hspawned⟩ := hresumed.stretch.origin heffect
      rw [htask]
      exact ⟨_, hmirrored.at_next_spawned 0 (by rw [hspawned]; rfl)⟩
    · exact absurd hold (heq ▸ Nat.lt_irrefl _)
  · have hspawned := (hresumed.stretch.origin heffect).2.1
    rw [hrecord]
    exact ⟨_, hmirrored.at_next_spawned 0 (by rw [hspawned]; rfl)⟩

theorem Spared.next (hmirrored : Mirrored system) (hspared : Spared system)
    (hresumed : Resumed system self input frame move) : Spared (move.next system self) := by
  intro id child stage hat hmem
  rcases hmirrored.at_next hat with ⟨rfl, heq⟩ | ⟨-, hold⟩ | ⟨-, hspawned⟩
  · rcases hresumed.stretch.siblings_cases heq hmem with
      ⟨before, rfl, hbefore⟩ | ⟨_, _, _, -, -, hne⟩
    · exact hspared id child before hresumed.here hbefore
    · exact hne rfl
  · exact hspared id child stage hold hmem
  · cases hresumed.stretch.attempting_of_spawned hspawned
    cases hmem

theorem Resumed.backingOff_of_granting {crash : Crash}
    (hresumed : Resumed system self input (.child child (.budgeting crash)) move)
    (hgranting : granting system self (.child child (.budgeting crash)) input = true) :
    move.frame = .child child (.backingOff crash) ∨
      ∃ exc, move.frame = .child child (.finished (.raised exc)) := by
  have hmove := hresumed.eq_some
  cases input with
  | clock now =>
      have hallowed : ((system.shared.supervisorOf child).allowRestart now).1 = true := hgranting
      simp only [Frame.move, ChildStage.move, hallowed, ↓reduceIte,
        Option.ite_none_left_eq_some] at hmove
      obtain ⟨-, hmove⟩ := hmove
      split at hmove
      · cases hmove
        exact .inl rfl
      · cases hmove
        exact .inr ⟨_, rfl⟩
  | _ => cases hmove

theorem Granted.next (hmirrored : Mirrored system) (hgranted : Granted system)
    (hgranting : granting system self frame input = true)
    (hresumed : Resumed system self input frame move) : Granted (move.next system self) := by
  intro id child stage hat
  rcases hmirrored.at_next hat with ⟨rfl, heq⟩ | ⟨-, hold⟩ | ⟨-, hspawned⟩
  · obtain ⟨before, rfl⟩ := hresumed.stretch.of_child heq
    have hbefore := hgranted id child before hresumed.here
    by_cases hbudget : ∃ crash, before = .budgeting crash
    · obtain ⟨crash, rfl⟩ := hbudget
      rcases hresumed.backingOff_of_granting hgranting with hframe | ⟨exc, hframe⟩ <;>
        (rw [hframe] at heq; cases heq; rfl)
    · cases hresumed.stretch <;> cases heq <;> first | rfl | (cases hbefore; done) |
        exact absurd ⟨_, rfl⟩ hbudget
  · exact hgranted id child stage hold
  · cases hresumed.stretch.attempting_of_spawned hspawned
    rfl

theorem Stretch.built_cases (hstretch : Stretch runtime self frame move)
    (heq : .child child stage = move.frame) (hbuilt : stage.built = true) :
    move.effect = .nest child ∨
      ∃ before, frame = .child child before ∧ before.built = true ∧ move.effect = .skip := by
  cases hstretch with
  | nested => cases heq; exact .inl rfl
  | built => cases heq; exact .inr ⟨_, rfl, rfl, rfl⟩
  | _ => cases heq <;> cases hbuilt

theorem Resumed.nested_eq (hresumed : Resumed system self input frame move)
    (hlt : child < system.shared.nextChild)
    (hframe : ∀ fresh, frame ≠ .child child (.attempting fresh)) :
    ((move.next system self).shared.children child).nested =
      (system.shared.children child).nested := by
  rw [children_next]
  rcases Effect.nested_cases move.effect system.shared child with
    hsame | heffect | ⟨_, _, _, -, heq⟩
  · exact hsame
  · obtain ⟨fresh, heq, -⟩ := hresumed.stretch.origin heffect
    exact absurd heq (hframe fresh)
  · exact absurd hlt (heq ▸ Nat.lt_irrefl _)

theorem Nested.next (hformed : WellFormed system) (hone : OneTask system) (hnested : Nested system)
    (hresumed : Resumed system self input frame move) : Nested (move.next system self) := by
  intro id child stage hat hbuilt younger hmem
  rw [children_next, supervisors_next] at hmem
  rcases hformed.mirrored.at_next hat with ⟨rfl, heq⟩ | ⟨hne, hold⟩ | ⟨-, hspawned⟩
  · rcases hresumed.stretch.built_cases heq hbuilt with
      heffect | ⟨before, rfl, hbefore, heffect⟩
    · -- the fresh supervisor has no children
      simp [heffect, Effect.apply, Runtime.nest, Runtime.setChild, Runtime.setSupervisor] at hmem
    · rw [heffect] at hmem
      exact hnested id child before hresumed.here hbefore younger hmem
  · have hlive : (Frame.child child stage).isDone = false := by
      cases stage <;> first | rfl | cases hbuilt
    have hlt := hformed.known.frames _ _ hold child List.mem_cons_self
    have hframe : ∀ fresh, frame ≠ .child child (.attempting fresh) := by
      rintro fresh rfl
      have hself := hone self child _ hresumed.here (hformed.mirrored.live_self hresumed)
      exact hne ((hone id child stage hold hlive).symm.trans hself)
    rw [← children_next move system self, hresumed.nested_eq hlt hframe] at hmem
    rcases Effect.listed_apply _ _ hmem with hmem | ⟨_, _, -, rfl⟩
    · exact hnested id child stage hold hbuilt younger hmem
    · exact hlt
  · cases hresumed.stretch.attempting_of_spawned hspawned
    cases hbuilt

theorem ending_of_cancels (hformed : WellFormed system)
    (hcancels : frame.cancels system.shared = some task) (heffect : move.effect = .cancel task)
    (hapart : cancelsApart system self frame input = true)
    (hat : At system task (.child child stage)) (hne : task ≠ self)
    (hresumed : Resumed system self input frame move) :
    Ending (move.next system self) task child := by
  have hlookup : system.tasks[task]? = some ⟨task, .child child stage⟩ := hat
  simp only [cancelsApart, hcancels, hlookup] at hapart
  refine ending_of_cancel hformed hresumed heffect hat hne ?_ ?_
  · rintro crash siblings rest other rfl
    cases hapart
  · rintro driver rfl
    simpa using hapart

theorem Stretch.awaiting_cases {crash : Crash} {siblings rest : List ChildId}
    (hstretch : Stretch runtime self frame move)
    (heq : .child child (.awaiting crash siblings rest task) = move.frame) :
    ∃ sibling, frame = .child child (.tearing crash siblings (sibling :: rest)) ∧
      task = (runtime.children sibling).task ∧ move.effect = .cancel task := by
  cases hstretch with
  | tear => cases heq; exact ⟨_, rfl, rfl, rfl⟩
  | _ => cases heq

theorem Awaited.next (hformed : WellFormed system) (hrecorded : Recorded system)
    (horderly : Orderly system) (hcalm : calm system self frame input = true)
    (hresumed : Resumed system self input frame move) : Awaited (move.next system self) := by
  obtain ⟨-, -, hcancels, hexits, hunwinds⟩ := calm_cases hcalm
  intro id child crash siblings rest task hat
  rcases hformed.mirrored.at_next hat with ⟨rfl, heq⟩ | ⟨-, hold⟩ | ⟨-, hspawned⟩
  · obtain ⟨sibling, rfl, rfl, heffect⟩ := hresumed.stretch.awaiting_cases heq
    have hlisted : sibling ∈ siblings ++ sibling :: rest := by simp
    obtain ⟨stage, htask⟩ := horderly.placed sibling
      (hformed.known.frames _ _ hresumed.here sibling (List.mem_cons_of_mem _ hlisted))
    have hne : (system.shared.children sibling).task ≠ id := by
      intro hself
      cases (hself ▸ htask).unique hresumed.here
      exact horderly.spared id _ _ hresumed.here hlisted
    exact ⟨sibling, ending_of_cancels hformed rfl heffect hcancels htask hne hresumed⟩
  · obtain ⟨sibling, hending⟩ := horderly.awaited id child crash siblings rest task hold
    exact ⟨sibling, hending.next hformed.mirrored hrecorded hexits hunwinds hresumed⟩
  · cases hresumed.stretch.attempting_of_spawned hspawned

theorem Stretch.drains_cases {rest tasks : List TaskId} (hstretch : Stretch runtime self frame move)
    (heq : .child child stage = move.frame) (hdrains : stage.drains = some (rest, tasks)) :
    (∃ before, frame = .child child before ∧ before.built = true ∧ rest = tasks ∧
      tasks = runtime.nestedTasks child) ∨
    (∃ first, frame = .child child (.closing (first :: rest) tasks) ∧
      move.effect = .cancel first) ∨
    frame = .child child (.closing [] tasks) ∧ rest = [] := by
  cases hstretch with
  | buildCancelled | waitCancelled => cases heq; cases hdrains; exact .inl ⟨_, rfl, rfl, rfl, rfl⟩
  | closeOther => cases heq; cases hdrains; exact .inr (.inl ⟨_, rfl, rfl⟩)
  | drain => cases heq; cases hdrains; exact .inr (.inr ⟨rfl, rfl⟩)
  | _ => cases heq <;> cases hdrains

theorem Drained.next (hformed : WellFormed system) (hrecorded : Recorded system)
    (horderly : Orderly system) (hcalm : calm system self frame input = true)
    (hresumed : Resumed system self input frame move) : Drained (move.next system self) := by
  obtain ⟨-, -, hcancels, hexits, hunwinds⟩ := calm_cases hcalm
  have hkeep : ∀ {task younger}, Ending system task younger →
      Ending (move.next system self) task younger := fun hending =>
    hending.next hformed.mirrored hrecorded hexits hunwinds hresumed
  intro id child stage rest tasks hat hdrains task hmem
  rcases hformed.mirrored.at_next hat with ⟨rfl, heq⟩ | ⟨-, hold⟩ | ⟨-, hspawned⟩
  · rcases hresumed.stretch.drains_cases heq hdrains with
      ⟨before, rfl, hbuilt, rfl, rfl⟩ | ⟨first, rfl, heffect⟩ | ⟨rfl, rfl⟩
    · -- the children of the supervisor that is shut down
      obtain ⟨younger, hlisted, rfl⟩ := List.mem_map.mp hmem
      obtain ⟨later, htask⟩ := horderly.placed younger (hformed.known.listed _ younger hlisted)
      exact ⟨younger, horderly.nested id child before hresumed.here hbuilt younger hlisted,
        hresumed.exists_child_next htask, .inl hmem⟩
    · obtain ⟨younger, hlt, ⟨later, htask⟩, hcases⟩ :=
        horderly.drained id child _ _ _ hresumed.here rfl task hmem
      refine ⟨younger, hlt, hresumed.exists_child_next htask, ?_⟩
      rcases hcases with hrest | hending
      · rcases List.mem_cons.mp hrest with rfl | hrest
        · refine .inr (ending_of_cancels hformed rfl heffect hcancels htask ?_ hresumed)
          rintro rfl
          cases htask.unique hresumed.here
          exact Nat.lt_irrefl _ hlt
        · exact .inl hrest
      · exact .inr (hkeep hending)
    · obtain ⟨younger, hlt, ⟨later, htask⟩, hcases⟩ :=
        horderly.drained id child _ _ _ hresumed.here rfl task hmem
      exact ⟨younger, hlt, hresumed.exists_child_next htask, hcases.imp_right hkeep⟩
  · obtain ⟨younger, hlt, ⟨later, htask⟩, hcases⟩ :=
      horderly.drained id child stage rest tasks hold hdrains task hmem
    exact ⟨younger, hlt, hresumed.exists_child_next htask, hcases.imp_right hkeep⟩
  · cases hresumed.stretch.attempting_of_spawned hspawned
    cases hdrains

theorem Orderly.next (hformed : WellFormed system) (hsupervised : Supervised system)
    (horderly : Orderly system) (hcalm : calm system self frame input = true)
    (hresumed : Resumed system self input frame move) : Orderly (move.next system self) where
  placed := horderly.placed.next hformed.mirrored hresumed
  spared := horderly.spared.next hformed.mirrored hresumed
  granted := horderly.granted.next hformed.mirrored (calm_cases hcalm).2.1 hresumed
  nested := horderly.nested.next hformed hsupervised.one hresumed
  awaited := Awaited.next hformed hsupervised.recorded horderly hcalm hresumed
  drained := Drained.next hformed hsupervised.recorded horderly hcalm hresumed

theorem Orderly.start (localId : String) (mailboxCapacity : Option Nat) :
    Orderly (start localId mailboxCapacity) where
  placed := fun _ hlt => nomatch hlt
  spared := fun _ _ _ hat => nomatch (at_start hat).2
  granted := fun _ _ _ hat => nomatch (at_start hat).2
  nested := fun _ _ _ hat => nomatch (at_start hat).2
  awaited := fun _ _ _ _ _ _ hat => nomatch (at_start hat).2
  drained := fun _ _ _ _ _ hat => nomatch (at_start hat).2

end Step

/-! ### Who waits for whom -/

def Frame.awaited (frame : Frame) : List TaskId :=
  match frame.await with
  | .task id => [id]
  | .gather ids => ids
  | _ => []

def Awaits (system : System) (id other : TaskId) : Prop :=
  (∃ frame, At system id frame ∧ other ∈ frame.awaited) ∧
    ∃ child stage, At system other (.child child stage)

section Waiting

variable {system : System} {id other : TaskId} {child : ChildId}

theorem Frame.awaited_cases {frame : Frame} (hmem : other ∈ frame.awaited) :
    (∃ child, frame = .child child (.driving other)) ∨
    (∃ child crash siblings rest, frame = .child child (.awaiting crash siblings rest other)) ∨
    (∃ child crash tasks, frame = .child child (.gathering crash tasks)) ∨
    ∃ child tasks, frame = .child child (.draining tasks) ∧ other ∈ tasks := by
  cases frame with
  | child owner stage =>
      cases stage with
      | driving => exact .inl ⟨_, by rw [List.mem_singleton.mp hmem]⟩
      | awaiting => exact .inr (.inl ⟨_, _, _, _, by rw [List.mem_singleton.mp hmem]⟩)
      | gathering => exact .inr (.inr (.inl ⟨_, _, _, rfl⟩))
      | draining => exact .inr (.inr (.inr ⟨_, _, rfl, hmem⟩))
      | attempting fresh => cases fresh <;> cases hmem
      | _ => cases hmem
  | driver owner mailbox stage => cases stage <;> cases hmem
  | outside rest => cases rest <;> cases hmem
  | _ => cases hmem

theorem Awaits.ending (hknown : Known system) (horderly : Orderly system)
    (hawaits : Awaits system id other) : ∃ child, Ending system other child := by
  obtain ⟨⟨frame, hat, hmem⟩, child, stage, hother⟩ := hawaits
  rcases Frame.awaited_cases hmem with
    ⟨owner, rfl⟩ | ⟨owner, crash, siblings, rest, rfl⟩ | ⟨owner, crash, tasks, rfl⟩ |
    ⟨owner, tasks, rfl, hmem⟩
  · obtain ⟨_, _, hdriver⟩ := hknown.drives id owner other hat
    cases hdriver.unique hother
  · exact horderly.awaited id owner crash siblings rest other hat
  · cases horderly.granted id owner _ hat
  · obtain ⟨younger, -, -, hcases⟩ := horderly.drained id owner _ _ _ hat rfl other hmem
    exact ⟨younger, hcases.resolve_left (List.not_mem_nil)⟩

theorem Ending.younger (hknown : Known system) (horderly : Orderly system)
    (hending : Ending system id child) (hawaits : Awaits system id other) :
    ∃ younger, child < younger ∧ Ending system other younger := by
  obtain ⟨⟨frame, hat, hmem⟩, _, _, hother⟩ := hawaits
  obtain ⟨stage, hstage⟩ := hending.exists_at
  obtain rfl := hat.unique hstage
  rcases Frame.awaited_cases hmem with
    ⟨_, heq⟩ | ⟨_, _, _, _, heq⟩ | ⟨_, _, _, heq⟩ | ⟨_, tasks, heq, hmem⟩ <;> cases heq
  · obtain ⟨_, _, hdriver⟩ := hknown.drives id child other hat
    cases hdriver.unique hother
  · cases hending with
    | parked hat' hstage | leaving hat' hstage => cases hat'.unique hat; cases hstage
    | cancelled hat' | driving hat' => cases hat'.unique hat
  · cases horderly.granted id child _ hat
  · obtain ⟨younger, hlt, -, hcases⟩ := horderly.drained id child _ _ _ hat rfl other hmem
    exact ⟨younger, hlt, hcases.resolve_left (List.not_mem_nil)⟩

theorem Ending.unique {first second : ChildId} (hfirst : Ending system id first)
    (hsecond : Ending system id second) : first = second := by
  obtain ⟨_, hat⟩ := hfirst.exists_at
  obtain ⟨_, hat'⟩ := hsecond.exists_at
  cases hat.unique hat'
  rfl

theorem not_transGen_awaits (hknown : Known system) (horderly : Orderly system) :
    ¬ Relation.TransGen (Awaits system) id id := by
  intro hcycle
  -- along the cycle the children get younger and younger
  have hyounger : ∀ {child other}, Ending system id child →
      Relation.TransGen (Awaits system) id other →
      ∃ younger, child < younger ∧ Ending system other younger := by
    intro child other hending hpath
    induction hpath with
    | single hawaits => exact hending.younger hknown horderly hawaits
    | tail _ hawaits ih =>
        obtain ⟨middle, hlt, hmiddle⟩ := ih
        obtain ⟨younger, hlt', hlast⟩ := hmiddle.younger hknown horderly hawaits
        exact ⟨younger, Nat.lt_trans hlt hlt', hlast⟩
  obtain ⟨last, -, hawaits⟩ := Relation.TransGen.tail'_iff.mp hcycle
  obtain ⟨child, hending⟩ := hawaits.ending hknown horderly
  obtain ⟨younger, hlt, hagain⟩ := hyounger hending hcycle
  exact Nat.lt_irrefl _ (hending.unique hagain ▸ hlt)

end Waiting

end LapinBeam.Actor
