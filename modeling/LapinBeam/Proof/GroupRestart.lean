import LapinBeam.Proof.CrashHandling
import Mathlib.Algebra.Group.Prod

/-!
# Each strategy restarts its group

When the crashed child is up again, its siblings in the group have lost their old task and got one
new one each, and nothing has happened to the other children of the supervisor. How often a child
got a new task and started a generation is counted along the run (`changes`), and how often
something was cleared under its name (`releases`).
-/

namespace LapinBeam.Actor

open Asyncio (TaskId Loop)

def Effect.changes (child : ChildId) : Effect → Nat × Nat
  | .respawn other _ => if other = child then (1, 0) else 0
  | .launch other _ _ | .nest other => if other = child then (0, 1) else 0
  | _ => 0

def Effect.releases (runtime : Runtime) (name : String) : Effect → Nat
  | .cleanup child _ => if (runtime.children child).name = name then 1 else 0
  | .stopped => 1
  | _ => 0

def effectOf (system : System) : Action → Effect
  | .call _ => .skip
  | .resume id input =>
      ((system.tasks[id]?).bind fun task =>
        (task.frame.move system.shared id input).map Move.effect).getD .skip

def changes (child : ChildId) (system : System) (action : Action) : Nat × Nat :=
  (effectOf system action).changes child

def releases (name : String) (system : System) (action : Action) : Nat :=
  (effectOf system action).releases system.shared name

section Account

variable {system : System} {self : TaskId} {input : Input} {frame : Frame} {move : Move}

theorem Resumed.effectOf_eq (hresumed : Resumed system self input frame move) :
    effectOf system (.resume self input) = move.effect := by
  have hat : system.tasks[self]? = some ⟨self, frame⟩ := hresumed.here
  simp [effectOf, hat, hresumed.eq_some]

theorem Resumed.changes_cases (hresumed : Resumed system self input frame move) (child : ChildId) :
    move.effect.changes child = 0 ∨ (∃ task, move.effect = .respawn child task) ∨
      ∃ fresh, frame = .child child (.attempting fresh) := by
  cases heffect : move.effect with
  | respawn other task =>
      by_cases hother : other = child
      · exact .inr (.inl ⟨task, by rw [hother]⟩)
      · exact .inl (by simp [Effect.changes, hother])
  | launch other mailbox driver | nest other =>
      by_cases hother : other = child
      · obtain ⟨fresh, rfl, -⟩ := hresumed.stretch.origin heffect
        exact .inr (.inr ⟨fresh, by rw [hother]⟩)
      · exact .inl (by simp [Effect.changes, hother])
  | _ => exact .inl rfl

end Account

theorem ChildStage.serves_of_up {stage : ChildStage} (hup : stage.up = true) :
    stage.serves = true := by
  cases stage with
  | attempting => cases hup
  | _ => exact hup

def ChildStage.attempts : ChildStage → Bool
  | .attempting _ => true
  | _ => false

def Incident.waits (incident : Incident) : ChildStage → List ChildId
  | .attempting _ | .driving _ | .building | .waiting => []
  | .respawning rest => rest
  | _ => incident.siblings

inductive Incident.Sweeps (incident : Incident) (origin : System) (stage : ChildStage)
    (system : System) (sibling : ChildId) : Nat × Nat → Prop
  | waits {last} (hwaits : sibling ∈ incident.waits stage)
      (htask : (system.shared.children sibling).task = (origin.shared.children sibling).task)
      (hat : At system (system.shared.children sibling).task (.child sibling last))
      (hlast : last.attempts = false) : Sweeps incident origin stage system sibling 0
  | renewed {last} (hgone : sibling ∉ incident.waits stage)
      (hended : system.shared.isDone (origin.shared.children sibling).task = true)
      (hat : At system (system.shared.children sibling).task (.child sibling last))
      (hserves : last.serves = true) :
      Sweeps incident origin stage system sibling (1, if last.up then 1 else 0)

section Step

variable {incident : Incident} {stage later : ChildStage} {system : System} {self : TaskId}
  {input : Input} {frame : Frame} {move : Move} {other : ChildId} {origin : System}

theorem Incident.Course.pending_subset_waits (hcourse : incident.Course system stage) :
    stage.pending ⊆ incident.waits stage := by
  cases stage with
  | respawning => exact List.Subset.refl _
  | tearing | awaiting => exact hcourse.1 ▸ List.Subset.refl _
  | _ => exact List.nil_subset _

theorem Incident.Follows.waits_subset (hcourse : incident.Course system stage)
    (hfollows : incident.Follows system self frame move stage later) :
    incident.waits later ⊆ incident.waits stage := by
  cases hfollows with
  | stays => exact List.Subset.refl _
  | turns _ _ _ hturn =>
      generalize move.effect = effect at hturn
      cases hturn with
      | tornAll => exact hcourse.1 ▸ List.Subset.refl _
      | respawn => exact List.subset_cons_self _ _
      | _ => exact List.Subset.refl _

theorem Incident.Follows.mem_waits (hcourse : incident.Course system stage)
    (hfollows : incident.Follows system self frame move stage later)
    (hkept : ∀ task, move.effect ≠ .respawn other task) (hmem : other ∈ incident.waits stage) :
    other ∈ incident.waits later := by
  cases hfollows with
  | stays => exact hmem
  | turns _ _ _ hturn =>
      generalize heffect : move.effect = effect at hturn
      cases hturn with
      | tornAll => exact hcourse.1 ▸ hmem
      | respawn =>
          refine (List.mem_cons.mp hmem).resolve_left ?_
          rintro rfl
          exact hkept _ heffect
      | _ => exact hmem

theorem Incident.not_dooms_of_notMem
    (hunder : (system.shared.children other).supervisor = incident.supervisor)
    (hnotMem : other ∉ stage.pending) : ¬ incident.Dooms system stage other := by
  rintro (hmem | hyounger)
  · exact hnotMem hmem
  · exact absurd hyounger (hunder ▸ Nat.lt_irrefl _)

namespace Handling

variable (hhandling : Handling incident stage system)

include hhandling

theorem task_ne {id : TaskId} {last : ChildStage} (hat : At system id (.child other last))
    (hne : other ≠ incident.child) : id ≠ incident.task := by
  rintro rfl
  cases hat.unique hhandling.here
  exact hne rfl

theorem safe_step {before : ChildStage}
    (hresumed : Resumed system self input (.child other before) move)
    (hpeaceful : Peaceful incident.supervisor system self input move) (hne : self ≠ incident.task)
    (hsafe : ¬ incident.Dooms system stage other) :
    (before = .attempting true ∧ move.effect.changes other = (0, 1) ∧
      ∃ later, move.frame = .child other later ∧ later.up = true) ∨
    before = .building ∧ move.effect = .skip ∧ move.frame = .child other .waiting := by
  have hrunning := hhandling.formed.mirrored.live_self hresumed
  have hserves : before.serves = true :=
    (hhandling.others _ _ _ hresumed.here hne hrunning).resolve_right fun hdooms => hsafe hdooms.2
  have hspared : ¬ system.shared.cancelled self = true := fun hcancelled =>
    hsafe (hhandling.dooms_of_cancelled hresumed.here hrunning rfl hcancelled)
  obtain ⟨later, herrand, hframe⟩ := hhandling.errand hresumed hpeaceful hne
  generalize heffect : move.effect = effect at herrand ⊢
  cases herrand with
  | aborted hcancelled | closed _ hcancelled => exact absurd hcancelled hspared
  | launched | nested => exact .inl ⟨rfl, by simp [Effect.changes], _, hframe, rfl⟩
  | shut hdone => exact absurd (hhandling.driven _ _ _ hresumed.here hdone) hsafe
  | built => exact .inr ⟨rfl, rfl, hframe⟩
  | closeOther | drain => cases hserves
  | ended hwinding =>
      cases before with
      | notifying | closing | draining => cases hserves
      | _ => cases hwinding

variable (hresumed : Resumed system self input frame move)

include hresumed

theorem respawning_of_respawn {task : TaskId} (heffect : move.effect = .respawn other task) :
    ∃ rest, stage = .respawning (other :: rest) ∧
      frame = .child incident.child (.respawning (other :: rest)) := by
  obtain rfl := hhandling.self_of_respawn hresumed heffect
  obtain ⟨child, rest, rfl, -⟩ := hresumed.stretch.origin heffect
  cases hresumed.here.unique hhandling.here
  exact ⟨rest, rfl, rfl⟩

theorem mem_of_respawn {task : TaskId} (heffect : move.effect = .respawn other task) :
    other ∈ incident.siblings := by
  obtain ⟨rest, rfl, -⟩ := hhandling.respawning_of_respawn hresumed heffect
  obtain ⟨renewed, heq, -⟩ := hhandling.course
  exact heq ▸ by simp

theorem changes_of_other (hne : (system.shared.children other).task ≠ self)
    (hkept : ∀ task, move.effect ≠ .respawn other task) : move.effect.changes other = 0 := by
  rcases hresumed.changes_cases other with hzero | ⟨task, heffect⟩ | ⟨fresh, rfl⟩
  · exact hzero
  · exact absurd heffect (hkept task)
  · exact absurd (hhandling.one _ _ _ hresumed.here
      (hhandling.formed.mirrored.live_self hresumed)) hne

end Handling

theorem Incident.Sweeps.next {sum : Nat × Nat} (hhandling : Handling incident stage system)
    (hresumed : Resumed system self input frame move)
    (hpeaceful : Peaceful incident.supervisor system self input move)
    (hfollows : incident.Follows system self frame move stage later)
    (hmem : other ∈ incident.siblings)
    (hsweeps : incident.Sweeps origin stage system other sum) :
    incident.Sweeps origin later (move.next system self) other
      (sum + move.effect.changes other) := by
  have hlt := hhandling.lt_of_mem hmem
  have hapart : other ≠ incident.child := by
    rintro rfl
    exact Incident.child_notMem_siblings hmem
  cases hsweeps with
  | @waits last hwaits htask hat hlast =>
      by_cases hrespawn : ∃ task, move.effect = .respawn other task
      · -- it gets its new task
        obtain ⟨task, heffect⟩ := hrespawn
        obtain ⟨rest, rfl, rfl⟩ := hhandling.respawning_of_respawn hresumed heffect
        obtain ⟨_, _, -, rfl, hspawned⟩ := hresumed.stretch.origin heffect
        have hcurrent : ((move.next system self).shared.children other).task =
            system.shared.nextTask := by
          simp [heffect, Effect.apply, Runtime.respawn, Runtime.setChild]
        obtain ⟨renewed, heq, hended⟩ := hhandling.course
        have hnew : At (move.next system self)
            ((move.next system self).shared.children other).task
            (.child other (.attempting true)) := by
          rw [hcurrent]
          exact hhandling.formed.mirrored.at_next_spawned 0 (by rw [hspawned]; rfl)
        have hgone : other ∉ incident.waits later := by
          cases hfollows with
          | stays hne => exact absurd (hhandling.self_of_respawn hresumed heffect) hne
          | turns _ _ _ hturn =>
              generalize move.effect = effect at hturn
              cases hturn
              have hnodup := heq ▸ incident.nodup_siblings
              exact (List.nodup_cons.mp (List.nodup_append.mp hnodup).2.1).1
        have hsum : (0 : Nat × Nat) + move.effect.changes other = (1, 0) := by
          simp [heffect, Effect.changes]
        rw [hsum]
        refine .renewed hgone ?_ hnew rfl
        rw [← htask]
        exact hhandling.formed.mirrored.isDone_next hresumed (hended _ List.mem_cons_self)
      · have hkept : ∀ task, move.effect ≠ .respawn other task := fun task heffect =>
          hrespawn ⟨task, heffect⟩
        have hcurrent := Known.task_next self hlt hkept
        have hwaits := hfollows.mem_waits hhandling.course hkept hwaits
        have hstays : ∀ {now}, At (move.next system self) (system.shared.children other).task
            (.child other now) → now.attempts = false → move.effect.changes other = 0 →
            incident.Sweeps origin later (move.next system self) other
              (0 + move.effect.changes other) := by
          intro now hnow hattempts hzero
          rw [hzero, add_zero]
          exact .waits hwaits (hcurrent.trans htask) (hcurrent.symm ▸ hnow) hattempts
        by_cases hself : (system.shared.children other).task = self
        · subst hself
          obtain rfl := hresumed.here.unique hat
          obtain ⟨now, herrand, hframe⟩ :=
            hhandling.errand hresumed hpeaceful (hhandling.task_ne hat hapart)
          refine hstays (hframe ▸ Mirrored.at_next_self hresumed) ?_ ?_
          · generalize move.effect = effect at herrand
            cases herrand <;> rfl
          · rcases hresumed.changes_cases other with hzero | ⟨task, heffect⟩ | ⟨fresh, heq⟩
            · exact hzero
            · exact absurd heffect (hkept task)
            · cases heq
              cases hlast
        · exact hstays (Mirrored.at_next_other hself hat) hlast
            (hhandling.changes_of_other hresumed hself hkept)
  | @renewed last hgone hended hat hserves =>
      have hkept : ∀ task, move.effect ≠ .respawn other task := by
        intro task heffect
        obtain ⟨rest, rfl, -⟩ := hhandling.respawning_of_respawn hresumed heffect
        exact hgone List.mem_cons_self
      have hcurrent := Known.task_next self hlt hkept
      have hgone' : other ∉ incident.waits later := fun hwaits =>
        hgone (hfollows.waits_subset hhandling.course hwaits)
      have hended := hhandling.formed.mirrored.isDone_next hresumed hended
      by_cases hself : (system.shared.children other).task = self
      · subst hself
        obtain rfl := hresumed.here.unique hat
        have hsafe := incident.not_dooms_of_notMem (hhandling.under_of_mem hmem) fun hpending =>
          hgone (hhandling.course.pending_subset_waits hpending)
        have hnow : At (move.next system (system.shared.children other).task)
            ((move.next system (system.shared.children other).task).shared.children other).task
            move.frame := by
          rw [hcurrent]
          exact Mirrored.at_next_self hresumed
        rcases hhandling.safe_step hresumed hpeaceful (hhandling.task_ne hat hapart) hsafe with
          ⟨rfl, hchanges, now, hframe, hup⟩ | ⟨rfl, heffect, hframe⟩
        · have hrenewed := Incident.Sweeps.renewed hgone' hended (hframe ▸ hnow)
            (ChildStage.serves_of_up hup)
          rw [hup] at hrenewed
          rw [hchanges]
          exact hrenewed
        · rw [heffect]
          exact .renewed hgone' hended (hframe ▸ hnow) rfl
      · rw [hhandling.changes_of_other hresumed hself hkept, add_zero]
        exact .renewed hgone' hended (hcurrent.symm ▸ Mirrored.at_next_other hself hat) hserves

structure Untouched (origin system : System) (other : ChildId) : Prop where
  record : system.shared.children other = origin.shared.children other
  stage : ∃ before now, At origin (origin.shared.children other).task (.child other before) ∧
    At system (origin.shared.children other).task (.child other now) ∧ now.up = true ∧
    (now = before ∨ before = .building ∧ now = .waiting)

structure Incident.Spares (incident : Incident) (other : ChildId) : Prop where
  listed : other ∈ incident.children
  apart : other ≠ incident.child
  notSwept : other ∉ incident.siblings

namespace Handling

variable (hhandling : Handling incident stage system)

include hhandling

theorem lt_of_listed (hlisted : other ∈ incident.children) : other < system.shared.nextChild :=
  hhandling.formed.known.listed _ _ (hhandling.listed ▸ hlisted)

variable (hspares : incident.Spares other)

include hspares

theorem not_dooms_of_spares : ¬ incident.Dooms system stage other :=
  incident.not_dooms_of_notMem
    (hhandling.rooted.under _ _ (hhandling.listed ▸ hspares.listed))
    fun hpending => hspares.notSwept (hhandling.course.pending_subset hpending)

theorem not_respawned (hresumed : Resumed system self input frame move) (task : TaskId) :
    move.effect ≠ .respawn other task := fun heffect =>
  hspares.notSwept (hhandling.mem_of_respawn hresumed heffect)

variable (huntouched : Untouched origin system other)

include huntouched

theorem spared_step {before : ChildStage}
    (hresumed : Resumed system self input (.child other before) move)
    (hpeaceful : Peaceful incident.supervisor system self input move) :
    before = .building ∧ move.effect = .skip ∧ move.frame = .child other .waiting := by
  have hrunning := hhandling.formed.mirrored.live_self hresumed
  have hcurrent := hhandling.one _ _ _ hresumed.here hrunning
  obtain ⟨_, now, -, hnow, hup, -⟩ := huntouched.stage
  rw [← huntouched.record, hcurrent] at hnow
  cases hresumed.here.unique hnow
  rcases hhandling.safe_step hresumed hpeaceful (hhandling.task_ne hresumed.here hspares.apart)
    (hhandling.not_dooms_of_spares hspares) with ⟨rfl, -⟩ | hbuilt
  · cases hup
  · exact hbuilt

variable (hresumed : Resumed system self input frame move)
  (hpeaceful : Peaceful incident.supervisor system self input move)

include hresumed hpeaceful

theorem spared_changes : move.effect.changes other = 0 := by
  rcases hresumed.changes_cases other with hzero | ⟨task, heffect⟩ | ⟨fresh, rfl⟩
  · exact hzero
  · exact absurd heffect (hhandling.not_respawned hspares hresumed task)
  · cases (hhandling.spared_step hspares huntouched hresumed hpeaceful).1

theorem spared_releases (hregistered : Registered system.shared other) :
    move.effect.releases system.shared (system.shared.children other).name = 0 := by
  cases heffect : move.effect with
  | cleanup child takeExit =>
      simp only [Effect.releases, ite_eq_right_iff]
      intro hname
      obtain ⟨⟨driver, rfl⟩, hchild⟩ := hhandling.registered_of_cleanup hresumed hpeaceful heffect
      have hsame := hchild.mailbox.symm.trans (hname ▸ hregistered.mailbox)
      obtain rfl := Option.some.inj hsame
      cases (hhandling.spared_step hspares huntouched hresumed hpeaceful).1
  | stopped =>
      have hstops := hpeaceful.effect
      rw [heffect] at hstops
      cases hstops
  | _ => rfl

end Handling

theorem Untouched.next (hhandling : Handling incident stage system)
    (hspares : incident.Spares other) (huntouched : Untouched origin system other)
    (hresumed : Resumed system self input frame move)
    (hpeaceful : Peaceful incident.supervisor system self input move) :
    Untouched origin (move.next system self) other where
  record := by
    rw [← huntouched.record, children_next]
    have hvictim := Effect.victim_eq_none hpeaceful.effect
    have hchange := Effect.record_change move.effect system.shared other
    generalize (move.effect.apply system.shared).children other = after at hchange ⊢
    generalize heffect : move.effect = effect at hchange hvictim
    cases hchange with
    | same => rfl
    | killed haim hhit => simp [haim, hhit] at hvictim
    | launched | nested =>
        obtain ⟨fresh, rfl, -⟩ := hresumed.stretch.origin heffect
        cases (hhandling.spared_step hspares huntouched hresumed hpeaceful).1
    | cleaned =>
        obtain ⟨⟨driver, rfl⟩, -⟩ := hhandling.registered_of_cleanup hresumed hpeaceful heffect
        cases (hhandling.spared_step hspares huntouched hresumed hpeaceful).1
    | respawned => exact absurd heffect (hhandling.not_respawned hspares hresumed _)
    | spawned heq =>
        exact absurd (hhandling.lt_of_listed hspares.listed) (heq ▸ Nat.lt_irrefl _)
  stage := by
    obtain ⟨before, now, hbefore, hnow, hup, hsame⟩ := huntouched.stage
    by_cases hself : (origin.shared.children other).task = self
    · subst hself
      obtain rfl := hresumed.here.unique hnow
      obtain ⟨rfl, -, hframe⟩ := hhandling.spared_step hspares huntouched hresumed hpeaceful
      refine ⟨before, .waiting, hbefore, hframe ▸ Mirrored.at_next_self hresumed, rfl, .inr ?_⟩
      rcases hsame with rfl | ⟨-, heq⟩
      · exact ⟨rfl, rfl⟩
      · cases heq
    · exact ⟨before, now, hbefore, Mirrored.at_next_other hself hnow, hup, hsame⟩

end Step

instance (runtime : Runtime) (child : ChildId) : Decidable (Registered runtime child) :=
  decidable_of_iff
    (runtime.names (runtime.children child).name = some child ∧
      runtime.liveChildren (runtime.children child).name = some child)
    ⟨fun hboth => ⟨hboth.1, hboth.2⟩, fun hregistered => ⟨hregistered.mailbox, hregistered.live⟩⟩

/-- A generation runs under its own name, or is about to be started under a name that nobody else has; only the one that crashes may have ended. -/
def ChildStage.settled (runtime : Runtime) (child : ChildId) (crashes : Bool) : ChildStage → Bool
  | .attempting fresh => (crashes || fresh) &&
      (runtime.names (runtime.children child).name = none ||
        runtime.names (runtime.children child).name = some child)
  | .driving driver => (crashes || !runtime.isDone driver) && Registered runtime child
  | .building | .waiting => true
  | _ => false

/-- A live task is not cancelled, and the task of a child is the one in its record. -/
def Frame.settled (runtime : Runtime) (crashing id : TaskId) : Frame → Bool
  | .child owner stage => (Frame.child owner stage).isDone ||
      (runtime.children owner).task = id && !runtime.cancelled id &&
        stage.settled runtime owner (id = crashing)
  | frame => frame.isDone || !runtime.cancelled id

/-- Nothing is under way on the node, but for the crash of one task. -/
def settled (system : System) (crashing : TaskId) : Bool :=
  system.tasks.all fun task => task.frame.settled system.shared crashing task.id

section Crash

variable {before : System} {task id : TaskId} {input : Input} {frame : Frame} {move : Move}
  {child other : ChildId} {crash : Crash} {stage : ChildStage}

theorem settled_child (hsettled : settled before task = true)
    (hat : At before id (.child other stage)) (hlive : (Frame.child other stage).isDone = false) :
    (before.shared.children other).task = id ∧ before.shared.cancelled id = false ∧
      stage.settled before.shared other (id = task) = true := by
  have htask := List.all_eq_true.mp hsettled _ (List.mem_of_getElem? hat)
  simpa [Frame.settled, hlive, and_assoc] using htask

theorem settled_registered {driver : TaskId} (hsettled : settled before task = true)
    (hat : At before id (.child other (.driving driver))) : Registered before.shared other := by
  obtain ⟨-, -, hstage⟩ := settled_child hsettled hat rfl
  simp only [ChildStage.settled, Bool.and_eq_true, decide_eq_true_eq] at hstage
  exact hstage.2

theorem settled_spared (hsettled : settled before task = true) (hat : At before id frame)
    (hlive : frame.isDone = false) : before.shared.cancelled id = false := by
  have htask := List.all_eq_true.mp hsettled _ (List.mem_of_getElem? hat)
  cases frame with
  | child other stage => exact (settled_child hsettled hat hlive).2.1
  | _ => simpa [Frame.settled, hlive] using htask

theorem Stretch.crash_cases {runtime : Runtime} (hstretch : Stretch runtime task frame move)
    (heq : .child child (.budgeting crash) = move.frame) :
    move.spawned = [] ∧ (∃ stage, frame = .child child stage ∧ stage.siblings = []) ∧
      (move.effect = .skip ∨ ∃ takeExit, move.effect = .cleanup child takeExit) := by
  cases hstretch with
  | failed | constructorKilled | killed | crashed =>
      cases heq; exact ⟨rfl, ⟨_, rfl, rfl⟩, .inr ⟨_, rfl⟩⟩
  | buildFailed | gaveUp => cases heq; exact ⟨rfl, ⟨_, rfl, rfl⟩, .inl rfl⟩
  | _ => cases heq

def Incident.of (runtime : Runtime) (task : TaskId) (child : ChildId) (position : Nat)
    (hfound : (runtime.supervisorOf child).children[position]? = some child)
    (hdistinct : (runtime.supervisorOf child).children.Nodup) : Incident where
  task := task
  child := child
  supervisor := (runtime.children child).supervisor
  strategy := (runtime.supervisorOf child).settings.strategy
  children := (runtime.supervisorOf child).children
  position := position
  found := hfound
  distinct := hdistinct

structure Crashes (before : System) (task : TaskId) (input : Input) (frame : Frame) (move : Move)
    (child : ChildId) (crash : Crash) : Prop where
  formed : WellFormed before
  rooted : Rooted before
  settled : settled before task = true
  resumed : Resumed before task input frame move
  here : .child child (.budgeting crash) = move.frame

namespace Crashes

variable (hcrashes : Crashes before task input frame move child crash)

include hcrashes

theorem one : OneTask before :=
  fun _ _ _ hat hlive => (settled_child hcrashes.settled hat hlive).1

theorem task_eq : (before.shared.children child).task = task := by
  obtain ⟨-, ⟨_, rfl, -⟩, -⟩ := hcrashes.resumed.stretch.crash_cases hcrashes.here
  exact hcrashes.one _ _ _ hcrashes.resumed.here
    (hcrashes.formed.mirrored.live_self hcrashes.resumed)

theorem at_before {later : Frame} (hat : At (move.next before task) id later) (hne : id ≠ task) :
    At before id later := by
  rcases hcrashes.formed.mirrored.at_next hat with ⟨heq, -⟩ | ⟨-, hold⟩ | ⟨-, hspawned⟩
  · exact absurd heq hne
  · exact hold
  · rw [(hcrashes.resumed.stretch.crash_cases hcrashes.here).1] at hspawned
    cases hspawned

theorem name_ne (hne : other ≠ child) (hregistered : Registered before.shared other)
    {takeExit : Bool} (heffect : move.effect = .cleanup child takeExit) :
    (before.shared.children other).name ≠ (before.shared.children child).name := by
  intro hname
  have hmailbox := hname ▸ hregistered.mailbox
  have hlive := hcrashes.formed.mirrored.live_self hcrashes.resumed
  rcases hcrashes.resumed.stretch.origin heffect with ⟨fresh, mailbox, rfl, -⟩ | ⟨_, rfl⟩
  · obtain ⟨-, -, hown⟩ := settled_child hcrashes.settled hcrashes.resumed.here hlive
    simp only [ChildStage.settled, hmailbox] at hown
    simp_all
  · have hown := settled_registered hcrashes.settled hcrashes.resumed.here
    exact hne (Option.some.inj (hmailbox.symm.trans hown.mailbox))

theorem effect_cases :
    (move.effect.apply before.shared).supervisors = before.shared.supervisors ∧
      (move.effect.apply before.shared).loop = before.shared.loop ∧
      (∀ other, move.effect.changes other = 0) ∧
      ∀ other ≠ child, (move.effect.apply before.shared).children other =
        before.shared.children other := by
  rcases (hcrashes.resumed.stretch.crash_cases hcrashes.here).2.2 with heffect | ⟨takeExit, heffect⟩
  · rw [heffect]
    exact ⟨rfl, rfl, fun _ => rfl, fun _ _ => rfl⟩
  · rw [heffect]
    cases takeExit with
    | false => exact ⟨rfl, rfl, fun _ => rfl, fun _ _ => rfl⟩
    | true =>
        refine ⟨rfl, rfl, fun _ => rfl, fun other hne => ?_⟩
        simp [Effect.apply, Runtime.cleanup, Runtime.setChild, Runtime.unregisterActor, hne]

theorem registered_next (hne : other ≠ child) (hregistered : Registered before.shared other) :
    Registered (move.next before task).shared other := by
  have hrecord := hcrashes.effect_cases.2.2.2 other hne
  rcases (hcrashes.resumed.stretch.crash_cases hcrashes.here).2.2 with heffect | ⟨takeExit, heffect⟩
  · refine ⟨?_, ?_⟩
    · rw [names_next, children_next, heffect]
      exact hregistered.mailbox
    · show (move.effect.apply before.shared).liveChildren
        ((move.effect.apply before.shared).children other).name = _
      rw [heffect]
      exact hregistered.live
  · have hname := hcrashes.name_ne hne hregistered heffect
    refine ⟨?_, ?_⟩
    · rw [names_next, children_next, hrecord, heffect, ← hregistered.mailbox]
      cases takeExit <;>
        simp [Effect.apply, Runtime.cleanup, Runtime.unregisterActor, Runtime.setChild, hname]
    · show (move.effect.apply before.shared).liveChildren
        ((move.effect.apply before.shared).children other).name = _
      rw [hrecord, heffect, ← hregistered.live]
      cases takeExit <;> simp [Effect.apply, Runtime.cleanup, Runtime.setChild, hname]

theorem live_driver {driver : TaskId} (hat : At before id (.child other (.driving driver)))
    (hne : id ≠ task) : (move.next before task).shared.isDone driver = false := by
  obtain ⟨-, -, hsettled⟩ := settled_child hcrashes.settled hat rfl
  have hlive : before.shared.isDone driver = false := by simp_all [ChildStage.settled]
  obtain ⟨mailbox, stage, hdriver⟩ := hcrashes.formed.known.drives _ _ _ hat
  have hapart : driver ≠ task := by
    rintro rfl
    obtain ⟨_, ⟨stage, rfl, -⟩, -⟩ := hcrashes.resumed.stretch.crash_cases hcrashes.here
    cases hdriver.unique hcrashes.resumed.here
  rw [(hcrashes.formed.mirrored.next hcrashes.resumed).isDone_of_at
    (Mirrored.at_next_other hapart hdriver), ← hcrashes.formed.mirrored.isDone_of_at hdriver]
  exact hlive

theorem serves (hat : At before id (.child other stage)) (hne : id ≠ task)
    (hlive : (Frame.child other stage).isDone = false) : stage.serves = true := by
  obtain ⟨-, -, hsettled⟩ := settled_child hcrashes.settled hat hlive
  cases stage with
  | attempting fresh => simp_all [ChildStage.settled, ChildStage.serves]
  | driving | building | waiting => rfl
  | _ => cases hsettled

theorem handling {position : Nat}
    (hfound : (before.shared.supervisorOf child).children[position]? = some child)
    (hdistinct : (before.shared.supervisorOf child).children.Nodup) :
    Handling (.of before.shared task child position hfound hdistinct) (.budgeting crash)
      (move.next before task) := by
  obtain ⟨-, ⟨stage, rfl, hstage⟩, -⟩ := hcrashes.resumed.stretch.crash_cases hcrashes.here
  obtain ⟨hsupervisors, hloop, -⟩ := hcrashes.effect_cases
  have hhere : At (move.next before task) task (.child child (.budgeting crash)) :=
    hcrashes.here ▸ Mirrored.at_next_self hcrashes.resumed
  have hother : ∀ {id frame}, At (move.next before task) id frame →
      .child child (.budgeting crash) ≠ frame → id ≠ task := by
    rintro _ _ hat hne rfl
    exact hne (hhere.unique hat)
  have hended : respawnsEnded before task (.child child stage) input = true := by
    cases stage with
    | respawning rest => cases hstage; rfl
    | _ => rfl
  exact {
    formed := hcrashes.formed.next hcrashes.resumed
    rooted := hcrashes.rooted.next hcrashes.formed hcrashes.resumed
    one := hcrashes.one.next hcrashes.formed hended hcrashes.resumed
    idle := by
      intro id rest hat
      have hne : id ≠ task := hother hat (by rintro ⟨⟩)
      by_contra hrest
      have hrunning : (Frame.outside rest).await = .running := by simp [Frame.await, hrest]
      exact hne (hcrashes.formed.mirrored.eq_self_of_running hcrashes.resumed
        (hcrashes.at_before hat hne) hrunning)
    here := hhere
    course := trivial
    listed := by rw [supervisors_next, hsupervisors]; rfl
    strategy := by rw [supervisors_next, hsupervisors]; rfl
    others := fun id other later hat hne hlive =>
      .inl (hcrashes.serves (hcrashes.at_before hat hne) hne hlive)
    cancelled := by
      intro id frame hat hlive hcancelled
      rw [Runtime.cancelled] at hcancelled
      by_cases hself : id = task
      · rw [hself, loop_next _ _ _ (hcrashes.formed.mirrored.lt_of_at hcrashes.resumed.here),
          if_pos rfl] at hcancelled
        cases hcancelled
      · have hold := hcrashes.at_before hat hself
        rw [loop_next _ _ _ (hcrashes.formed.mirrored.lt_of_at hold), if_neg hself, hloop]
          at hcancelled
        have hspared := settled_spared hcrashes.settled hold hlive
        rw [Runtime.cancelled, hcancelled] at hspared
        cases hspared
    driven := by
      intro id other driver hat hdone
      have hne : id ≠ task := hother hat (by rintro ⟨⟩)
      rw [hcrashes.live_driver (hcrashes.at_before hat hne) hne] at hdone
      cases hdone
    drained := by
      intro id other later rest tasks hat hdrains
      have hne : id ≠ task := by
        rintro rfl
        cases hat.unique hhere
        cases hdrains
      cases later with
      | closing | draining => cases hcrashes.serves (hcrashes.at_before hat hne) hne rfl
      | _ => cases hdrains
    named := by
      intro id other driver hat
      have hne : id ≠ task := hother hat (by rintro ⟨⟩)
      have hold := hcrashes.at_before hat hne
      have hapart : other ≠ child := by
        rintro rfl
        have hlive := hcrashes.formed.mirrored.live_self hcrashes.resumed
        exact hne ((hcrashes.one _ _ _ hold rfl).symm.trans
          (hcrashes.one _ _ _ hcrashes.resumed.here hlive))
      exact hcrashes.registered_next hapart (settled_registered hcrashes.settled hold) }

theorem untouched (hat : At before (before.shared.children other).task (.child other stage))
    (hup : stage.up = true) (hne : other ≠ child) :
    Untouched before (move.next before task) other where
  record := hcrashes.effect_cases.2.2.2 other hne
  stage := by
    refine ⟨stage, stage, hat, Mirrored.at_next_other ?_ hat, hup, .inl rfl⟩
    intro heq
    obtain ⟨-, ⟨_, rfl, -⟩, -⟩ := hcrashes.resumed.stretch.crash_cases hcrashes.here
    cases (heq ▸ hat).unique hcrashes.resumed.here
    exact hne rfl

theorem releases_eq (hne : other ≠ child) (hregistered : Registered before.shared other) :
    releases (before.shared.children other).name before (.resume task input) = 0 := by
  rw [releases, hcrashes.resumed.effectOf_eq]
  rcases (hcrashes.resumed.stretch.crash_cases hcrashes.here).2.2 with heffect | ⟨takeExit, heffect⟩
  · rw [heffect]
    rfl
  · rw [heffect]
    exact if_neg (hcrashes.name_ne hne hregistered heffect).symm

end Crashes

theorem Crashes.sweeps {incident : Incident}
    (hcrashes : Crashes before task input frame move incident.child crash)
    (hat : At before (before.shared.children other).task (.child other stage))
    (hup : stage.up = true) (hmem : other ∈ incident.siblings) :
    incident.Sweeps before (.budgeting crash) (move.next before task) other 0 := by
  have hne : other ≠ incident.child := by
    rintro rfl
    exact Incident.child_notMem_siblings hmem
  have huntouched := hcrashes.untouched hat hup hne
  obtain ⟨_, now, -, hnow, hrunning, -⟩ := huntouched.stage
  rw [← huntouched.record] at hnow
  refine .waits hmem (congrArg Child.task huntouched.record) hnow ?_
  cases now with
  | attempting => cases hrunning
  | _ => rfl

end Crash

def Incident.Tracks {Weight : Type*} (incident : Incident)
    (Inv : ChildStage → System → Weight → Prop) (sum : Weight) (system : System) : Prop :=
  ∃ stage, Handling incident stage system ∧ Inv stage system sum

section Runs

variable {incident : Incident} {crashed after : System} {stage : ChildStage} {actions : List Action}

/-- The invariant rule for the time of the handling, with an account. -/
theorem Handling.run {Weight : Type*} [AddMonoid Weight] {weight : System → Action → Weight}
    {Inv : ChildStage → System → Weight → Prop} {sum : Weight}
    (hhandling : Handling incident stage crashed) (hinv : Inv stage crashed sum)
    (hrun : Machine.runWhere step (Meets (undisturbed incident.supervisor)) crashed actions =
      some after)
    (hnext : ∀ {stage later system self input frame move sum}, Handling incident stage system →
      Resumed system self input frame move →
      Peaceful incident.supervisor system self input move →
      incident.Follows system self frame move stage later → Inv stage system sum →
      Inv later (move.next system self) (sum + weight system (.resume self input))) :
    incident.Tracks Inv (sum + Machine.tally step weight crashed actions) after := by
  refine Machine.runWhere_tally ?_ ⟨stage, hhandling, hinv⟩ hrun
  rintro sum system action next ⟨stage, hhandling, hinv⟩ hmeets hstep
  obtain ⟨self, input, frame, move, hresumed, rfl, rfl⟩ :=
    hhandling.formed.mirrored.step_cases hstep
  have hpeaceful := hresumed.peaceful hmeets
  obtain ⟨later, hfollows, hlater⟩ := hhandling.next hresumed hpeaceful
  exact ⟨later, hlater, hnext hhandling hresumed hpeaceful hfollows hinv⟩

def Incident.Resumes (incident : Incident) (stage : ChildStage) (system : System)
    (sum : Nat × Nat) : Prop :=
  (system.shared.children incident.child).task = incident.task ∧
    sum = (0, if stage.up then 1 else 0)

theorem Incident.Resumes.next {stage later : ChildStage} {system : System} {self : TaskId}
    {input : Input} {frame : Frame} {move : Move} {sum : Nat × Nat}
    (hhandling : Handling incident stage system) (hresumed : Resumed system self input frame move)
    (hfollows : incident.Follows system self frame move stage later)
    (hresumes : incident.Resumes stage system sum) :
    incident.Resumes later (move.next system self)
      (sum + changes incident.child system (.resume self input)) := by
  obtain ⟨htask, rfl⟩ := hresumes
  have hkept : ∀ task, move.effect ≠ .respawn incident.child task := fun task heffect =>
    Incident.child_notMem_siblings (hhandling.mem_of_respawn hresumed heffect)
  have hlt := hhandling.formed.known.frames _ _ hhandling.here _ List.mem_cons_self
  refine ⟨(Known.task_next self hlt hkept).trans htask, ?_⟩
  rw [changes, hresumed.effectOf_eq]
  cases hfollows with
  | stays hne =>
      rw [hhandling.changes_of_other hresumed (fun heq => hne (heq.symm.trans htask)) hkept,
        add_zero]
  | turns _ _ _ hturn =>
      generalize move.effect = effect at hturn hkept ⊢
      cases hturn with
      | launched | nested => simp [Effect.changes, ChildStage.up]
      | @respawn sibling rest =>
          have hne : sibling ≠ incident.child := by
            rintro rfl
            exact hkept _ rfl
          simp [Effect.changes, ChildStage.up, hne]
      | _ => rfl

def OneLive (system : System) (child : ChildId) : Prop :=
  ∃! id, ∃ stage, At system id (.child child stage) ∧ (Frame.child child stage).isDone = false

theorem ChildStage.isDone_of_serves {stage : ChildStage} {child : ChildId}
    (hserves : stage.serves = true) : (Frame.child child stage).isDone = false := by
  cases stage with
  | attempting fresh => cases fresh <;> rfl
  | driving | building | waiting => rfl
  | _ => cases hserves

theorem OneTask.oneLive {system : System} {child : ChildId} {id : TaskId} (hone : OneTask system)
    (hat : At system id (.child child stage)) (hserves : stage.serves = true) :
    OneLive system child := by
  have hlive : (Frame.child child stage).isDone = false := ChildStage.isDone_of_serves hserves
  refine ⟨id, ⟨stage, hat, hlive⟩, ?_⟩
  rintro other ⟨later, hother, hrunning⟩
  exact (hone _ _ _ hother hrunning).symm.trans (hone _ _ _ hat hlive)

/-- What the actions between two states of a node, of which the first one lets a child crash, have done to the children of its supervisor. -/
structure GroupRestarted (before after : System) (actions : List Action) (child : ChildId)
    (group : List ChildId) : Prop where
  listed : (after.shared.supervisorOf child).children = (before.shared.supervisorOf child).children
  live : ∀ other ∈ group, OneLive after other
  /-- The crashed child has started one generation in its old task. -/
  crashed : (after.shared.children child).task = (before.shared.children child).task ∧
    Machine.tally step (changes child) before actions = (0, 1)
  /-- Every other child of the group was given one new task, and has started one generation in it unless it has yet to take its first step. -/
  swept : ∀ other ∈ group, other ≠ child →
    after.shared.isDone (before.shared.children other).task = true ∧ ∃ last,
      At after (after.shared.children other).task (.child other last) ∧ last.serves = true ∧
      Machine.tally step (changes other) before actions = (1, if last.up then 1 else 0)
  untouched : ∀ other ∈ (before.shared.supervisorOf child).children, other ∉ group →
    Untouched before after other ∧ Machine.tally step (changes other) before actions = 0
  /-- Nothing is cleared that a running actor outside the group has registered. -/
  registered : ∀ other ∈ (before.shared.supervisorOf child).children, other ∉ group →
    ∀ driver, At before (before.shared.children other).task (.child other (.driving driver)) →
      after.shared.isDone driver = false ∧ Registered after.shared other ∧
      Machine.tally step (releases (before.shared.children other).name) before actions = 0

theorem Incident.Tracks.resolve {Weight : Type*} {Inv : ChildStage → System → Weight → Prop}
    {sum : Weight} (htracks : incident.Tracks Inv sum after)
    (hback : At after incident.task (.child incident.child stage)) :
    Handling incident stage after ∧ Inv stage after sum := by
  obtain ⟨last, hhandling, hinv⟩ := htracks
  cases hback.unique hhandling.here
  exact ⟨hhandling, hinv⟩

theorem Untouched.driving {origin system : System} {other : ChildId} {driver : TaskId}
    (huntouched : Untouched origin system other)
    (hat : At origin (origin.shared.children other).task (.child other (.driving driver))) :
    At system (system.shared.children other).task (.child other (.driving driver)) := by
  obtain ⟨_, now, hbefore, hnow, -, hsame⟩ := huntouched.stage
  cases hat.unique hbefore
  rw [huntouched.record]
  rcases hsame with rfl | ⟨heq, -⟩
  · exact hnow
  · cases heq

section Handled

variable {before : System} {input : Input} {frame : Frame} {move : Move} {other : ChildId}
  {crash : Crash}

section

variable (hhandling : Handling incident (.budgeting crash) crashed)
  (hrun : Machine.runWhere step (Meets (undisturbed incident.supervisor)) crashed actions =
    some after)

include hhandling hrun

theorem Handling.resumes (hback : At after incident.task (.child incident.child stage))
    (hup : stage.up = true) :
    Handling incident stage after ∧
      (after.shared.children incident.child).task = incident.task ∧
      Machine.tally step (changes incident.child) crashed actions = (0, 1) := by
  have htask := hhandling.one _ _ _ hhandling.here rfl
  have htracks : incident.Tracks incident.Resumes
      (0 + Machine.tally step (changes incident.child) crashed actions) after :=
    hhandling.run ⟨htask, rfl⟩ hrun fun hhandling hresumed _ hfollows hresumes =>
      hresumes.next hhandling hresumed hfollows
  obtain ⟨hafter, htask, hsum⟩ := htracks.resolve hback
  rw [zero_add, hup] at hsum
  exact ⟨hafter, htask, hsum⟩

theorem Handling.swept (hmem : other ∈ incident.siblings)
    (hsweeps : incident.Sweeps before (.budgeting crash) crashed other 0)
    (hback : At after incident.task (.child incident.child stage)) (hup : stage.up = true) :
    after.shared.isDone (before.shared.children other).task = true ∧ ∃ last,
      At after (after.shared.children other).task (.child other last) ∧ last.serves = true ∧
      Machine.tally step (changes other) crashed actions = (1, if last.up then 1 else 0) := by
  have htracks : incident.Tracks (fun stage system sum =>
      incident.Sweeps before stage system other sum)
      (0 + Machine.tally step (changes other) crashed actions) after := by
    refine hhandling.run hsweeps hrun ?_
    intro stage later system self input frame move sum hhandling hresumed hpeaceful hfollows hsweeps
    rw [changes, hresumed.effectOf_eq]
    exact hsweeps.next hhandling hresumed hpeaceful hfollows hmem
  obtain ⟨-, hsweeps⟩ := htracks.resolve hback
  rw [zero_add] at hsweeps
  generalize Machine.tally step (changes other) crashed actions = sum at hsweeps
  cases hsweeps with
  | waits hwaits =>
      cases stage with
      | driving | building | waiting => cases hwaits
      | _ => cases hup
  | renewed _ hended hnow hserves => exact ⟨hended, _, hnow, hserves, rfl⟩

variable (hspares : incident.Spares other) (huntouched : Untouched before crashed other)

include hspares huntouched

theorem Handling.spared :
    Untouched before after other ∧ Machine.tally step (changes other) crashed actions = 0 := by
  have htracks : incident.Tracks (fun _ system sum => Untouched before system other ∧ sum = 0)
      (0 + Machine.tally step (changes other) crashed actions) after := by
    refine hhandling.run ⟨huntouched, rfl⟩ hrun ?_
    rintro stage later system self input frame move _ hhandling hresumed hpeaceful - ⟨hbefore, rfl⟩
    rw [changes, hresumed.effectOf_eq, zero_add]
    exact ⟨hbefore.next hhandling hspares hresumed hpeaceful,
      hhandling.spared_changes hspares hbefore hresumed hpeaceful⟩
  obtain ⟨_, -, huntouched, hsum⟩ := htracks
  exact ⟨huntouched, by rwa [zero_add] at hsum⟩

theorem Handling.kept {driver : TaskId}
    (hat : At before (before.shared.children other).task (.child other (.driving driver))) :
    after.shared.isDone driver = false ∧ Registered after.shared other ∧
      Machine.tally step (releases (before.shared.children other).name) crashed actions = 0 := by
  have htracks : incident.Tracks (fun _ system sum => Untouched before system other ∧ sum = 0)
      (0 + Machine.tally step (releases (before.shared.children other).name) crashed actions)
      after := by
    refine hhandling.run ⟨huntouched, rfl⟩ hrun ?_
    rintro stage later system self input frame move _ hhandling hresumed hpeaceful - ⟨hbefore, rfl⟩
    have hregistered := hhandling.named _ _ _ (hbefore.driving hat)
    rw [releases, hresumed.effectOf_eq, zero_add, ← hbefore.record]
    exact ⟨hbefore.next hhandling hspares hresumed hpeaceful,
      hhandling.spared_releases hspares hbefore hresumed hpeaceful hregistered⟩
  obtain ⟨last, hlast, huntouched, hsum⟩ := htracks
  have hdriving := huntouched.driving hat
  refine ⟨?_, hlast.named _ _ _ hdriving, by rwa [zero_add] at hsum⟩
  rw [Bool.eq_false_iff]
  exact fun hdone => hlast.not_dooms_of_spares hspares (hlast.driven _ _ _ hdriving hdone)

end

theorem Crashes.groupRestarted
    (hcrashes : Crashes before incident.task input frame move incident.child crash)
    (hhandling : Handling incident (.budgeting crash) (move.next before incident.task))
    (hchildren : (before.shared.supervisorOf incident.child).children = incident.children)
    (hlive : ∀ other ∈ incident.children, other ≠ incident.child →
      ∃ stage, At before (before.shared.children other).task (.child other stage) ∧
        stage.up = true)
    (hrun : Machine.runWhere step (Meets (undisturbed incident.supervisor))
      (move.next before incident.task) actions = some after)
    (hback : At after incident.task (.child incident.child stage)) (hup : stage.up = true) :
    GroupRestarted before after (.resume incident.task input :: actions) incident.child
      incident.group := by
  have hstep := hcrashes.resumed.step_eq
  -- the step of the crash itself adds nothing to the accounts
  have htally : ∀ other, Machine.tally step (changes other) before
      (.resume incident.task input :: actions) =
      Machine.tally step (changes other) (move.next before incident.task) actions := by
    intro other
    rw [Machine.tally, hstep, Option.elim_some, changes, hcrashes.resumed.effectOf_eq,
      hcrashes.effect_cases.2.2.1, zero_add]
  obtain ⟨hafter, htask, hsum⟩ := hhandling.resumes hrun hback hup
  have hswept : ∀ other ∈ incident.group, other ≠ incident.child →
      after.shared.isDone (before.shared.children other).task = true ∧ ∃ last,
        At after (after.shared.children other).task (.child other last) ∧ last.serves = true ∧
        Machine.tally step (changes other) before (.resume incident.task input :: actions) =
          (1, if last.up then 1 else 0) := by
    intro other hmem hne
    have hsibling : other ∈ incident.siblings := List.mem_filter.mpr ⟨hmem, by simpa using hne⟩
    obtain ⟨running, hat, hrunning⟩ := hlive other (incident.siblings_sublist.subset hsibling) hne
    rw [htally]
    exact hhandling.swept hrun hsibling (hcrashes.sweeps hat hrunning hsibling) hback hup
  have hspares : ∀ other ∈ (before.shared.supervisorOf incident.child).children,
      other ∉ incident.group → incident.Spares other := by
    intro other hlisted hnotMem
    refine ⟨hchildren ▸ hlisted, ?_, fun hmem => hnotMem (List.mem_of_mem_filter hmem)⟩
    rintro rfl
    exact hnotMem (Strategy.mem_group incident.found)
  exact {
    listed := by
      rw [Runtime.supervisorOf, hafter.under, hafter.listed, hchildren]
    live := by
      intro other hmem
      by_cases hne : other = incident.child
      · subst hne
        exact hafter.one.oneLive hback (ChildStage.serves_of_up hup)
      · obtain ⟨-, last, hat, hserves, -⟩ := hswept other hmem hne
        exact hafter.one.oneLive hat hserves
    crashed := ⟨htask.trans hcrashes.task_eq.symm, (htally _).trans hsum⟩
    swept := hswept
    untouched := by
      intro other hlisted hnotMem
      have hspares := hspares other hlisted hnotMem
      obtain ⟨running, hat, hrunning⟩ := hlive other hspares.listed hspares.apart
      rw [htally]
      exact hhandling.spared hrun hspares (hcrashes.untouched hat hrunning hspares.apart)
    registered := by
      intro other hlisted hnotMem driver hat
      have hspares := hspares other hlisted hnotMem
      have hregistered := settled_registered hcrashes.settled hat
      rw [Machine.tally, hstep, Option.elim_some, hcrashes.releases_eq hspares.apart hregistered,
        zero_add]
      exact hhandling.kept hrun hspares (hcrashes.untouched hat rfl hspares.apart) hat }

end Handled

/-- In a node in which nothing else is under way, a crash that is handled without another crash, cancellation or spawn under the supervisor restarts the group of the strategy, and nobody else. -/
theorem group_restarted {localId : String} {mailboxCapacity : Option Nat}
    {before crashed after : System} {task : TaskId} {input : Input} {child : ChildId}
    {position : Nat} {crash : Crash} {stage : ChildStage} {actions : List Action}
    (hreach : Machine.Reachable step (start localId mailboxCapacity) before)
    (hsettled : settled before task = true)
    (hfound : (before.shared.supervisorOf child).children[position]? = some child)
    (hlive : ∀ other ∈ (before.shared.supervisorOf child).children, other ≠ child →
      ∃ stage, At before (before.shared.children other).task (.child other stage) ∧
        stage.up = true)
    (hstep : step before (.resume task input) = some crashed)
    (hcrash : At crashed task (.child child (.budgeting crash)))
    (hrun : Machine.runWhere step
      (Meets (undisturbed (before.shared.children child).supervisor)) crashed actions = some after)
    (hback : At after task (.child child stage)) (hup : stage.up = true) :
    GroupRestarted before after (.resume task input :: actions) child
      ((before.shared.supervisorOf child).settings.strategy.group
        (before.shared.supervisorOf child).children position) := by
  obtain ⟨hformed, hrooted⟩ := rooted_of_reachable hreach
  obtain ⟨self, _, frame, move, hresumed, heq, rfl⟩ := hformed.mirrored.step_cases hstep
  cases heq
  have hcrashes : Crashes before task input frame move child crash :=
    ⟨hformed, hrooted, hsettled, hresumed, hcrash.unique (Mirrored.at_next_self hresumed)⟩
  exact hcrashes.groupRestarted (hcrashes.handling hfound (hrooted.distinct _)) rfl hlive hrun hback
    hup

end Runs

namespace Fixed

def trio : List Action :=
  [ask (.newSupervisor { strategy := .restForOne }), ask (.spawn 0 "first"),
    ask (.spawn 0 "second"), ask (.spawnSupervisor 0 "third" {})] ++
    launch 1 4 ++ launch 2 5 ++ [go 3, .resume 3 .returned] ++ busy "second" 5 ++
    [.resume 5 (.raised ⟨"ValueError", "boom"⟩)]

def regrouped : List Action :=
  [.resume 2 (.clock 1), go 2, go 2, go 3, go 3, go 2, go 2, go 2, go 2,
    .resume 2 (.constructed none), go 6]

/-- An actor is spawned under the name of one that waits in its backoff; the attempt that fails for this makes room for the next one, so both run under one name. Then the driver of the second one raises. -/
def namesakes : List Action :=
  [ask (.newSupervisor {}), ask (.spawn 0 "worker")] ++ launch 1 2 ++ busy "worker" 2 ++
    crash 1 2 ++ [ask (.spawn 0 "worker")] ++ launch 3 4 ++ busy "worker" 4 ++
    [go 1, go 1, go 1, .resume 1 (.constructed none), .resume 1 (.clock 1), go 1, go 1, go 1] ++
    launch 1 5 ++ [.resume 4 (.raised ⟨"ValueError", "boom"⟩)]

def restartedAlone : List Action :=
  [.resume 3 (.clock 1), go 3, go 3, go 3, .resume 3 (.constructed none)]

end Fixed

theorem group_restarted_rest_for_one :
    ∃ before after, Machine.Reachable step (start "node" none) before ∧
      At after 2 (.child 1 (.driving 7)) ∧ At after 6 (.child 2 .building) ∧
      GroupRestarted before after (Fixed.go 2 :: Fixed.regrouped) 1 [1, 2] := by
  have hrun : ((Machine.runWhere step (fun _ _ => True) (start "node" none) Fixed.trio).bind
      fun before => (step before (Fixed.go 2)).bind fun crashed =>
        (Machine.runWhere step (Meets (undisturbed (before.shared.children 1).supervisor)) crashed
          Fixed.regrouped).map fun after =>
            (settled before 2, (before.shared.supervisorOf 1).settings.strategy,
              [(before.shared.supervisorOf 1).children, before.shared.tasksOf [0, 2]],
              [before.tasks[1]?, before.tasks[3]?, crashed.tasks[2]?, after.tasks[2]?,
                after.tasks[6]?])) =
      some (true, .restForOne, [[0, 1, 2], [1, 3]],
        [some ⟨1, .child 0 (.driving 4)⟩, some ⟨3, .child 2 .waiting⟩,
          some ⟨2, .child 1 (.budgeting ⟨⟨"ValueError", "boom"⟩, {}⟩)⟩,
          some ⟨2, .child 1 (.driving 7)⟩, some ⟨6, .child 2 .building⟩]) := by
    decide +kernel
  obtain ⟨before, hbefore, hrest⟩ := Option.bind_eq_some_iff.mp hrun
  obtain ⟨crashed, hstep, hrest⟩ := Option.bind_eq_some_iff.mp hrest
  obtain ⟨after, hafter, hobserved⟩ := Option.map_eq_some_iff.mp hrest
  simp only [Runtime.tasksOf, List.map_cons, List.map_nil, Prod.mk.injEq, List.cons.injEq,
    and_true] at hobserved
  obtain ⟨hsettled, hstrategy, ⟨hchildren, htask, htask'⟩, hfirst, hthird, hcrash, hback, hswept⟩ :=
    hobserved
  have hreach := Machine.reachableWhere_of_runWhere hbefore
  have hfound : (before.shared.supervisorOf 1).children[1]? = some 1 := by rw [hchildren]; rfl
  have hlive : ∀ other ∈ (before.shared.supervisorOf 1).children, other ≠ 1 → ∃ stage,
      At before (before.shared.children other).task (.child other stage) ∧ stage.up = true := by
    rw [hchildren]
    intro other hmem hne
    simp only [List.mem_cons, List.not_mem_nil, or_false] at hmem
    rcases hmem with rfl | rfl | rfl
    · exact ⟨_, htask.symm ▸ hfirst, rfl⟩
    · exact absurd rfl hne
    · exact ⟨_, htask'.symm ▸ hthird, rfl⟩
  have hrestarted := group_restarted hreach hsettled hfound hlive hstep hcrash hafter hback rfl
  rw [hchildren, hstrategy] at hrestarted
  exact ⟨before, after, hreach, hback, hswept, hrestarted⟩

/-- Two actors run under one name; when the one that is not registered crashes and starts over alone, the name of the other one goes to it. -/
theorem group_restart_takes_name :
    ∃ before crashed after, Machine.Reachable step (start "node" none) before ∧
      (before.shared.supervisorOf 1).settings.strategy = .oneForOne ∧
      (before.shared.supervisorOf 1).children = [0, 1] ∧
      At before 1 (.child 0 (.driving 5)) ∧ Registered before.shared 0 ∧
      step before (Fixed.go 3) = some crashed ∧
      At crashed 3 (.child 1 (.budgeting ⟨⟨"ValueError", "boom"⟩, {}⟩)) ∧
      Machine.runWhere step (Meets (undisturbed 0)) crashed Fixed.restartedAlone = some after ∧
      At after 3 (.child 1 (.driving 6)) ∧ At after 1 (.child 0 (.driving 5)) ∧
      after.shared.isDone 5 = false ∧ after.shared.names "worker" = some 1 ∧
      ¬ Registered after.shared 0 := by
  have hrun : ((Machine.runWhere step (fun _ _ => True) (start "node" none) Fixed.namesakes).bind
      fun before => (step before (Fixed.go 3)).bind fun crashed =>
        (Machine.runWhere step (Meets (undisturbed 0)) crashed Fixed.restartedAlone).map
          fun after => ((before.shared.supervisorOf 1).settings.strategy,
            [(before.shared.supervisorOf 1).children, (after.shared.names "worker").toList],
            [before.tasks[1]?, crashed.tasks[3]?, after.tasks[3]?, after.tasks[1]?],
            [decide (Registered before.shared 0), after.shared.isDone 5,
              decide (Registered after.shared 0)])) =
      some (.oneForOne, [[0, 1], [1]],
        [some ⟨1, .child 0 (.driving 5)⟩,
          some ⟨3, .child 1 (.budgeting ⟨⟨"ValueError", "boom"⟩, {}⟩)⟩,
          some ⟨3, .child 1 (.driving 6)⟩, some ⟨1, .child 0 (.driving 5)⟩],
        [true, false, false]) := by
    decide +kernel
  obtain ⟨before, hbefore, hrest⟩ := Option.bind_eq_some_iff.mp hrun
  obtain ⟨crashed, hstep, hrest⟩ := Option.bind_eq_some_iff.mp hrest
  obtain ⟨after, hafter, hobserved⟩ := Option.map_eq_some_iff.mp hrest
  simp only [Prod.mk.injEq, List.cons.injEq, and_true, decide_eq_true_eq, decide_eq_false_iff_not,
    Option.toList_eq_singleton_iff] at hobserved
  obtain ⟨hstrategy, ⟨hchildren, hname⟩, ⟨hrunning, hcrash, hback, hsame⟩, hregistered, hlive,
    hlost⟩ := hobserved
  exact ⟨before, crashed, after, Machine.reachableWhere_of_runWhere hbefore, hstrategy, hchildren,
    hrunning, hregistered, hstep, hcrash, hafter, hback, hsame, hlive, hname, hlost⟩

end LapinBeam.Actor
