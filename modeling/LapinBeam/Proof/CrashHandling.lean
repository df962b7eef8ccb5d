import LapinBeam.Proof.Lineage

/-!
# The handling of one crash

A crashed child goes through `_handle_child_crash` in its own task, while its siblings in the group
are cancelled, awaited and given new tasks. With no other crash, cancellation or spawn meanwhile, a
cancellation reaches only the siblings that wait for their new task and what they have built
(`Incident.Dooms`), so whatever else is up stays up.
-/

namespace LapinBeam.Actor

open Asyncio (TaskId Loop)

def Frame.disturbed : Frame → Bool
  | .child _ (.budgeting _) | .child _ (.exhausted _) | .child _ (.finished (.escaped _))
  | .driver _ _ (.finished (.raised _)) | .driver _ _ (.finished (.escaped _)) => true
  | .outside rest => rest ≠ []
  | _ => false

def Effect.disturbs (runtime : Runtime) (supervisor : SupervisorId) : Effect → Bool
  | .spawn owner _ _ => owner = supervisor
  | .stop | .stopped => true
  | effect => ((effect.exitTarget runtime).bind runtime.victim).isSome

/-- No step crashes, cancels a task from outside, stops the node or spawns a child of the supervisor, and a `CancelledError` is raised only by a cancellation. -/
def undisturbed (supervisor : SupervisorId) : Condition := fun system id frame input =>
  (input ≠ .unwound || system.shared.cancelled id) &&
    match frame.move system.shared id input with
    | none => true
    | some move => !move.frame.disturbed && !move.effect.disturbs system.shared supervisor

structure Peaceful (supervisor : SupervisorId) (system : System) (id : TaskId) (input : Input)
    (move : Move) : Prop where
  unwound : input = .unwound → system.shared.cancelled id = true
  frame : move.frame.disturbed = false
  effect : move.effect.disturbs system.shared supervisor = false

theorem Resumed.peaceful {system : System} {self : TaskId} {input : Input} {frame : Frame}
    {move : Move} {supervisor : SupervisorId} (hresumed : Resumed system self input frame move)
    (hmeets : Meets (undisturbed supervisor) system (.resume self input)) :
    Peaceful supervisor system self input move := by
  have hundisturbed := hresumed.meets hmeets
  simp only [undisturbed, hresumed.eq_some, Bool.and_eq_true, Bool.or_eq_true,
    decide_eq_true_eq, Bool.not_eq_true'] at hundisturbed
  obtain ⟨hunwound, hframe, heffect⟩ := hundisturbed
  exact ⟨fun heq => hunwound.resolve_left (not_not_intro heq), hframe, heffect⟩

theorem Peaceful.notifying_not_attempted {supervisor : SupervisorId} {system : System}
    {self : TaskId} {input : Input} {move : Move} {child : ChildId} {fresh : Bool}
    {obituary : Obituary} {reason : String} {outcome : Outcome}
    (hpeaceful : Peaceful supervisor system self input move)
    (hresumed : Resumed system self input (.child child (.attempting fresh)) move)
    (halone : system.shared.cancelled self = false)
    (hframe : move.frame = .child child (.notifying obituary reason outcome)) : False := by
  have hmove := hresumed.eq_some
  by_cases hunwound : input = .unwound
  · rw [hpeaceful.unwound hunwound] at halone
    cases halone
  · simp only [Frame.move, ChildStage.move, halone, Bool.and_false, Bool.false_eq_true,
      ↓reduceIte] at hmove
    split at hmove
    · cases hmove; cases hframe
    · exact hunwound rfl
    · cases hmove; cases hframe
    · split at hmove <;> cases hmove <;> cases hframe
    · cases hmove; cases hframe
    · cases hmove

theorem Effect.victim_eq_none {effect : Effect} {runtime : Runtime} {supervisor : SupervisorId}
    (hpeaceful : effect.disturbs runtime supervisor = false) :
    (effect.exitTarget runtime).bind runtime.victim = none := by
  cases effect with
  | spawn | stop | stopped => rfl
  | _ => simpa [Effect.disturbs] using hpeaceful

theorem Effect.loop_cases {effect : Effect} {runtime : Runtime}
    (hspared : (effect.exitTarget runtime).bind runtime.victim = none) :
    (effect.apply runtime).loop = runtime.loop ∨ ∃ task, effect = .cancel task := by
  have happlied := effect.applied runtime
  generalize effect.apply runtime = after at happlied ⊢
  cases happlied with
  | kept => exact .inl rfl
  | kill haim hvictim => simp [haim, hvictim] at hspared
  | acts hacts =>
      cases effect with
      | cancel task => exact .inr ⟨task, rfl⟩
      | cleanup child takeExit => cases takeExit <;> exact .inl rfl
      | spawn supervisor name kind => cases kind <;> exact .inl rfl
      | _ => first | (cases hacts; done) | exact .inl rfl

def Strategy.group (strategy : Strategy) (children : List ChildId) (position : Nat) :
    List ChildId :=
  match strategy with
  | .oneForOne => children[position]?.toList
  | .oneForAll => children
  | .restForOne => children.drop position

theorem dropWhile_ne_eq_drop {α : Type*} [DecidableEq α] {list : List α} {element : α}
    {position : Nat} (hnodup : list.Nodup) (hfound : list[position]? = some element) :
    (list.dropWhile fun other => decide (other ≠ element)) = list.drop position := by
  induction list generalizing position with
  | nil => simp at hfound
  | cons head tail ih =>
      obtain ⟨hhead, htail⟩ := List.nodup_cons.mp hnodup
      cases position with
      | zero =>
          obtain rfl : head = element := by simpa using hfound
          simp
      | succ position =>
          have hfound : tail[position]? = some element := by simpa using hfound
          have hne : head ≠ element := by
            rintro rfl
            exact hhead (List.mem_of_getElem? hfound)
          simpa [hne] using ih htail hfound

theorem Supervisor.affectedChildren_eq {supervisor : Supervisor} {child : ChildId} {position : Nat}
    (hnodup : supervisor.children.Nodup) (hfound : supervisor.children[position]? = some child) :
    supervisor.affectedChildren child =
      some (supervisor.settings.strategy.group supervisor.children position) := by
  cases hstrategy : supervisor.settings.strategy with
  | oneForOne => simp [affectedChildren, Strategy.group, hstrategy, hfound]
  | oneForAll => simp [affectedChildren, Strategy.group, hstrategy]
  | restForOne =>
      simp [affectedChildren, Strategy.group, hstrategy, List.mem_of_getElem? hfound,
        ← dropWhile_ne_eq_drop hnodup hfound]

/-- A crash that is being handled: the task and the child it belongs to, and the supervisor with its children when the child crashed. -/
structure Incident where
  task : TaskId
  child : ChildId
  supervisor : SupervisorId
  strategy : Strategy
  children : List ChildId
  position : Nat
  found : children[position]? = some child
  distinct : children.Nodup

namespace Incident

variable (incident : Incident)

def group : List ChildId := incident.strategy.group incident.children incident.position

def siblings : List ChildId := incident.group.filter (· ≠ incident.child)

end Incident

theorem Strategy.group_sublist (strategy : Strategy) (children : List ChildId) (position : Nat) :
    (strategy.group children position).Sublist children := by
  cases strategy with
  | oneForOne =>
      simp only [group]
      cases hfound : children[position]? with
      | none => exact List.nil_sublist _
      | some child => exact List.singleton_sublist.mpr (List.mem_of_getElem? hfound)
  | oneForAll => exact List.Sublist.refl _
  | restForOne => exact List.drop_sublist _ _

theorem Strategy.mem_group {strategy : Strategy} {children : List ChildId} {child : ChildId}
    {position : Nat} (hfound : children[position]? = some child) :
    child ∈ strategy.group children position := by
  cases strategy with
  | oneForOne => simp [group, hfound]
  | oneForAll => exact List.mem_of_getElem? hfound
  | restForOne =>
      have hhead : (children.drop position)[0]? = some child := by simpa using hfound
      exact List.mem_of_getElem? hhead

namespace Incident

variable {incident : Incident}

theorem siblings_sublist : incident.siblings.Sublist incident.children :=
  List.filter_sublist.trans (Strategy.group_sublist _ _ _)

theorem nodup_siblings : incident.siblings.Nodup := incident.distinct.sublist siblings_sublist

theorem child_notMem_siblings : incident.child ∉ incident.siblings := by
  simp [siblings]

end Incident

def ChildStage.up : ChildStage → Bool
  | .driving _ | .building | .waiting => true
  | _ => false

def ChildStage.serves : ChildStage → Bool
  | .attempting fresh => fresh
  | stage => stage.up

def ChildStage.winding : ChildStage → Bool
  | .notifying _ _ _ | .closing _ _ | .draining _ => true
  | _ => false

def ChildStage.pending : ChildStage → List ChildId
  | .tearing _ siblings _ | .awaiting _ siblings _ _ => siblings
  | .respawning rest => rest
  | _ => []

namespace Incident

variable (incident : Incident) (system : System)

/-- The child may be cancelled while the handler is at this stage: as a sibling that waits for its new task, or as one of a younger supervisor, which may be what a sibling has built. -/
def Dooms (stage : ChildStage) (other : ChildId) : Prop :=
  other ∈ stage.pending ∨ incident.supervisor < (system.shared.children other).supervisor

def Course : ChildStage → Prop
  | .budgeting _ | .backingOff _ | .attempting false | .driving _ | .building | .waiting
  | .finished _ => True
  | .tearing _ siblings rest => siblings = incident.siblings ∧ ∃ ended, siblings = ended ++ rest ∧
      ∀ sibling ∈ ended, system.shared.isDone (system.shared.children sibling).task = true
  | .awaiting _ siblings rest task => siblings = incident.siblings ∧ ∃ ended current,
      siblings = ended ++ current :: rest ∧ task = (system.shared.children current).task ∧
      ∀ sibling ∈ ended, system.shared.isDone (system.shared.children sibling).task = true
  | .respawning rest => ∃ renewed, incident.siblings = renewed ++ rest ∧
      ∀ sibling ∈ rest, system.shared.isDone (system.shared.children sibling).task = true
  | _ => False

end Incident

structure Registered (runtime : Runtime) (child : ChildId) : Prop where
  mailbox : runtime.names (runtime.children child).name = some child
  live : runtime.liveChildren (runtime.children child).name = some child

structure Handling (incident : Incident) (stage : ChildStage) (system : System) : Prop where
  formed : WellFormed system
  rooted : Rooted system
  one : OneTask system
  idle : ∀ id rest, At system id (.outside rest) → rest = []
  here : At system incident.task (.child incident.child stage)
  course : incident.Course system stage
  listed : (system.shared.supervisors incident.supervisor).children = incident.children
  strategy : (system.shared.supervisors incident.supervisor).settings.strategy = incident.strategy
  others : ∀ id other later, At system id (.child other later) → id ≠ incident.task →
    (Frame.child other later).isDone = false →
    later.serves = true ∨ later.winding = true ∧ incident.Dooms system stage other
  cancelled : ∀ id frame, At system id frame → frame.isDone = false →
    system.shared.cancelled id = true →
    ∃ other, frame.owner = some other ∧ incident.Dooms system stage other
  driven : ∀ id other driver, At system id (.child other (.driving driver)) →
    system.shared.isDone driver = true → incident.Dooms system stage other
  drained : ∀ id other later rest tasks, At system id (.child other later) →
    later.drains = some (rest, tasks) → ∀ task ∈ rest ++ tasks, ∃ younger after,
      At system task (.child younger after) ∧
        incident.supervisor < (system.shared.children younger).supervisor
  named : ∀ id other driver, At system id (.child other (.driving driver)) →
    Registered system.shared other

inductive Incident.Turn (incident : Incident) (runtime : Runtime) :
    ChildStage → Effect → ChildStage → Prop
  | granted {crash now} :
      Turn incident runtime (.budgeting crash) (.decide incident.child now) (.backingOff crash)
  | overflowed {crash now exc} :
      Turn incident runtime (.budgeting crash) (.decide incident.child now)
        (.finished (.raised exc))
  | woken {crash} :
      Turn incident runtime (.backingOff crash) .skip
        (.tearing crash incident.siblings incident.siblings)
  | alreadyDone {crash siblings rest sibling}
      (hdone : runtime.isDone (runtime.children sibling).task = true) :
      Turn incident runtime (.tearing crash siblings (sibling :: rest)) .skip
        (.tearing crash siblings rest)
  | tear {crash siblings rest sibling} :
      Turn incident runtime (.tearing crash siblings (sibling :: rest))
        (.cancel (runtime.children sibling).task)
        (.awaiting crash siblings rest (runtime.children sibling).task)
  | torn {crash siblings rest task} (hdone : runtime.isDone task = true) :
      Turn incident runtime (.awaiting crash siblings rest task) .skip
        (.tearing crash siblings rest)
  | tornAll {crash siblings} :
      Turn incident runtime (.tearing crash siblings []) .skip (.respawning siblings)
  | respawn {sibling rest} :
      Turn incident runtime (.respawning (sibling :: rest)) (.respawn sibling runtime.nextTask)
        (.respawning rest)
  | again : Turn incident runtime (.respawning []) .skip (.attempting false)
  | launched {mailbox} (hkind : (runtime.children incident.child).kind = .actor mailbox)
      (hfree : runtime.registerError (runtime.children incident.child).name mailbox = none) :
      Turn incident runtime (.attempting false)
        (.launch incident.child mailbox runtime.nextTask) (.driving runtime.nextTask)
  | nested : Turn incident runtime (.attempting false) (.nest incident.child) .building
  | built : Turn incident runtime .building .skip .waiting

inductive Errand (runtime : Runtime) (self : TaskId) (other : ChildId) :
    ChildStage → Effect → ChildStage → Prop
  | aborted (hcancelled : runtime.cancelled self = true) :
      Errand runtime self other (.attempting true) .skip (.finished .cancelled)
  | launched {mailbox} (hkind : (runtime.children other).kind = .actor mailbox)
      (hfree : runtime.registerError (runtime.children other).name mailbox = none) :
      Errand runtime self other (.attempting true) (.launch other mailbox runtime.nextTask)
        (.driving runtime.nextTask)
  | nested : Errand runtime self other (.attempting true) (.nest other) .building
  | shut {driver takeExit obituary reason outcome} (hdone : runtime.isDone driver = true) :
      Errand runtime self other (.driving driver) (.cleanup other takeExit)
        (.notifying obituary reason outcome)
  | built : Errand runtime self other .building .skip .waiting
  | closed {stage} (hbuilt : stage.built = true) (hcancelled : runtime.cancelled self = true) :
      Errand runtime self other stage .skip
        (.closing (runtime.nestedTasks other) (runtime.nestedTasks other))
  | closeOther {task rest tasks} :
      Errand runtime self other (.closing (task :: rest) tasks) (.cancel task) (.closing rest tasks)
  | drain {tasks} : Errand runtime self other (.closing [] tasks) .skip (.draining tasks)
  | ended {stage outcome} (hwinding : stage.winding = true) :
      Errand runtime self other stage .skip (.finished outcome)

section Inversion

variable {incident : Incident} {stage : ChildStage} {system : System} {self : TaskId}
  {input : Input} {move : Move}

theorem Incident.Course.pending_subset (hcourse : incident.Course system stage) :
    stage.pending ⊆ incident.siblings := by
  cases stage with
  | tearing | awaiting => exact hcourse.1 ▸ List.Subset.refl _
  | respawning rest =>
      obtain ⟨renewed, heq, -⟩ := hcourse
      exact heq ▸ List.subset_append_right _ _
  | _ => exact List.nil_subset _

namespace Handling

section

variable (hhandling : Handling incident stage system)

include hhandling

theorem under : (system.shared.children incident.child).supervisor = incident.supervisor :=
  hhandling.rooted.under _ _ (hhandling.listed ▸ List.mem_of_getElem? incident.found)

theorem under_of_mem {sibling : ChildId} (hmem : sibling ∈ incident.siblings) :
    (system.shared.children sibling).supervisor = incident.supervisor :=
  hhandling.rooted.under _ _ (hhandling.listed ▸ Incident.siblings_sublist.subset hmem)

theorem not_dooms : ¬ incident.Dooms system stage incident.child := by
  rintro (hmem | hdoomed)
  · exact Incident.child_notMem_siblings (hhandling.course.pending_subset hmem)
  · exact absurd hdoomed (hhandling.under ▸ Nat.lt_irrefl _)

theorem dooms_of_cancelled {id : TaskId} {owned : Frame} {other : ChildId}
    (hat : At system id owned) (hlive : owned.isDone = false) (howner : owned.owner = some other)
    (hcancelled : system.shared.cancelled id = true) : incident.Dooms system stage other := by
  obtain ⟨_, howner', hdooms⟩ := hhandling.cancelled _ _ hat hlive hcancelled
  obtain rfl := Option.some.inj (howner.symm.trans howner')
  exact hdooms

theorem not_cancelled (hlive : (Frame.child incident.child stage).isDone = false) :
    system.shared.cancelled incident.task = false := by
  rw [Bool.eq_false_iff]
  intro hcancelled
  exact hhandling.not_dooms (hhandling.dooms_of_cancelled hhandling.here hlive rfl hcancelled)

theorem affected_eq :
    (system.shared.supervisorOf incident.child).affectedChildren incident.child =
      some incident.group := by
  have hnodup := hhandling.listed ▸ incident.distinct
  have hfound := hhandling.listed ▸ incident.found
  rw [Runtime.supervisorOf, hhandling.under, Supervisor.affectedChildren_eq hnodup hfound,
    hhandling.strategy, hhandling.listed]
  rfl

end

theorem isDone_of_awaiting {crash : Crash} {siblings rest : List ChildId} {task : TaskId}
    (hhandling : Handling incident (.awaiting crash siblings rest task) system)
    (hready : system.shared.resumable incident.task = true) : system.shared.isDone task = true := by
  have hcancelled := hhandling.not_cancelled rfl
  have hready := (Bool.and_eq_true_iff.mp hready).2
  rw [Runtime.cancelled] at hcancelled
  simpa [Runtime.isDone, Loop.ready, hhandling.formed.mirrored.await _ _ hhandling.here,
    Frame.await, ChildStage.await, hcancelled] using hready

theorem turn (hhandling : Handling incident stage system)
    (hresumed : Resumed system incident.task input (.child incident.child stage) move)
    (hpeaceful : Peaceful incident.supervisor system incident.task input move) :
    ∃ later, incident.Turn system.shared stage move.effect later ∧
      move.frame = .child incident.child later := by
  have hlive := hhandling.not_cancelled (hhandling.formed.mirrored.live_self hresumed)
  have hcourse := hhandling.course
  have hframe := hpeaceful.frame
  have hmove := hresumed.eq_some
  have hready := hresumed.ready
  have hhere := hresumed.here
  cases hresumed.stretch with
  | failed | constructorKilled | constructorEscaped | killed | crashed | escaped | refused
  | reportEscaped | buildFailed | buildEscaped | gaveUp => cases hframe
  | constructorShut => exact (hpeaceful.notifying_not_attempted hresumed hlive rfl).elim
  | aborted hcancelled | sleepCancelled hcancelled | waitCancelled hcancelled =>
      rw [hlive] at hcancelled
      cases hcancelled
  | shut | completed =>
      have hdone := hhandling.formed.mirrored.isDone_of_driving hhere hready
      exact absurd (hhandling.driven _ _ _ hhere hdone) hhandling.not_dooms
  | @launched _ fresh _ halone hkind hfree =>
      cases fresh with
      | true => exact hcourse.elim
      | false => exact ⟨_, .launched hkind hfree, rfl⟩
  | @nested _ fresh =>
      cases fresh with
      | true => exact hcourse.elim
      | false => exact ⟨_, .nested, rfl⟩
  | granted => exact ⟨_, .granted, rfl⟩
  | overflowed => exact ⟨_, .overflowed, rfl⟩
  | woken _ haffected =>
      obtain rfl := Option.some.inj (haffected.symm.trans hhandling.affected_eq)
      exact ⟨_, .woken, rfl⟩
  | unlisted haffected =>
      rw [hhandling.affected_eq] at haffected
      cases haffected
  | alreadyDone hdone => exact ⟨_, .alreadyDone hdone, rfl⟩
  | tear => exact ⟨_, .tear, rfl⟩
  | torn => exact ⟨_, .torn (hhandling.isDone_of_awaiting hready), rfl⟩
  | tornAll => exact ⟨_, .tornAll, rfl⟩
  | respawn => exact ⟨_, .respawn, rfl⟩
  | again => exact ⟨_, .again, rfl⟩
  | built => exact ⟨_, .built, rfl⟩
  | buildCancelled =>
      -- nothing but a cancellation ends the build like this
      have hunwound : input = .unwound := by
        cases input with
        | unwound => rfl
        | _ => cases hmove
      rw [hpeaceful.unwound hunwound] at hlive
      cases hlive
  | _ => exact hcourse.elim

theorem errand (hhandling : Handling incident stage system) {other : ChildId} {before : ChildStage}
    (hresumed : Resumed system self input (.child other before) move)
    (hpeaceful : Peaceful incident.supervisor system self input move) (hne : self ≠ incident.task) :
    ∃ later, Errand system.shared self other before move.effect later ∧
      move.frame = .child other later := by
  have hothers := hhandling.others _ _ _ hresumed.here hne
    (hhandling.formed.mirrored.live_self hresumed)
  have hserves : before.serves = true ∨ before.winding = true := hothers.imp_right And.left
  have hendless := hhandling.rooted.endless _ _ hresumed.here
  have hframe := hpeaceful.frame
  have hmove := hresumed.eq_some
  have hready := hresumed.ready
  have hhere := hresumed.here
  cases hresumed.stretch with
  | failed | constructorKilled | constructorEscaped | killed | crashed | escaped | refused
  | reportEscaped | buildFailed | buildEscaped | gaveUp => cases hframe
  | aborted hcancelled => exact ⟨_, .aborted hcancelled, rfl⟩
  | @constructorShut _ fresh _ halone =>
      cases fresh with
      | true => exact (hpeaceful.notifying_not_attempted hresumed halone rfl).elim
      | false => simp [ChildStage.serves, ChildStage.winding] at hserves
  | @launched _ fresh _ halone hkind hfree =>
      cases fresh with
      | true => exact ⟨_, .launched hkind hfree, rfl⟩
      | false => simp [ChildStage.serves, ChildStage.winding] at hserves
  | @nested _ fresh =>
      cases fresh with
      | true => exact ⟨_, .nested, rfl⟩
      | false => simp [ChildStage.serves, ChildStage.winding] at hserves
  | shut | completed =>
      exact ⟨_, .shut (hhandling.formed.mirrored.isDone_of_driving hhere hready), rfl⟩
  | built => exact ⟨_, .built, rfl⟩
  | buildCancelled =>
      have hunwound : input = .unwound := by
        cases input with
        | unwound => rfl
        | _ => cases hmove
      exact ⟨_, .closed rfl (hpeaceful.unwound hunwound), rfl⟩
  | waitCancelled hcancelled => exact ⟨_, .closed rfl hcancelled, rfl⟩
  | closeOther => exact ⟨_, .closeOther, rfl⟩
  | drain => exact ⟨_, .drain, rfl⟩
  | nobodyNested | drained => exact ⟨_, .ended rfl, rfl⟩
  | @notified _ _ _ outcome =>
      cases outcome with
      | returned => cases hendless
      | _ => exact ⟨_, .ended rfl, rfl⟩
  | _ => simp [ChildStage.serves, ChildStage.up, ChildStage.winding] at hserves

end Handling

end Inversion

theorem Effect.liveChildren_cases (effect : Effect) (runtime : Runtime) (name : String) :
    (effect.apply runtime).liveChildren name = runtime.liveChildren name ∨
    (∃ child mailbox driver, effect = .launch child mailbox driver ∧
      name = (runtime.children child).name) ∨
    ∃ child takeExit, effect = .cleanup child takeExit ∧ name = (runtime.children child).name := by
  have happlied := effect.applied runtime
  generalize effect.apply runtime = after at happlied ⊢
  cases happlied with
  | kept | kill => exact .inl rfl
  | acts hacts =>
      cases effect with
      | launch child mailbox driver =>
          by_cases hname : name = (runtime.children child).name
          · exact .inr (.inl ⟨_, _, _, rfl, hname⟩)
          · exact .inl (by simp [Effect.apply, Runtime.launch, hname])
      | cleanup child takeExit =>
          by_cases hname : name = (runtime.children child).name
          · exact .inr (.inr ⟨_, _, rfl, hname⟩)
          · left
            cases takeExit <;> simp [Effect.apply, Runtime.cleanup, Runtime.setChild, hname]
      | spawn supervisor other kind => cases kind <;> exact .inl rfl
      | _ => first | (cases hacts; done) | exact .inl rfl

inductive Incident.Follows (incident : Incident) (system : System) (self : TaskId) (frame : Frame)
    (move : Move) (stage : ChildStage) : ChildStage → Prop
  | stays (hne : self ≠ incident.task) : Follows incident system self frame move stage stage
  | turns {later} (hself : self = incident.task) (hframe : frame = .child incident.child stage)
      (hlater : move.frame = .child incident.child later)
      (hturn : incident.Turn system.shared stage move.effect later) :
      Follows incident system self frame move stage later

theorem OneTask.isDone_of_owner {system : System} (hformed : WellFormed system)
    (hone : OneTask system) (hdriven : Driven system) {child : ChildId} {id : TaskId}
    {frame : Frame}
    (hdone : system.shared.isDone (system.shared.children child).task = true)
    (hat : At system id frame) (howner : frame.owner = some child) : frame.isDone = true := by
  have htask : ∀ {task stage}, At system task (.child child stage) →
      (Frame.child child stage).isDone = true := by
    intro task stage htask
    by_contra hlive
    have hcurrent := hone _ _ _ htask (Bool.eq_false_iff.mpr hlive)
    rw [hcurrent, hformed.mirrored.isDone_of_at htask] at hdone
    exact hlive hdone
  cases frame with
  | child id stage =>
      cases howner
      exact htask hat
  | driver owner mailbox stage =>
      cases howner
      by_contra hlive
      obtain ⟨task, hdriving⟩ := hdriven _ _ _ _ hat (Bool.eq_false_iff.mpr hlive)
      cases htask hdriving
  | _ => cases howner

section Step

variable {incident : Incident} {stage later : ChildStage} {system : System} {self id : TaskId}
  {input : Input} {frame owned : Frame} {move : Move} {other : ChildId}

namespace Handling

section

variable (hhandling : Handling incident stage system)

include hhandling

theorem lt_of_mem (hmem : other ∈ incident.siblings) : other < system.shared.nextChild :=
  hhandling.formed.known.listed _ _
    (hhandling.listed ▸ Incident.siblings_sublist.subset hmem)

theorem eq_task {before : ChildStage} (hat : At system id (.child other before))
    (hlive : (Frame.child other before).isDone = false)
    (hstage : (before.serves || before.winding) = false) : id = incident.task := by
  by_contra hne
  rcases hhandling.others _ _ _ hat hne hlive with hserves | ⟨hwinding, -⟩
  · simp [hserves] at hstage
  · simp [hwinding] at hstage

theorem dooms_next (hfollows : incident.Follows system self frame move stage later)
    (hdooms : incident.Dooms system stage other) (hat : At system id owned)
    (hlive : owned.isDone = false) (howner : owned.owner = some other) :
    incident.Dooms (move.next system self) later other := by
  have hlt : other < system.shared.nextChild := by
    refine hhandling.formed.known.frames _ _ hat other ?_
    cases owned <;> cases howner <;> exact List.mem_cons_self
  rcases hdooms with hmem | hdoomed
  · left
    cases hfollows with
    | stays => exact hmem
    | turns _ _ _ hturn =>
        generalize move.effect = effect at hturn
        cases hturn with
        | alreadyDone | tear | torn | tornAll => exact hmem
        | @respawn sibling rest =>
            rcases List.mem_cons.mp hmem with rfl | hrest
            · -- its last task is done
              obtain ⟨renewed, -, hended⟩ := hhandling.course
              have hdone := hhandling.one.isDone_of_owner hhandling.formed hhandling.rooted.driven
                (hended _ List.mem_cons_self) hat howner
              rw [hlive] at hdone
              cases hdone
            · exact hrest
        | _ => cases hmem
  · right
    rw [(Known.sameChild_next move self hlt).supervisor]
    exact hdoomed

/-! #### Where a cancellation ends up -/

theorem dooms_of_targets {depth : Nat} {task id : TaskId} {before : ChildStage}
    (hat : At system task (.child other before)) (hdooms : incident.Dooms system stage other)
    (htarget : id ∈ system.shared.loop.targets depth task) (howned : At system id owned) :
    ∃ owner, owned.owner = some owner ∧ incident.Dooms system stage owner := by
  induction depth generalizing task other before with
  | zero => cases htarget
  | succ depth ih =>
      have hne : task ≠ incident.task := by
        rintro rfl
        cases hat.unique hhandling.here
        exact hhandling.not_dooms hdooms
      have hself : id = task →
          ∃ owner, owned.owner = some owner ∧ incident.Dooms system stage owner := by
        rintro rfl
        cases howned.unique hat
        exact ⟨other, rfl, hdooms⟩
      have hawait := hhandling.formed.mirrored.await _ _ hat
      simp only [Loop.targets, hawait, Frame.await] at htarget
      by_cases hlive : (Frame.child other before).isDone = true
      · cases before with
        | finished => cases htarget
        | attempting fresh => cases fresh <;> cases hlive
        | _ => cases hlive
      have hothers := hhandling.others _ _ _ hat hne (Bool.eq_false_iff.mpr hlive)
      have hstage : before.serves = true ∨ before.winding = true := hothers.imp_right And.left
      cases before with
      | attempting fresh =>
          cases fresh with
          | true => exact hself (List.mem_singleton.mp htarget)
          | false => simp [ChildStage.serves, ChildStage.winding] at hstage
      | driving driver =>
          simp only [ChildStage.await] at htarget
          split at htarget
          · exact hself (List.mem_singleton.mp htarget)
          · rename_i hrunning
            obtain ⟨mailbox, after, hdriver⟩ := hhandling.formed.known.drives _ _ _ hat
            have hdriving : (system.shared.loop driver).await = .outside := by
              rw [hhandling.formed.mirrored.await _ _ hdriver]
              have hdone := hhandling.formed.mirrored.isDone_of_at hdriver
              exact DriverStage.await_of_live (hdone.symm.trans (Bool.eq_false_iff.mpr hrunning))
            cases depth with
            | zero => cases htarget
            | succ depth =>
                simp only [Loop.targets, hdriving, List.mem_singleton] at htarget
                subst htarget
                cases howned.unique hdriver
                exact ⟨other, rfl, hdooms⟩
      | building | waiting | notifying | closing => exact hself (List.mem_singleton.mp htarget)
      | draining tasks =>
          rcases List.mem_cons.mp htarget with heq | hbelow
          · exact hself heq
          · obtain ⟨task', hmem, htarget⟩ := List.mem_flatMap.mp hbelow
            obtain ⟨younger, after, hyounger, hdoomed⟩ :=
              hhandling.drained _ _ _ _ _ hat rfl task' (List.mem_append_right _ hmem)
            exact ih hyounger (.inr hdoomed) htarget
      | _ => simp [ChildStage.serves, ChildStage.up, ChildStage.winding] at hstage

theorem cancelled_of_driver {mailbox : MailboxId} {before : DriverStage}
    (hresumed : Resumed system self input (.driver other mailbox before) move)
    (hpeaceful : Peaceful incident.supervisor system self input move)
    (hdone : move.frame.isDone = true) : incident.Dooms system stage other := by
  have hcancelled : system.shared.cancelled self = true := by
    have hframe := hpeaceful.frame
    have hmove := hresumed.eq_some
    cases hresumed.stretch with
    | driverCancelled _ hcancelled => exact hcancelled
    | driverRaised | driverEscaped => cases hframe
    | unwound =>
        refine hpeaceful.unwound ?_
        cases input with
        | unwound => rfl
        | _ => cases hmove
    | _ => cases hdone
  have hlive := hhandling.formed.mirrored.live_self hresumed
  exact hhandling.dooms_of_cancelled hresumed.here hlive rfl hcancelled

theorem dooms_of_closed {before after : ChildStage} {drains : List TaskId × List TaskId}
    (hresumed : Resumed system self input (.child other before) move)
    (hpeaceful : Peaceful incident.supervisor system self input move)
    (hframe : .child other after = move.frame) (hbuilt : before.built = true)
    (hdrains : after.drains = some drains) : incident.Dooms system stage other := by
  have hne : self ≠ incident.task := by
    rintro rfl
    cases hresumed.here.unique hhandling.here
    obtain ⟨_, hturn, hlater⟩ := hhandling.turn hresumed hpeaceful
    cases hframe.trans hlater
    generalize move.effect = effect at hturn
    cases hturn <;> first | (cases hbuilt; done) | cases hdrains
  obtain ⟨_, herrand, hlater⟩ := hhandling.errand hresumed hpeaceful hne
  cases hframe.trans hlater
  generalize move.effect = effect at herrand
  cases herrand with
  | closed _ hcancelled =>
      exact hhandling.dooms_of_cancelled hresumed.here
        (hhandling.formed.mirrored.live_self hresumed) rfl hcancelled
  | _ => first | (cases hbuilt; done) | cases hdrains

variable (hresumed : Resumed system self input frame move)

include hresumed

theorem self_of_respawn {sibling : ChildId} {task : TaskId}
    (heffect : move.effect = .respawn sibling task) : self = incident.task := by
  obtain ⟨child, rest, rfl, -⟩ := hresumed.stretch.origin heffect
  exact hhandling.eq_task hresumed.here rfl rfl

theorem isDone_task_next (hlt : other < system.shared.nextChild)
    (hkept : ∀ task, move.effect ≠ .respawn other task)
    (hdone : system.shared.isDone (system.shared.children other).task = true) :
    (move.next system self).shared.isDone ((move.next system self).shared.children other).task =
      true := by
  rw [Known.task_next self hlt hkept]
  exact hhandling.formed.mirrored.isDone_next hresumed hdone

theorem course_next (hfollows : incident.Follows system self frame move stage later) :
    incident.Course (move.next system self) later := by
  have hcourse := hhandling.course
  have hkeep : ∀ sibling ∈ incident.siblings, (∀ task, move.effect ≠ .respawn sibling task) →
      system.shared.isDone (system.shared.children sibling).task = true →
      (move.next system self).shared.isDone
        ((move.next system self).shared.children sibling).task = true := fun sibling hmem hkept =>
    hhandling.isDone_task_next hresumed (hhandling.lt_of_mem hmem) hkept
  have hextend : ∀ {ended current rest}, move.effect = .skip →
      incident.siblings = ended ++ current :: rest →
      (∀ sibling ∈ ended, system.shared.isDone (system.shared.children sibling).task = true) →
      system.shared.isDone (system.shared.children current).task = true →
      ∃ ended, incident.siblings = ended ++ rest ∧ ∀ sibling ∈ ended,
        (move.next system self).shared.isDone
          ((move.next system self).shared.children sibling).task = true := by
    intro ended current rest heffect heq hended hdone
    refine ⟨ended ++ [current], by simpa using heq, fun sibling hmem => ?_⟩
    rcases List.mem_append.mp hmem with hmem | hmem
    · exact hkeep sibling (heq ▸ List.mem_append_left _ hmem) (by simp [heffect]) (hended _ hmem)
    · obtain rfl := List.mem_singleton.mp hmem
      exact hkeep sibling (heq ▸ by simp) (by simp [heffect]) hdone
  cases hfollows with
  | stays hne =>
      have hkept : ∀ sibling task, move.effect ≠ .respawn sibling task := fun _ _ heffect =>
        hne (hhandling.self_of_respawn hresumed heffect)
      cases stage with
      | tearing crash siblings rest =>
          obtain ⟨rfl, ended, heq, hended⟩ := hcourse
          refine ⟨rfl, ended, heq, fun sibling hmem => hkeep sibling ?_ (hkept _) (hended _ hmem)⟩
          exact heq ▸ List.mem_append_left _ hmem
      | awaiting crash siblings rest task =>
          obtain ⟨rfl, ended, current, heq, rfl, hended⟩ := hcourse
          have hcurrent : current ∈ incident.siblings := heq ▸ by simp
          refine ⟨rfl, ended, current, heq,
            (Known.task_next self (hhandling.lt_of_mem hcurrent) (hkept _)).symm,
            fun sibling hmem => hkeep sibling ?_ (hkept _) (hended _ hmem)⟩
          exact heq ▸ List.mem_append_left _ hmem
      | respawning rest =>
          obtain ⟨renewed, heq, hended⟩ := hcourse
          refine ⟨renewed, heq, fun sibling hmem => hkeep sibling ?_ (hkept _) (hended _ hmem)⟩
          exact heq ▸ List.mem_append_right _ hmem
      | attempting fresh => cases fresh <;> exact hcourse
      | _ => exact hcourse
  | turns hself hframe hlater hturn =>
      generalize heffect : move.effect = effect at hturn
      cases hturn with
      | woken => exact ⟨rfl, [], rfl, fun _ hmem => nomatch hmem⟩
      | alreadyDone hdone =>
          obtain ⟨rfl, ended, heq, hended⟩ := hcourse
          exact ⟨rfl, hextend heffect heq hended hdone⟩
      | @tear _ _ rest sibling =>
          obtain ⟨rfl, ended, heq, hended⟩ := hcourse
          have hsibling : sibling ∈ incident.siblings := heq ▸ by simp
          refine ⟨rfl, ended, sibling, heq, ?_, fun done hmem =>
            hkeep done (heq ▸ List.mem_append_left _ hmem) (by simp [heffect]) (hended _ hmem)⟩
          exact (Known.task_next self (hhandling.lt_of_mem hsibling) (by simp [heffect])).symm
      | torn hdone =>
          obtain ⟨rfl, ended, current, heq, rfl, hended⟩ := hcourse
          exact ⟨rfl, hextend heffect heq hended hdone⟩
      | tornAll =>
          obtain ⟨rfl, ended, heq, hended⟩ := hcourse
          rw [List.append_nil] at heq
          exact ⟨[], rfl, fun sibling hmem => hkeep sibling hmem (by simp [heffect])
            (hended _ (heq ▸ hmem))⟩
      | @respawn sibling rest =>
          obtain ⟨renewed, heq, hended⟩ := hcourse
          refine ⟨renewed ++ [sibling], by simpa using heq, fun done hmem => ?_⟩
          refine hkeep done (by simp [heq, hmem]) ?_ (hended _ (List.mem_cons_of_mem _ hmem))
          -- a sibling is on the list once, so this one still has its old task
          have hnodup := heq ▸ incident.nodup_siblings
          have hne : sibling ≠ done := by
            rintro rfl
            exact (List.nodup_cons.mp (List.nodup_append.mp hnodup).2.1).1 hmem
          simp [heffect, hne]
      | _ => trivial

theorem not_denied {exc : Exc} : move.effect ≠ .denied other exc := by
  intro heffect
  obtain ⟨crash, _, rfl, -⟩ := hresumed.stretch.origin heffect
  obtain rfl := hhandling.eq_task hresumed.here rfl rfl
  cases hresumed.here.unique hhandling.here
  exact hhandling.course

theorem respawnsEnded : Actor.respawnsEnded system self frame input = true := by
  unfold Actor.respawnsEnded
  split
  · rename_i sibling rest
    obtain rfl := hhandling.eq_task hresumed.here rfl rfl
    cases hresumed.here.unique hhandling.here
    obtain ⟨_, -, hended⟩ := hhandling.course
    exact hended sibling List.mem_cons_self
  · rfl

variable (hpeaceful : Peaceful incident.supervisor system self input move)

include hpeaceful

theorem follows :
    ∃ later, At (move.next system self) incident.task (.child incident.child later) ∧
      incident.Follows system self frame move stage later := by
  by_cases hself : self = incident.task
  · subst hself
    obtain rfl := hresumed.here.unique hhandling.here
    obtain ⟨later, hturn, hframe⟩ := hhandling.turn hresumed hpeaceful
    exact ⟨later, hframe ▸ Mirrored.at_next_self hresumed, .turns rfl rfl hframe hturn⟩
  · exact ⟨stage, Mirrored.at_next_other (Ne.symm hself) hhandling.here, .stays hself⟩

theorem idle_next {rest : List TaskId} (hat : At (move.next system self) id (.outside rest)) :
    rest = [] := by
  rcases hhandling.formed.mirrored.at_next hat with ⟨rfl, heq⟩ | ⟨-, hold⟩ | ⟨-, hspawned⟩
  · have hframe := hpeaceful.frame
    rw [← heq] at hframe
    simpa [Frame.disturbed] using hframe
  · exact hhandling.idle _ _ hold
  · rcases hresumed.stretch.spawned_cases hspawned with
      ⟨_, _, heq, -⟩ | ⟨_, heq, -⟩ | ⟨_, heq⟩ <;> cases heq

theorem supervisor_next :
    ((move.next system self).shared.supervisors incident.supervisor).children =
        incident.children ∧
      ((move.next system self).shared.supervisors incident.supervisor).settings.strategy =
        incident.strategy := by
  rw [supervisors_next, ← hhandling.listed, ← hhandling.strategy]
  have hchange := Effect.supervisor_change move.effect system.shared incident.supervisor
  generalize hafter : (move.effect.apply system.shared).supervisors incident.supervisor = after
    at hchange
  generalize heffect : move.effect = effect at hchange
  cases hchange with
  | discarded =>
      obtain ⟨_, _, rfl⟩ := hresumed.stretch.origin heffect
      cases hhandling.rooted.endless _ _ hresumed.here
  | denied => exact absurd heffect (hhandling.not_denied hresumed)
  | created hid =>
      have hlt := (hhandling.rooted.bounded incident.child
        (hhandling.formed.known.frames _ _ hhandling.here _ List.mem_cons_self)).1
      exact absurd hlt (hhandling.under ▸ hid ▸ Nat.lt_irrefl _)
  | spawned =>
      have hspawns := hpeaceful.effect
      simp [heffect, Effect.disturbs] at hspawns
  | _ => exact ⟨rfl, rfl⟩

/-! #### Who is registered -/

theorem registered_of_cleanup {takeExit : Bool} (heffect : move.effect = .cleanup other takeExit) :
    (∃ driver, frame = .child other (.driving driver)) ∧ Registered system.shared other := by
  have hdriving : ∃ driver, frame = .child other (.driving driver) := by
    rcases hresumed.stretch.origin heffect with ⟨fresh, mailbox, rfl, -⟩ | hdriving
    · by_cases hself : self = incident.task
      · subst hself
        cases hresumed.here.unique hhandling.here
        obtain ⟨_, hturn, -⟩ := hhandling.turn hresumed hpeaceful
        rw [heffect] at hturn
        cases hturn
      · obtain ⟨_, herrand, -⟩ := hhandling.errand hresumed hpeaceful hself
        rw [heffect] at herrand
        cases herrand
    · exact hdriving
  obtain ⟨driver, rfl⟩ := hdriving
  exact ⟨⟨driver, rfl⟩, hhandling.named _ _ _ hresumed.here⟩

theorem registered_other {running : ChildStage} (hat : At system id (.child other running))
    (hlive : (Frame.child other running).isDone = false) (hne : id ≠ self)
    (hregistered : Registered system.shared other) :
    Registered (move.next system self).shared other := by
  have hformed := hhandling.formed
  have hlt := hformed.known.frames _ _ hat other List.mem_cons_self
  -- no other task belongs to this child
  have halone : ∀ child stage, frame = .child child stage → other ≠ child := by
    rintro child stage rfl rfl
    have hself := hhandling.one _ _ _ hresumed.here (hformed.mirrored.live_self hresumed)
    exact hne ((hhandling.one _ _ _ hat hlive).symm.trans hself)
  have hlaunch : ∀ child mailbox driver, move.effect = .launch child mailbox driver →
      (system.shared.children other).name ≠ (system.shared.children child).name := by
    intro child mailbox driver heffect hname
    obtain ⟨fresh, rfl, -, hkind, hfree⟩ := hresumed.stretch.origin heffect
    have howner := Runtime.owner_of_free hfree (hname ▸ hregistered.mailbox)
    rw [hformed.known.mailbox_eq hresumed.here hkind] at howner
    exact halone child _ rfl howner
  have hcleanup : ∀ child takeExit, move.effect = .cleanup child takeExit →
      (system.shared.children other).name ≠ (system.shared.children child).name := by
    intro child takeExit heffect hname
    obtain ⟨⟨driver, rfl⟩, hchild⟩ := hhandling.registered_of_cleanup hresumed hpeaceful heffect
    have hsame := hregistered.mailbox.symm.trans (hname ▸ hchild.mailbox)
    exact halone child _ rfl (Option.some.inj hsame)
  refine ⟨?_, ?_⟩ <;> rw [(Known.sameChild_next move self hlt).name]
  · rw [names_next]
    rcases Effect.names_cases move.effect system.shared (system.shared.children other).name with
      heq | ⟨child, mailbox, _, heffect, hname, -⟩ | ⟨child, _, heffect, hname, -⟩ |
        ⟨_, mailbox, heffect, -⟩ | ⟨heffect, -⟩
    · exact heq.trans hregistered.mailbox
    · exact absurd hname (hlaunch _ _ _ heffect)
    · exact absurd hname (hcleanup _ _ heffect)
    · obtain ⟨rfl, hfree⟩ := (hresumed.stretch.origin heffect).2.2 _ rfl
      rw [Runtime.owner_of_free hfree hregistered.mailbox] at hlt
      exact absurd hlt (Nat.lt_irrefl _)
    · have hstops := hpeaceful.effect
      rw [heffect] at hstops
      cases hstops
  · show (move.effect.apply system.shared).liveChildren _ = _
    rcases Effect.liveChildren_cases move.effect system.shared (system.shared.children other).name
      with heq | ⟨child, mailbox, _, heffect, hname⟩ | ⟨child, _, heffect, hname⟩
    · exact heq.trans hregistered.live
    · exact absurd hname (hlaunch _ _ _ heffect)
    · exact absurd hname (hcleanup _ _ heffect)

theorem named_next {id driver : TaskId}
    (hat : At (move.next system self) id (.child other (.driving driver))) :
    Registered (move.next system self).shared other := by
  rcases hhandling.formed.mirrored.at_next hat with ⟨rfl, heq⟩ | ⟨hne, hold⟩ | ⟨-, hspawned⟩
  · obtain ⟨mailbox, -, -, heffect⟩ := hresumed.stretch.of_driving heq
    obtain ⟨fresh, rfl, -, hkind, -⟩ := hresumed.stretch.origin heffect
    obtain rfl := hhandling.formed.known.mailbox_eq hresumed.here hkind
    have hlt := hhandling.formed.known.frames _ _ hresumed.here mailbox List.mem_cons_self
    refine ⟨?_, ?_⟩ <;> rw [(Known.sameChild_next move id hlt).name]
    · simp [heffect, Effect.apply, Runtime.launch, Runtime.registerActor, Runtime.setChild]
    · show (move.effect.apply system.shared).liveChildren _ = _
      simp [heffect, Effect.apply, Runtime.launch]
  · exact hhandling.registered_other hresumed hpeaceful hold rfl hne (hhandling.named _ _ _ hold)
  · cases hresumed.stretch.attempting_of_spawned hspawned

/-! #### Who goes on, and who is on the way out -/

theorem dooms_of_cancel {task : TaskId} (heffect : move.effect = .cancel task) :
    ∃ other later, At system task (.child other later) ∧ incident.Dooms system stage other := by
  rcases (hresumed.stretch.origin heffect).2 with ⟨child, before, rfl⟩ | ⟨rest, rfl⟩
  swap
  · cases hhandling.idle _ _ hresumed.here
  by_cases hself : self = incident.task
  · subst hself
    cases hresumed.here.unique hhandling.here
    obtain ⟨later, hturn, -⟩ := hhandling.turn hresumed hpeaceful
    rw [heffect] at hturn
    cases hturn with
    | @tear _ _ _ sibling =>
        obtain ⟨rfl, ended, heq, -⟩ := hhandling.course
        have hmem : sibling ∈ incident.siblings := heq ▸ by simp
        obtain ⟨after, hat⟩ := hhandling.rooted.placed sibling (hhandling.lt_of_mem hmem)
        exact ⟨sibling, after, hat, .inl hmem⟩
  · obtain ⟨later, herrand, -⟩ := hhandling.errand hresumed hpeaceful hself
    rw [heffect] at herrand
    cases herrand with
    | closeOther =>
        obtain ⟨younger, after, hat, hdoomed⟩ :=
          hhandling.drained _ _ _ _ _ hresumed.here rfl task (by simp)
        exact ⟨younger, after, hat, .inr hdoomed⟩

theorem drained_next {id task : TaskId} {after : ChildStage} {rest tasks : List TaskId}
    (hat : At (move.next system self) id (.child other after))
    (hdrains : after.drains = some (rest, tasks)) (hmem : task ∈ rest ++ tasks) :
    ∃ younger last, At (move.next system self) task (.child younger last) ∧
      incident.supervisor < ((move.next system self).shared.children younger).supervisor := by
  suffices hbefore : ∃ younger last, At system task (.child younger last) ∧
      incident.supervisor < (system.shared.children younger).supervisor by
    obtain ⟨younger, last, hyounger, hdoomed⟩ := hbefore
    obtain ⟨later, hlater⟩ := hresumed.exists_child_next hyounger
    have hlt := hhandling.formed.known.frames _ _ hyounger younger List.mem_cons_self
    exact ⟨younger, later, hlater, (Known.sameChild_next move self hlt).supervisor ▸ hdoomed⟩
  rcases hhandling.formed.mirrored.at_next hat with ⟨rfl, heq⟩ | ⟨-, hold⟩ | ⟨-, hspawned⟩
  · rcases hresumed.stretch.drains_cases heq hdrains with
      ⟨before, rfl, hbuilt, rfl, rfl⟩ | ⟨first, rfl, -⟩ | ⟨rfl, rfl⟩
    · have hdooms := hhandling.dooms_of_closed hresumed hpeaceful heq hbuilt hdrains
      have hle : incident.supervisor ≤ (system.shared.children other).supervisor := by
        rcases hdooms with hpending | hyounger
        · exact (hhandling.under_of_mem (hhandling.course.pending_subset hpending)).ge
        · exact hyounger.le
      have hnested := hle.trans_lt (hhandling.rooted.ascending _ _ _ hresumed.here hbuilt)
      have hmem : task ∈ system.shared.nestedTasks other := by simpa using hmem
      obtain ⟨younger, hlisted, rfl⟩ := List.mem_map.mp hmem
      obtain ⟨last, hyounger⟩ :=
        hhandling.rooted.placed younger (hhandling.formed.known.listed _ younger hlisted)
      exact ⟨younger, last, hyounger, (hhandling.rooted.under _ _ hlisted).symm ▸ hnested⟩
    · exact hhandling.drained _ _ _ _ _ hresumed.here rfl task (by simp_all)
    · exact hhandling.drained _ _ _ _ _ hresumed.here rfl task hmem
  · exact hhandling.drained _ _ _ _ _ hold hdrains task hmem
  · cases hresumed.stretch.attempting_of_spawned hspawned
    cases hdrains

section

variable (hfollows : incident.Follows system self frame move stage later)

include hfollows

theorem cancelled_next (hat : At (move.next system self) id owned) (hlive : owned.isDone = false)
    (hcancelled : (move.next system self).shared.cancelled id = true) :
    ∃ other, owned.owner = some other ∧ incident.Dooms (move.next system self) later other := by
  have hmirrored := hhandling.formed.mirrored
  rw [Runtime.cancelled] at hcancelled
  rcases hmirrored.at_next hat with ⟨rfl, -⟩ | ⟨hne, hold⟩ | ⟨hle, -⟩
  · rw [loop_next _ _ _ (hmirrored.lt_of_at hresumed.here), if_pos rfl] at hcancelled
    cases hcancelled
  · rw [loop_next _ _ _ (hmirrored.lt_of_at hold), if_neg hne] at hcancelled
    have hbefore : ∃ other, owned.owner = some other ∧ incident.Dooms system stage other := by
      rcases Effect.loop_cases (Effect.victim_eq_none hpeaceful.effect) with hloop | ⟨task, heffect⟩
      · rw [hloop] at hcancelled
        exact hhandling.cancelled _ _ hold hlive hcancelled
      · rw [heffect] at hcancelled
        rcases Loop.mustCancel_cancel.mp hcancelled with hcancelled | htarget
        · exact hhandling.cancelled _ _ hold hlive hcancelled
        · obtain ⟨other, after, htask, hdooms⟩ :=
            hhandling.dooms_of_cancel hresumed hpeaceful heffect
          exact hhandling.dooms_of_targets htask hdooms htarget hold
    obtain ⟨other, howner, hdooms⟩ := hbefore
    exact ⟨other, howner, hhandling.dooms_next hfollows hdooms hold hlive howner⟩
  · rw [loop_next_of_le _ _ _ hle] at hcancelled
    cases hcancelled

theorem others_next {after : ChildStage} (hat : At (move.next system self) id (.child other after))
    (hne : id ≠ incident.task) (hlive : (Frame.child other after).isDone = false) :
    after.serves = true ∨
      after.winding = true ∧ incident.Dooms (move.next system self) later other := by
  rcases hhandling.formed.mirrored.at_next hat with ⟨rfl, heq⟩ | ⟨-, hold⟩ | ⟨-, hspawned⟩
  · obtain ⟨before, rfl⟩ := hresumed.stretch.of_child heq
    have hrunning := hhandling.formed.mirrored.live_self hresumed
    have hdooms : incident.Dooms system stage other →
        incident.Dooms (move.next system id) later other := fun hdooms =>
      hhandling.dooms_next hfollows hdooms hresumed.here hrunning rfl
    obtain ⟨_, herrand, hframe⟩ := hhandling.errand hresumed hpeaceful hne
    cases heq.trans hframe
    generalize move.effect = effect at herrand
    cases herrand with
    | aborted | ended => cases hlive
    | launched | nested | built => exact .inl rfl
    | shut hdone => exact .inr ⟨rfl, hdooms (hhandling.driven _ _ _ hresumed.here hdone)⟩
    | closed _ hcancelled =>
        exact .inr ⟨rfl,
          hdooms (hhandling.dooms_of_cancelled hresumed.here hrunning rfl hcancelled)⟩
    | closeOther | drain =>
        rcases hhandling.others _ _ _ hresumed.here hne hrunning with hserves | ⟨-, hwinding⟩
        · cases hserves
        · exact .inr ⟨rfl, hdooms hwinding⟩
  · exact (hhandling.others _ _ _ hold hne hlive).imp_right fun ⟨hwinding, hdooms⟩ =>
      ⟨hwinding, hhandling.dooms_next hfollows hdooms hold hlive rfl⟩
  · cases hresumed.stretch.attempting_of_spawned hspawned
    exact .inl rfl

theorem driven_next {id driver : TaskId}
    (hat : At (move.next system self) id (.child other (.driving driver)))
    (hdone : (move.next system self).shared.isDone driver = true) :
    incident.Dooms (move.next system self) later other := by
  have hmirrored := hhandling.formed.mirrored
  have hlater := hmirrored.next hresumed
  rcases hmirrored.at_next hat with ⟨rfl, heq⟩ | ⟨-, hold⟩ | ⟨-, hspawned⟩
  · obtain ⟨mailbox, hspawned, rfl, -⟩ := hresumed.stretch.of_driving heq
    have hcreated := hlater.isDone_of_at (hmirrored.at_next_spawned 0 hspawned)
    rw [Nat.add_zero, hdone] at hcreated
    cases hcreated
  · refine hhandling.dooms_next hfollows ?_ hold rfl rfl
    by_cases hbefore : system.shared.isDone driver = true
    · exact hhandling.driven _ _ _ hold hbefore
    · obtain ⟨mailbox, before, hdriver⟩ := hhandling.formed.known.drives _ _ _ hold
      by_cases hself : driver = self
      · subst hself
        obtain rfl := hresumed.here.unique hdriver
        rw [hlater.isDone_of_at (Mirrored.at_next_self hresumed)] at hdone
        exact hhandling.cancelled_of_driver hresumed hpeaceful hdone
      · rw [hlater.isDone_of_at (Mirrored.at_next_other hself hdriver),
          ← hmirrored.isDone_of_at hdriver] at hdone
        exact absurd hdone hbefore
  · cases hresumed.stretch.attempting_of_spawned hspawned

end

theorem next :
    ∃ later, incident.Follows system self frame move stage later ∧
      Handling incident later (move.next system self) := by
  obtain ⟨later, hlater, hfollows⟩ := hhandling.follows hresumed hpeaceful
  have hsupervisor := hhandling.supervisor_next hresumed hpeaceful
  refine ⟨later, hfollows, ?_⟩
  exact {
    formed := hhandling.formed.next hresumed
    rooted := hhandling.rooted.next hhandling.formed hresumed
    one := hhandling.one.next hhandling.formed (hhandling.respawnsEnded hresumed) hresumed
    idle := fun _ _ hat => hhandling.idle_next hresumed hpeaceful hat
    here := hlater
    course := hhandling.course_next hresumed hfollows
    listed := hsupervisor.1
    strategy := hsupervisor.2
    others := fun _ _ _ hat hne hlive =>
      hhandling.others_next hresumed hpeaceful hfollows hat hne hlive
    cancelled := fun _ _ hat hlive hcancelled =>
      hhandling.cancelled_next hresumed hpeaceful hfollows hat hlive hcancelled
    driven := fun _ _ _ hat hdone => hhandling.driven_next hresumed hpeaceful hfollows hat hdone
    drained := fun _ _ _ _ _ hat hdrains _ hmem =>
      hhandling.drained_next hresumed hpeaceful hat hdrains hmem
    named := fun _ _ _ hat => hhandling.named_next hresumed hpeaceful hat }

end

end Handling

end Step

end LapinBeam.Actor
