import LapinBeam.Proof.Incarnations

/-!
# What an incarnation of a nested supervisor leaves running

`_run_supervisor_child` leaves the supervisor it has built when `build` raises, when the supervisor
gives up, or when the child is cancelled. The last two wait for every child on the supervisor's list.
The first one does not: `except Exception` starts over without a `shutdown()`, so whatever `build`
had spawned before it raised goes on, next to the next incarnation.

The rest is about what joins a list while it is worked off: nobody may spawn or respawn a child under
a supervisor that is being taken down.
-/

namespace LapinBeam.Actor

open Asyncio (TaskId Loop)

namespace Runtime

variable (runtime : Runtime)

def nestedIn (supervisor : SupervisorId) : Bool :=
  supervisor ≠ 0 && (List.range runtime.nextChild).any fun child =>
    (runtime.children child).nested = supervisor

def deserted (supervisor : SupervisorId) : Bool :=
  (List.range runtime.nextChild).all fun child =>
    (runtime.children child).supervisor ≠ supervisor ||
      runtime.isDone (runtime.children child).task

end Runtime

def Frame.stops (runtime : Runtime) (supervisor : SupervisorId) : Frame → Bool
  | .child id (.closing _ _) | .child id (.draining _) =>
      (runtime.children id).nested = supervisor
  | .child id (.cancelling _ _ _) | .child id (.gathering _ _) =>
      (runtime.children id).supervisor = supervisor
  | _ => false

def dismantled (system : System) (supervisor : SupervisorId) : Bool :=
  system.shared.nestedIn supervisor &&
    system.tasks.any fun task => task.frame.stops system.shared supervisor

def Frame.builds : Frame → Bool
  | .child _ stage => stage.built
  | _ => false

/-- Whoever has built the supervisor last is still at it, and the supervisor has not given up. -/
def standing (system : System) (supervisor : SupervisorId) : Bool :=
  !system.shared.nestedIn supervisor ||
    (system.shared.supervisors supervisor).giveUpExc.isNone && !dismantled system supervisor &&
      (List.range system.shared.nextChild).all fun child =>
        (system.shared.children child).nested ≠ supervisor ||
          system.tasks[(system.shared.children child).task]?.any fun task => task.frame.builds

def buildsClean : Condition
  | system, _, .child id .building, .raised _ | system, _, .child id .building, .escaped _ =>
      system.shared.deserted (system.shared.children id).nested
  | _, _, _, _ => true

/-- No sibling is respawned under a nested supervisor that is being taken down. -/
def respawnsStanding : Condition
  | system, _, .child _ (.respawning (sibling :: _)), _ =>
      !dismantled system (system.shared.children sibling).supervisor
  | _, _, _, _ => true

/-- Nobody spawns a child under a nested supervisor whose time is over. -/
def spawnsStanding : Condition
  | system, _, _, .call (.spawn supervisor _)
  | system, _, _, .call (.spawnSupervisor supervisor _ _) => standing system supervisor
  | _, _, _, _ => true

def tidy : Condition :=
  both (both respawnsEnded buildsClean) (both respawnsStanding spawnsStanding)

theorem tidy_cases {system : System} {id : TaskId} {frame : Frame} {input : Input}
    (htidy : tidy system id frame input = true) :
    respawnsEnded system id frame input = true ∧ buildsClean system id frame input = true ∧
      respawnsStanding system id frame input = true ∧
      spawnsStanding system id frame input = true := by
  simpa [tidy, both, Bool.and_eq_true, and_assoc] using htidy

theorem Runtime.nestedIn_iff {runtime : Runtime} {supervisor : SupervisorId} :
    runtime.nestedIn supervisor = true ↔ supervisor ≠ 0 ∧
      ∃ child < runtime.nextChild, (runtime.children child).nested = supervisor := by
  simp [nestedIn]

def ChildStage.tends (stage : ChildStage) : Bool := stage.built || stage.drains.isSome

def ChildStage.gathers : ChildStage → Option (List TaskId)
  | .cancelling _ _ tasks | .gathering _ tasks => some tasks
  | _ => none

structure Tended (system : System) : Prop where
  drains : ∀ id child stage rest tasks, At system id (.child child stage) →
    stage.drains = some (rest, tasks) →
    system.shared.nestedIn (system.shared.children child).nested = true →
    ∀ task other later, Serving system (system.shared.children child).nested task other later →
      task ∈ tasks
  gathers : ∀ id child stage tasks, At system id (.child child stage) →
    stage.gathers = some tasks →
    system.shared.nestedIn (system.shared.children child).supervisor = true →
    ∀ task other later, Serving system (system.shared.children child).supervisor task other later →
      other ≠ child → task ∈ tasks
  gaveUp : ∀ supervisor, system.shared.nestedIn supervisor = true →
    (system.shared.supervisors supervisor).giveUpExc ≠ none →
    ∀ task other later, Serving system supervisor task other later → later.notifies = true
  retired : ∀ child < system.shared.nextChild, (system.shared.children child).nested ≠ 0 →
    ∀ stage, At system (system.shared.children child).task (.child child stage) →
    stage.tends = false →
    ∀ task other later, ¬ Serving system (system.shared.children child).nested task other later

section Step

variable {system : System} {self id : TaskId} {input : Input} {frame : Frame} {move : Move}
  {child other : ChildId} {stage later : ChildStage} {supervisor : SupervisorId}
  {task : TaskId} {rest tasks : List TaskId}

theorem nestedIn_next
    (hnested : (move.next system self).shared.nestedIn supervisor = true) :
    system.shared.nestedIn supervisor = true ∨
      supervisor = system.shared.nextSupervisor ∧ ∃ child, move.effect = .nest child := by
  obtain ⟨hne, child, hlt, heq⟩ := Runtime.nestedIn_iff.mp hnested
  rcases Known.child_next_cases hlt with hold | ⟨_, _, _, -, -, hrecord⟩
  · rw [children_next] at heq
    rcases Effect.nested_cases move.effect system.shared child with
      hsame | heffect | ⟨_, _, _, -, rfl⟩
    · exact .inl (Runtime.nestedIn_iff.mpr ⟨hne, child, hold, hsame.symm.trans heq⟩)
    · rw [heffect, (Effect.nested_of_nest _ _).1] at heq
      exact .inr ⟨heq.symm, child, heffect⟩
    · exact absurd hold (Nat.lt_irrefl _)
  · rw [hrecord] at heq
    exact absurd heq.symm hne

theorem dismantled_of_at (hat : At system id frame) (hstops : frame.stops system.shared supervisor = true)
    (hnested : system.shared.nestedIn supervisor = true) : dismantled system supervisor = true := by
  simp only [dismantled, hnested, Bool.true_and, List.any_eq_true]
  exact ⟨_, List.mem_of_getElem? hat, hstops⟩

theorem Resumed.standing_of_spawn {name : String} {kind : ChildKind}
    (hresumed : Resumed system self input frame move)
    (hspawns : spawnsStanding system self frame input = true)
    (heffect : move.effect = .spawn supervisor name kind)
    (hnested : system.shared.nestedIn supervisor = true) :
    (system.shared.supervisors supervisor).giveUpExc = none ∧
      dismantled system supervisor = false ∧
      ∀ child < system.shared.nextChild, (system.shared.children child).nested = supervisor →
        ∀ stage, At system (system.shared.children child).task (.child child stage) →
          stage.built = true := by
  have hstanding : standing system supervisor = true := by
    obtain ⟨-, -, rfl | ⟨settings, rfl⟩⟩ := hresumed.spawn_call heffect <;> exact hspawns
  simp only [standing, hnested, Bool.not_true, Bool.false_or, Bool.and_eq_true, Option.isNone_iff_eq_none,
    Bool.not_eq_true', List.all_eq_true, List.mem_range, Bool.or_eq_true, decide_eq_true_eq] at hstanding
  obtain ⟨⟨hgiveUp, hdismantled⟩, hbuilds⟩ := hstanding
  refine ⟨hgiveUp, hdismantled, fun child hlt heq stage hat => ?_⟩
  have hlookup : system.tasks[(system.shared.children child).task]? = some _ := hat
  rcases hbuilds child hlt with hne | hbuilds
  · exact absurd heq hne
  · simpa [hlookup, Frame.builds] using hbuilds

theorem Serving.before_of_dismantled (hformed : WellFormed system) (hlisting : Listing system)
    (hresumed : Resumed system self input frame move)
    (hrespawns : respawnsStanding system self frame input = true)
    (hspawns : spawnsStanding system self frame input = true)
    (hserving : Serving (move.next system self) supervisor task other later)
    (hdismantled : dismantled system supervisor = true) :
    ∃ before, Serving system supervisor task other before := by
  rcases hserving.before hformed hlisting hresumed with
    ⟨-, hbefore⟩ | ⟨-, -, before, -, hbefore⟩ | ⟨-, hlisted, handler, rest, rfl, -⟩ |
      ⟨name, kind, -, heffect, -⟩
  · exact ⟨later, hbefore⟩
  · exact ⟨before, hbefore⟩
  · simp [respawnsStanding, hlisting.under _ other hlisted, hdismantled] at hrespawns
  · have hnested := (Bool.and_eq_true_iff.mp hdismantled).1
    rw [(hresumed.standing_of_spawn hspawns heffect hnested).2.1] at hdismantled
    cases hdismantled

theorem Serving.before_of_child (hformed : WellFormed system) (hlisting : Listing system)
    (hresumed : Resumed system self input (.child child stage) move) (hsiblings : stage.siblings = [])
    (hserving : Serving (move.next system self) supervisor task other later) :
    ∃ before, Serving system supervisor task other before := by
  rcases hserving.before hformed hlisting hresumed with
    ⟨-, hbefore⟩ | ⟨-, -, before, -, hbefore⟩ | ⟨-, -, handler, rest, hframe, -⟩ |
      ⟨name, kind, -, heffect, -⟩
  · exact ⟨later, hbefore⟩
  · exact ⟨before, hbefore⟩
  · cases hframe
    cases hsiblings
  · cases (hresumed.stretch.origin heffect).1

theorem Serving.not_notifies (hformed : WellFormed system)
    (hresumed : Resumed system self input frame move)
    (hframe : ∀ child stage, frame = .child child stage → stage.notifies = false)
    (hserving : Serving system supervisor task other later) : ¬ later.notifies = true := by
  intro hnotifies
  have hrunning : (Frame.child other later).await = .running := by
    cases later <;> first | rfl | cases hnotifies
  obtain rfl := hformed.mirrored.eq_self_of_running hresumed hserving.here hrunning
  rw [hframe _ _ (hresumed.here.unique hserving.here)] at hnotifies
  cases hnotifies

theorem Serving.listed (hformed : WellFormed system) (hone : OneTask system)
    (hlisting : Listing system) (hresumed : Resumed system self input frame move)
    (hframe : ∀ child stage, frame = .child child stage → stage.notifies = false)
    (hserving : Serving system supervisor task other later) :
    other ∈ (system.shared.supervisors supervisor).children ∧
      (system.shared.children other).task = task := by
  refine ⟨?_, hone _ _ _ hserving.here hserving.live⟩
  rcases hlisting.listed _ _ _ _ hserving with hlisted | hnotifies
  · exact hlisted
  · exact absurd hnotifies (hserving.not_notifies hformed hresumed hframe)

theorem Stretch.gathers_cases {runtime : Runtime} (hstretch : Stretch runtime self frame move)
    (heq : .child child stage = move.frame) (hgathers : stage.gathers = some tasks) :
    (∃ crash, frame = .child child (.exhausted crash) ∧
      tasks = runtime.tasksOf ((runtime.supervisorOf child).children.filter (· ≠ child))) ∨
    ∃ before, frame = .child child before ∧ before.gathers = some tasks := by
  cases hstretch with
  | giveUpAll _ htasks => cases heq; cases hgathers; exact .inl ⟨_, rfl, htasks⟩
  | cancelOther | gather => cases heq; cases hgathers; exact .inr ⟨_, rfl, rfl⟩
  | _ => cases heq <;> cases hgathers

theorem Effect.giveUp_cases {effect : Effect} {runtime : Runtime}
    (hgiveUp : ((effect.apply runtime).supervisors supervisor).giveUpExc ≠ none) :
    (runtime.supervisors supervisor).giveUpExc ≠ none ∨
    (∃ child exc, effect = .giveUp child exc ∧
      supervisor = (runtime.children child).supervisor) ∨
    ∃ child exc, effect = .denied child exc ∧ supervisor = (runtime.children child).supervisor ∧
      (runtime.supervisors supervisor).settings.strategy = .oneForOne ∧
      (runtime.supervisors supervisor).children.erase child = [] := by
  have hchange := Effect.supervisor_change effect runtime supervisor
  generalize (effect.apply runtime).supervisors supervisor = after at hchange hgiveUp
  cases hchange with
  | gaveUp hid => exact .inr (.inl ⟨_, _, rfl, hid⟩)
  | denied hid hstrategy hcases =>
      rcases hcases with rfl | hlast
      · exact .inl hgiveUp
      · exact .inr (.inr ⟨_, _, rfl, hid, hstrategy, hlast⟩)
  | created => exact absurd rfl hgiveUp
  | _ => exact .inl hgiveUp

theorem Mirrored.isDone_of_gather (hmirrored : Mirrored system)
    (hresumed : Resumed system self input frame move) (hawait : frame.await = .gather tasks)
    (hmem : task ∈ tasks) : system.shared.isDone task = true := by
  have hready := (Bool.and_eq_true_iff.mp hresumed.ready).2
  simp only [Loop.ready, hmirrored.await _ _ hresumed.here, hawait, List.all_eq_true] at hready
  exact hready task hmem

theorem Resumed.giveUp_cases {exc : Exc} (hmirrored : Mirrored system)
    (hresumed : Resumed system self input frame move) (heffect : move.effect = .giveUp child exc) :
    ∃ stage later tasks, frame = .child child stage ∧ move.frame = .child child later ∧
      later.notifies = true ∧ stage.gathers = some tasks ∧
      ∀ task ∈ tasks, system.shared.isDone task = true := by
  have hmove := hresumed.eq_some
  obtain ⟨crash, tasks, later, hframe, hlater, hnotifies⟩ := hresumed.stretch.origin heffect
  rcases hframe with rfl | rfl
  · obtain rfl : tasks = [] := by
      cases input <;> simp only [Frame.move, ChildStage.move, reduceCtorEq] at hmove
      split at hmove
      · assumption
      · cases hmove
        cases heffect
    exact ⟨_, _, _, rfl, hlater, hnotifies, rfl, by simp⟩
  · exact ⟨_, _, _, rfl, hlater, hnotifies, rfl, fun task hmem =>
      hmirrored.isDone_of_gather hresumed rfl hmem⟩

namespace Tended

section

variable (hformed : WellFormed system)

include hformed

theorem drains_next (hone : OneTask system) (hlisting : Listing system) (htended : Tended system)
    (hresumed : Resumed system self input frame move)
    (hrespawns : respawnsStanding system self frame input = true)
    (hspawns : spawnsStanding system self frame input = true)
    (hat : At (move.next system self) id (.child child stage))
    (hdrains : stage.drains = some (rest, tasks)) (hnested : (move.next system self).shared.nestedIn
      ((move.next system self).shared.children child).nested = true)
    (hserving : Serving (move.next system self)
      ((move.next system self).shared.children child).nested task other later) : task ∈ tasks := by
  -- a shutdown that was under way has all tasks on its list
  have hkeep : ∀ {earlier before}, At system id (.child child before) →
      before.drains = some (earlier, tasks) →
      (∀ fresh, frame ≠ .child child (.attempting fresh)) → task ∈ tasks := by
    intro earlier before hbefore hdrains hframe
    have hlt := hformed.known.frames _ _ hbefore child List.mem_cons_self
    rw [hresumed.nested_eq hlt hframe] at hserving hnested
    have hnested' : system.shared.nestedIn (system.shared.children child).nested = true :=
      Runtime.nestedIn_iff.mpr ⟨(Runtime.nestedIn_iff.mp hnested).1, child, hlt, rfl⟩
    have hstops : (Frame.child child before).stops system.shared
        (system.shared.children child).nested = true := by
      cases before <;> first | exact decide_eq_true rfl | cases hdrains
    obtain ⟨earlier', hserving'⟩ := hserving.before_of_dismantled hformed hlisting hresumed hrespawns
      hspawns (dismantled_of_at hbefore hstops hnested')
    exact htended.drains id child before _ tasks hbefore hdrains hnested' task other _ hserving'
  rcases hformed.mirrored.at_next hat with ⟨rfl, heq⟩ | ⟨hne, hold⟩ | ⟨-, hspawned⟩
  · rcases hresumed.stretch.drains_cases heq hdrains with
      ⟨before, rfl, hbuilt, -, rfl⟩ | ⟨first, rfl, -⟩ | ⟨rfl, -⟩
    · have hlt := hformed.known.frames _ _ hresumed.here child List.mem_cons_self
      have hframe : ∀ fresh, Frame.child child before ≠ .child child (.attempting fresh) := by
        rintro fresh ⟨⟩
        cases hbuilt
      rw [hresumed.nested_eq hlt hframe] at hserving
      obtain ⟨earlier, hserving⟩ := hserving.before_of_child hformed hlisting hresumed (by
        cases before <;> first | rfl | cases hbuilt)
      obtain ⟨hlisted, rfl⟩ := hserving.listed hformed hone hlisting hresumed (by
        rintro _ _ ⟨⟩
        cases before <;> first | rfl | cases hbuilt)
      exact List.mem_map_of_mem hlisted
    · exact hkeep hresumed.here rfl (by simp)
    · exact hkeep hresumed.here rfl (by simp)
  · refine hkeep hold hdrains ?_
    rintro fresh rfl
    have hlive : (Frame.child child stage).isDone = false := by
      cases stage <;> first | rfl | cases hdrains
    exact hne ((hone _ _ _ hold hlive).symm.trans
      (hone _ _ _ hresumed.here (hformed.mirrored.live_self hresumed)))
  · cases hresumed.stretch.attempting_of_spawned hspawned
    cases hdrains

theorem gathers_next (hone : OneTask system) (hlisting : Listing system) (htended : Tended system)
    (hresumed : Resumed system self input frame move)
    (hrespawns : respawnsStanding system self frame input = true)
    (hspawns : spawnsStanding system self frame input = true)
    (hat : At (move.next system self) id (.child child stage))
    (hgathers : stage.gathers = some tasks) (hnested : (move.next system self).shared.nestedIn
      ((move.next system self).shared.children child).supervisor = true)
    (hserving : Serving (move.next system self)
      ((move.next system self).shared.children child).supervisor task other later)
    (hother : other ≠ child) : task ∈ tasks := by
  have hkeep : ∀ {before}, At system id (.child child before) → before.gathers = some tasks →
      task ∈ tasks := by
    intro before hbefore hgathers
    have hlt := hformed.known.frames _ _ hbefore child List.mem_cons_self
    rw [(Known.sameChild_next move self hlt).supervisor] at hserving hnested
    have hnested' : system.shared.nestedIn (system.shared.children child).supervisor = true := by
      rcases nestedIn_next hnested with hnested | ⟨heq, -⟩
      · exact hnested
      · exact absurd (hlisting.bounded child hlt).1 (heq ▸ Nat.lt_irrefl _)
    have hstops : (Frame.child child before).stops system.shared
        (system.shared.children child).supervisor = true := by
      cases before <;> first | exact decide_eq_true rfl | cases hgathers
    obtain ⟨earlier, hserving'⟩ := hserving.before_of_dismantled hformed hlisting hresumed hrespawns
      hspawns (dismantled_of_at hbefore hstops hnested')
    exact htended.gathers id child before tasks hbefore hgathers hnested' task other _ hserving' hother
  rcases hformed.mirrored.at_next hat with ⟨rfl, heq⟩ | ⟨-, hold⟩ | ⟨-, hspawned⟩
  · rcases hresumed.stretch.gathers_cases heq hgathers with
      ⟨crash, rfl, rfl⟩ | ⟨before, rfl, hbefore⟩
    · have hlt := hformed.known.frames _ _ hresumed.here child List.mem_cons_self
      rw [(Known.sameChild_next move id hlt).supervisor] at hserving
      obtain ⟨earlier, hserving⟩ := hserving.before_of_child hformed hlisting hresumed rfl
      obtain ⟨hlisted, rfl⟩ := hserving.listed hformed hone hlisting hresumed (by
        rintro _ _ ⟨⟩
        rfl)
      exact List.mem_map_of_mem (List.mem_filter.mpr ⟨hlisted, by simpa using hother⟩)
    · exact hkeep hresumed.here hbefore
  · exact hkeep hold hgathers
  · cases hresumed.stretch.attempting_of_spawned hspawned
    cases hgathers

theorem gaveUp_next (hone : OneTask system) (hlisting : Listing system) (htended : Tended system)
    (hresumed : Resumed system self input frame move)
    (hspawns : spawnsStanding system self frame input = true)
    (hnested : (move.next system self).shared.nestedIn supervisor = true)
    (hgiveUp : ((move.next system self).shared.supervisors supervisor).giveUpExc ≠ none)
    (hserving : Serving (move.next system self) supervisor task other later) :
    later.notifies = true := by
  have hold : system.shared.nestedIn supervisor = true := by
    rcases nestedIn_next hnested with hold | ⟨rfl, child, heffect⟩
    · exact hold
    · simp [heffect, Effect.apply, Runtime.nest, Runtime.setSupervisor, Runtime.setChild] at hgiveUp
  rcases Effect.giveUp_cases hgiveUp with
    hbefore | ⟨child, exc, heffect, rfl⟩ | ⟨child, exc, heffect, rfl, hstrategy, hlast⟩
  · rcases hserving.before hformed hlisting hresumed with
      ⟨-, hserving'⟩ | ⟨-, hmove, before, rfl, hserving'⟩ | ⟨-, -, handler, rest, -, hhandler⟩ |
        ⟨name, kind, -, heffect, -⟩
    · exact htended.gaveUp _ hold hbefore _ _ _ hserving'
    · have hnotifies := htended.gaveUp _ hold hbefore _ _ _ hserving'
      exact (hresumed.done_of_notifies hnotifies hmove hserving.live).elim
    · cases htended.gaveUp _ hold hbefore _ _ _ hhandler
    · exact absurd (hresumed.standing_of_spawn hspawns heffect hold).1 hbefore
  · obtain ⟨before, after, tasks, rfl, hafter, hnotifies, hgathers, hdone⟩ :=
      hresumed.giveUp_cases hformed.mirrored heffect
    rcases hserving.before hformed hlisting hresumed with
      ⟨hne, hserving'⟩ | ⟨-, hmove, -⟩ | ⟨-, -, handler, rest, hframe, -⟩ | ⟨name, kind, -, heq, -⟩
    · -- everyone else was waited for
      have hother : other ≠ child := by
        rintro rfl
        exact hne ((hone _ _ _ hserving'.here hserving'.live).symm.trans
          (hone _ _ _ hresumed.here (hformed.mirrored.live_self hresumed)))
      have hmem := htended.gathers _ _ _ _ hresumed.here hgathers hold _ _ _ hserving' hother
      have hlive := hdone task hmem
      rw [hformed.mirrored.isDone_of_at hserving'.here, hserving'.live] at hlive
      cases hlive
    · cases hmove.symm.trans hafter
      exact hnotifies
    · cases hframe
      cases hgathers
    · cases heffect.symm.trans heq
  · obtain ⟨before, after, rfl, hafter, hnotifies⟩ := hresumed.stretch.origin heffect
    rcases hserving.before hformed hlisting hresumed with
      ⟨hne, hserving'⟩ | ⟨-, hmove, -⟩ | ⟨-, -, handler, rest, hframe, -⟩ | ⟨name, kind, -, heq, -⟩
    · rcases hlisting.listed _ _ _ _ hserving' with hlisted | hnotifies
      · have hother : other ≠ child := by
          rintro rfl
          exact hne ((hone _ _ _ hserving'.here hserving'.live).symm.trans
            (hone _ _ _ hresumed.here (hformed.mirrored.live_self hresumed)))
        have hmem := (List.mem_erase_of_ne hother).mpr hlisted
        rw [hlast] at hmem
        cases hmem
      · exact hnotifies
    · cases hmove.symm.trans hafter
      exact hnotifies hstrategy
    · cases hframe
    · cases heffect.symm.trans heq

theorem deserted_of_leaving {before : ChildStage} (hone : OneTask system) (htended : Tended system)
    (hresumed : Resumed system self input (.child child before) move)
    (hclean : buildsClean system self (.child child before) input = true)
    (htends : before.tends = true) (hmove : move.frame = .child child stage)
    (hleft : stage.tends = false)
    (hnested : system.shared.nestedIn (system.shared.children child).nested = true) :
    ¬ Serving system (system.shared.children child).nested task other later := by
  intro hserving
  have hdone : ∀ {ended}, ended = task → system.shared.isDone ended = true → False := by
    rintro _ rfl hended
    rw [hformed.mirrored.isDone_of_at hserving.here, hserving.live] at hended
    cases hended
  have hstep := hresumed.eq_some
  cases hresumed.stretch with
  | buildFailed | buildEscaped =>
      cases input <;> cases hstep
      have hlt := hformed.known.frames _ _ hserving.here other List.mem_cons_self
      have hended := List.all_eq_true.mp hclean other (List.mem_range.mpr hlt)
      simp only [hserving.under, ne_eq, not_true_eq_false, decide_false, Bool.false_or] at hended
      exact hdone (hone _ _ _ hserving.here hserving.live) hended
  | gaveUp halone =>
      have hgiveUp : (system.shared.supervisors (system.shared.children child).nested).giveUpExc ≠
          none := by
        intro hnone
        cases input <;> simp [Frame.move, ChildStage.move, halone, hnone] at hstep
      exact hserving.not_notifies hformed hresumed (by rintro _ _ ⟨⟩; rfl)
        (htended.gaveUp _ hnested hgiveUp _ _ _ hserving)
  | @nobodyNested _ tasks =>
      obtain rfl : tasks = [] := by
        cases input <;> simp only [Frame.move, ChildStage.move, reduceCtorEq] at hstep
        split at hstep
        · assumption
        · cases hstep
      cases htended.drains _ _ _ _ _ hresumed.here rfl hnested _ _ _ hserving
  | drained =>
      exact hdone rfl (hformed.mirrored.isDone_of_gather hresumed rfl
        (htended.drains _ _ _ _ _ hresumed.here rfl hnested _ _ _ hserving))
  | _ => first | (cases htends; done) | (cases hmove; cases hleft)

theorem retired_next (hone : OneTask system) (hplaced : Placed system) (hlisting : Listing system)
    (htended : Tended system) (hresumed : Resumed system self input frame move)
    (htidy : tidy system self frame input = true)
    (hlt : child < (move.next system self).shared.nextChild)
    (hnested : ((move.next system self).shared.children child).nested ≠ 0)
    (hat : At (move.next system self) ((move.next system self).shared.children child).task
      (.child child stage)) (hleft : stage.tends = false) :
    ¬ Serving (move.next system self) ((move.next system self).shared.children child).nested
      task other later := by
  obtain ⟨hended, hclean, -, hspawns⟩ := tidy_cases htidy
  have hold : child < system.shared.nextChild := by
    rcases Known.child_next_cases hlt with hold | ⟨_, _, _, -, -, hrecord⟩
    · exact hold
    · exact absurd (congrArg Child.nested hrecord) hnested
  obtain ⟨before, hbefore⟩ := hplaced child hold
  have hsame : ((move.next system self).shared.children child).nested =
      (system.shared.children child).nested := by
    rcases Effect.nested_cases move.effect system.shared child with
      hsame | heffect | ⟨_, _, _, -, rfl⟩
    · exact hsame
    · -- whoever builds the next supervisor is at work on that one
      obtain ⟨fresh, rfl, hbuilding⟩ := hresumed.stretch.origin heffect
      have hself := hone self child _ hresumed.here (hformed.mirrored.live_self hresumed)
      rw [Known.task_next self hold (by simp [heffect]), hself] at hat
      cases (hbuilding ▸ Mirrored.at_next_self hresumed : At _ _ _).unique hat
      cases hleft
    · exact absurd hold (Nat.lt_irrefl _)
  rw [hsame] at hnested ⊢
  intro hserving
  have hin : system.shared.nestedIn (system.shared.children child).nested = true :=
    Runtime.nestedIn_iff.mpr ⟨hnested, child, hold, rfl⟩
  cases htends : before.tends with
  | false =>
      have hnobody := htended.retired child hold hnested before hbefore htends
      rcases hserving.before hformed hlisting hresumed with
        ⟨-, hserving⟩ | ⟨-, -, earlier, -, hserving⟩ | ⟨-, -, handler, rest, -, hserving⟩ |
          ⟨name, kind, -, heffect, -⟩
      · exact hnobody _ _ _ hserving
      · exact hnobody _ _ _ hserving
      · exact hnobody _ _ _ hserving
      · have hbuilt := (hresumed.standing_of_spawn hspawns heffect hin).2.2 child hold rfl _ hbefore
        rw [ChildStage.tends, hbuilt] at htends
        cases htends
  | true =>
      have hlive : (Frame.child child before).isDone = false := by
        cases before <;> first | rfl | cases htends
      have hkept : ∀ task, move.effect ≠ .respawn child task := by
        intro task heffect
        obtain ⟨_, _, rfl, -⟩ := hresumed.stretch.origin heffect
        have hdone : system.shared.isDone (system.shared.children child).task = true := hended
        rw [hformed.mirrored.isDone_of_at hbefore, hlive] at hdone
        cases hdone
      rw [Known.task_next self hold hkept] at hat
      by_cases hself : (system.shared.children child).task = self
      · subst hself
        obtain rfl := hresumed.here.unique hbefore
        have hmove := (Mirrored.at_next_self hresumed).unique hat
        have hsiblings : before.siblings = [] := by
          cases before <;> first | rfl | cases htends
        obtain ⟨earlier, hserving⟩ :=
          hserving.before_of_child hformed hlisting hresumed hsiblings
        exact deserted_of_leaving hformed hone htended hresumed hclean htends hmove hleft hin hserving
      · cases (Mirrored.at_next_other hself hbefore).unique hat
        rw [htends] at hleft
        cases hleft

theorem next (hone : OneTask system) (hplaced : Placed system) (hlisting : Listing system)
    (htended : Tended system) (hresumed : Resumed system self input frame move)
    (htidy : tidy system self frame input = true) : Tended (move.next system self) := by
  obtain ⟨-, -, hrespawns, hspawns⟩ := tidy_cases htidy
  exact {
    drains := fun _ _ _ _ _ hat hdrains hnested _ _ _ hserving =>
      htended.drains_next hformed hone hlisting hresumed hrespawns hspawns hat hdrains hnested hserving
    gathers := fun _ _ _ _ hat hgathers hnested _ _ _ hserving hother =>
      htended.gathers_next hformed hone hlisting hresumed hrespawns hspawns hat hgathers hnested
        hserving hother
    gaveUp := fun _ hnested hgiveUp _ _ _ hserving =>
      htended.gaveUp_next hformed hone hlisting hresumed hspawns hnested hgiveUp hserving
    retired := fun _ hlt hnested _ hat hleft _ _ _ =>
      htended.retired_next hformed hone hplaced hlisting hresumed htidy hlt hnested hat hleft }

end

theorem start (localId : String) (mailboxCapacity : Option Nat) :
    Tended (start localId mailboxCapacity) where
  drains := by
    intro id child stage rest tasks hat
    cases (at_start hat).2
  gathers := by
    intro id child stage tasks hat
    cases (at_start hat).2
  gaveUp := fun _ _ hgiveUp => absurd rfl hgiveUp
  retired := fun _ hlt => nomatch hlt

end Tended

end Step

def Spawned (runtime : Runtime) (child other : ChildId) : Prop :=
  (runtime.children child).nested ≠ 0 ∧ other < runtime.nextChild ∧
    (runtime.children other).supervisor = (runtime.children child).nested

theorem Tended.ended_of_spawned {system : System} {child other : ChildId} {stage : ChildStage}
    (htended : Tended system) (hlt : child < system.shared.nextChild)
    (hat : At system (system.shared.children child).task (.child child stage))
    (hleft : stage.tends = false) (hspawned : Spawned system.shared child other) (id : TaskId)
    (later : ChildStage) (hother : At system id (.child other later)) :
    (Frame.child other later).isDone = true := by
  obtain ⟨hnested, -, hunder⟩ := hspawned
  by_contra hlive
  exact htended.retired child hlt hnested stage hat hleft id other later
    ⟨hother, Bool.eq_false_iff.mpr hlive, hunder⟩

structure Attended (system : System) : Prop where
  supervised : Supervised system
  placed : Placed system
  listing : Listing system
  tended : Tended system

namespace Fixed

/-- A supervisor child builds its supervisor, and `build` spawns an actor under it. -/
def nesting (settings : Settings) : List Action :=
  [ask (.newSupervisor {}), ask (.spawnSupervisor 0 "sub" settings), go 1, ask (.spawn 1 "worker")] ++
    launch 2 3

/-- `build` raises after that, and the child is about to start over. -/
def halfBuilt : List Action :=
  nesting {} ++ [.resume 1 (.raised ⟨"ValueError", "boom"⟩), .resume 1 (.clock 1), go 1, go 1, go 1]

/-- `build` returns, the actor crashes, the nested supervisor gives up, and the child is about to start over. -/
def sweptAway : List Action :=
  nesting { maxRestarts := 0 } ++ [.resume 1 .returned] ++ busy "worker" 3 ++ crash 2 3 ++
    [go 2, go 2, go 1, .resume 1 (.clock 1), go 1, go 1, go 1]

/-- The task of the supervisor child with what is left of its first incarnation, and how the two belong together. -/
def leftover (system : System) : List (Option Task) × List Nat :=
  ([system.tasks[1]?, system.tasks[2]?, system.tasks[3]?],
    [(system.shared.children 0).task, (system.shared.children 0).nested,
      (system.shared.children 1).supervisor, system.shared.nextChild])

end Fixed

section Runs

variable {localId : String} {mailboxCapacity : Option Nat} {system : System}

theorem attended_of_reachable
    (hreach : Machine.ReachableWhere step (Meets tidy) (start localId mailboxCapacity) system) :
    WellFormed system ∧ Attended system := by
  refine WellFormed.invariant Attended (.start _ _)
    ⟨.start _ _, fun _ hlt => (nomatch hlt), .start _ _, .start _ _⟩ ?_ hreach
  intro system self input frame move hformed hattended hmeets hresumed
  have htidy := hresumed.meets hmeets
  obtain ⟨hsupervised, hplaced, hlisting, htended⟩ := hattended
  exact ⟨hsupervised.next hformed (tidy_cases htidy).1 hresumed,
    hplaced.next hformed.mirrored hresumed, hlisting.next hformed hsupervised.one hresumed,
    htended.next hformed hsupervised.one hplaced hlisting hresumed htidy⟩

/-- When a supervisor child is about to build its next supervisor, or has ended, everything below it has ended: the children of the last supervisor it has built, and theirs. -/
theorem no_orphans {child other : ChildId} {stage : ChildStage} {id : TaskId} {frame : Frame}
    (hreach : Machine.ReachableWhere step (Meets tidy) (start localId mailboxCapacity) system)
    (hat : At system (system.shared.children child).task (.child child stage))
    (hover : (∃ fresh, stage = .attempting fresh) ∨ ∃ outcome, stage = .finished outcome)
    (hbelow : Relation.TransGen (Spawned system.shared) child other)
    (hframe : At system id frame) (howner : frame.owner = some other) :
    system.shared.isDone id = true := by
  obtain ⟨hformed, ⟨-, hdriven, -⟩, hplaced, -, htended⟩ := attended_of_reachable hreach
  have hlt := hformed.known.frames _ _ hat child List.mem_cons_self
  have hended : ∀ id later, At system id (.child other later) →
      (Frame.child other later).isDone = true := by
    clear hframe howner
    induction hbelow with
    | single hspawned =>
        have htends : stage.tends = false := by
          rcases hover with ⟨_, rfl⟩ | ⟨_, rfl⟩ <;> rfl
        exact htended.ended_of_spawned hlt hat htends hspawned
    | @tail middle _ hmiddle hspawned ih =>
        -- the task of the child in between is done, so it has left its supervisor as well
        have hlt' : middle < system.shared.nextChild := by
          cases hmiddle with
          | single hspawned | tail _ hspawned => exact hspawned.2.1
        obtain ⟨later, hlater⟩ := hplaced middle hlt'
        have hdone := ih _ _ hlater
        have htends : later.tends = false := by
          cases later <;> first | rfl | cases hdone
        exact htended.ended_of_spawned hlt' hlater htends hspawned
  rw [hformed.mirrored.isDone_of_at hframe]
  cases frame with
  | child owner later =>
      cases howner
      exact hended _ _ hframe
  | driver owner mailbox later =>
      cases howner
      by_contra hlive
      obtain ⟨task, htask⟩ := hdriven _ _ _ _ hframe (Bool.eq_false_iff.mpr hlive)
      cases hended _ _ htask
  | _ => cases howner

theorem no_orphans_givenUp :
    ∃ system, Machine.ReachableWhere step (Meets tidy) (start "node" none) system ∧
      At system 1 (.child 0 (.attempting false)) ∧ Spawned system.shared 0 1 ∧
      system.shared.isDone 2 = true ∧ system.shared.isDone 3 = true := by
  have hrun : (Machine.runWhere step (Meets tidy) (start "node" none) Fixed.sweptAway).map
      Fixed.leftover = some ([some ⟨1, .child 0 (.attempting false)⟩,
        some ⟨2, .child 1 (.finished (.raised ⟨"ValueError", "boom"⟩))⟩,
        some ⟨3, .driver 1 1 (.finished (.raised ⟨"ValueError", "boom"⟩))⟩], [1, 1, 1, 2]) := by
    decide +kernel
  obtain ⟨system, hreach, hobserved⟩ := Machine.exists_reachableWhere hrun
  simp only [Fixed.leftover, Prod.mk.injEq, List.cons.injEq, and_true] at hobserved
  obtain ⟨⟨hsub, htask, hdriver⟩, hcurrent, hnested, hunder, hcount⟩ := hobserved
  have hspawned : Spawned system.shared 0 1 := by
    rw [Spawned, hnested, hunder, hcount]
    decide
  have hat : At system (system.shared.children 0).task (.child 0 (.attempting false)) := by
    rw [hcurrent]
    exact hsub
  exact ⟨system, hreach, hsub, hspawned,
    no_orphans hreach hat (.inl ⟨false, rfl⟩) (.single hspawned) htask rfl,
    no_orphans hreach hat (.inl ⟨false, rfl⟩) (.single hspawned) hdriver rfl⟩

/-- An actor that `build` has spawned before it raised is left running when the child starts over. -/
theorem orphan_of_failed_build :
    ∃ system, Machine.Reachable step (start "node" none) system ∧
      At system (system.shared.children 0).task (.child 0 (.attempting false)) ∧
      Spawned system.shared 0 1 ∧ At system 2 (.child 1 (.driving 3)) ∧
      system.shared.isDone 2 = false ∧ At system 3 (.driver 1 1 .getting) ∧
      system.shared.isDone 3 = false := by
  have hrun : (Machine.runWhere step (fun _ _ => True) (start "node" none) Fixed.halfBuilt).map
      (fun system => (Fixed.leftover system, system.shared.isDone 2, system.shared.isDone 3)) =
      some (([some ⟨1, .child 0 (.attempting false)⟩, some ⟨2, .child 1 (.driving 3)⟩,
        some ⟨3, .driver 1 1 .getting⟩], [1, 1, 1, 2]), false, false) := by
    decide +kernel
  obtain ⟨system, hreach, hobserved⟩ := Machine.exists_reachableWhere hrun
  simp only [Fixed.leftover, Prod.mk.injEq, List.cons.injEq, and_true] at hobserved
  obtain ⟨⟨⟨hsub, htask, hdriver⟩, hcurrent, hnested, hunder, hcount⟩, hlive, hlive'⟩ := hobserved
  refine ⟨system, hreach, ?_, ?_, htask, hlive, hdriver, hlive'⟩
  · rw [hcurrent]
    exact hsub
  · rw [Spawned, hnested, hunder, hcount]
    decide

end Runs

end LapinBeam.Actor
