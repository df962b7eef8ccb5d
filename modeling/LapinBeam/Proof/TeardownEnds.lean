import LapinBeam.Lib.Execution
import LapinBeam.Proof.Teardown
import Mathlib.Data.Prod.Lex
import Mathlib.Data.Set.Finite.List
import Mathlib.Order.Filter.Finite

/-!
# Tasks that are torn down end

A task on its way out takes finitely many steps of its own, as `distance` goes down with each of
them. What keeps it from the next one is its driver, which has been cancelled, or the tasks of
younger children. So under a fair event loop it ends, as long as no more children are spawned in
between than there are steps.
-/

namespace LapinBeam.Actor

open Asyncio (TaskId Loop Future)
open Filter

structure Calm (system : System) : Prop where
  formed : WellFormed system
  supervised : Supervised system
  orderly : Orderly system

abbrev Schedule (start : System) := Machine.Execution step (Meets calm) start

def Enabled (system : System) (id : TaskId) : Prop :=
  ∃ input, (step system (.resume id input)).isSome = true

def Fair {start : System} (schedule : Schedule start) : Prop :=
  ∀ id, (∀ᶠ n in atTop, (schedule.state n).shared.running = none →
      Enabled (schedule.state n) id) →
    ∃ᶠ n in atTop, ∃ input, schedule.action n = .resume id input

def ChildStage.distance : ChildStage → ℕ ×ₗ ℕ
  | .finished _ => toLex (0, 0)
  | .notifying _ _ _ => toLex (1, 0)
  | .gathering _ _ | .draining _ => toLex (2, 0)
  | .cancelling _ rest _ | .closing rest _ => toLex (3, rest.length)
  | .exhausted _ => toLex (4, 0)
  | _ => toLex (5, 0)

def distance (task : TaskId) (system : System) : ℕ ×ₗ ℕ :=
  match system.tasks[task]? with
  | some ⟨_, .child _ stage⟩ => stage.distance
  | _ => toLex (0, 0)

section Step

variable {system : System} {self task : TaskId} {input : Input} {frame : Frame} {move : Move}
  {child : ChildId} {stage : ChildStage}

theorem Calm.next (hcalm : Calm system) (hmeets : calm system self frame input = true)
    (hresumed : Resumed system self input frame move) : Calm (move.next system self) where
  formed := hcalm.formed.next hresumed
  supervised := hcalm.supervised.next hcalm.formed (calm_cases hmeets).1 hresumed
  orderly := hcalm.orderly.next hcalm.formed hcalm.supervised hmeets hresumed

theorem distance_of_at (hat : At system task (.child child stage)) :
    distance task system = stage.distance := by
  have hlookup : system.tasks[task]? = some ⟨task, .child child stage⟩ := hat
  simp [distance, hlookup]

theorem Stretch.distance_lt {runtime : Runtime} {later : ChildStage}
    (hstretch : Stretch runtime self (.child child stage) move) (hleaving : stage.leaving = true)
    (heq : move.frame = .child child later) : later.distance < stage.distance := by
  cases hstretch <;> cases heq <;>
    first | (cases hleaving; done) | simp [ChildStage.distance, Prod.Lex.toLex_lt_toLex]

theorem ChildStage.distance_lt_of_leaving {later : ChildStage} (hleaving : stage.leaving = false)
    (hlater : later.leaving = true) : later.distance < stage.distance := by
  have hstage : stage.distance = toLex (5, 0) := by
    cases stage <;> first | rfl | cases hleaving
  rw [hstage]
  cases later <;> first | (cases hlater; done) |
    simp [ChildStage.distance, Prod.Lex.toLex_lt_toLex]

theorem Ending.distance_next_lt (hmirrored : Mirrored system) (hending : Ending system self child)
    (hunwinds : unwinds system self frame input = true)
    (hresumed : Resumed system self input frame move) :
    distance self (move.next system self) < distance self system := by
  obtain ⟨stage, hat⟩ := hending.exists_at
  obtain rfl := hresumed.here.unique hat
  obtain ⟨later, heq, hlater⟩ := hending.leaving_of_resumed hmirrored hunwinds hresumed
  rw [distance_of_at hat, distance_of_at (heq ▸ Mirrored.at_next_self hresumed)]
  cases hleaving : stage.leaving with
  | true => exact hresumed.stretch.distance_lt hleaving heq
  | false => exact ChildStage.distance_lt_of_leaving hleaving hlater

theorem enabled_of_move (input : Input) (hat : At system task frame) (hidle : system.shared.running = none)
    (hready : system.shared.loop.ready task = true)
    (hmove : (frame.move system.shared task input).isSome = true) : Enabled system task := by
  obtain ⟨move, hmove⟩ := Option.isSome_iff_exists.mp hmove
  have hresumed : Resumed system task input frame move :=
    ⟨hat, by simp [Runtime.resumable, hidle, hready], hmove⟩
  exact ⟨input, Option.isSome_iff_exists.mpr ⟨_, hresumed.step_eq⟩⟩

theorem Ending.enabled (hmirrored : Mirrored system) (hending : Ending system task child)
    (hidle : system.shared.running = none) (hready : system.shared.loop.ready task = true) :
    Enabled system task := by
  cases hending with
  | @parked stage hat hparked hcancelled =>
      cases stage with
      | attempting fresh =>
          refine enabled_of_move .go hat hidle hready ?_
          obtain rfl : fresh = true := hparked
          simp [Frame.move, ChildStage.move, hcancelled]
      | building => exact enabled_of_move .unwound hat hidle hready rfl
      | backingOff | waiting =>
          refine enabled_of_move .go hat hidle hready ?_
          simp [Frame.move, ChildStage.move, hcancelled]
      | _ => cases hparked
  | @cancelled driver hat hexit hcancelled =>
      refine enabled_of_move .go hat hidle hready ?_
      simp [Frame.move, ChildStage.move, hcancelled]
  | @driving driver hat hexit hdriver =>
      refine enabled_of_move .go hat hidle hready ?_
      cases houtcome : system.shared.outcomeOf driver <;>
        simp [Frame.move, ChildStage.move, houtcome] <;> split <;> rfl
  | @leaving stage hat hleaving =>
      have hawait := hmirrored.await _ _ hat
      have hrunning : (Frame.child child stage).await ≠ .running := by
        intro hrunning
        cases hidle.symm.trans (hmirrored.running _ _ hat hrunning)
      cases stage with
      | finished => simp [Loop.ready, hawait, Frame.await, ChildStage.await] at hready
      | gathering =>
          refine enabled_of_move .go hat hidle hready ?_
          simp only [Frame.move, ChildStage.move]
          split <;> rfl
      | draining => exact enabled_of_move .go hat hidle hready rfl
      | exhausted | cancelling | notifying | closing => exact absurd rfl hrunning
      | _ => cases hleaving

theorem DriverEnding.enabled (hmirrored : Mirrored system) {driver : TaskId}
    (hdriver : DriverEnding system driver) (hlive : system.shared.isDone driver = false)
    (hidle : system.shared.running = none) : Enabled system driver := by
  cases hdriver with
  | ended hat =>
      rw [hmirrored.isDone_of_at hat] at hlive
      cases hlive
  | @marked owner mailbox stage hat hlive hcancelled =>
      have hready : system.shared.loop.ready driver = true := by
        simp [Loop.ready, hmirrored.await _ _ hat, Frame.await, DriverStage.await_of_live hlive]
      cases stage with
      | created | getting =>
          refine enabled_of_move .go hat hidle hready ?_
          simp [Frame.move, DriverStage.move, hcancelled]
      | handling => exact enabled_of_move .unwound hat hidle hready rfl
      | finished => cases hlive

theorem Ending.driverEnding (hmirrored : Mirrored system) (hending : Ending system task child)
    {driver : TaskId} (hat : At system task (.child child (.driving driver))) :
    system.shared.isDone driver = true ∨ DriverEnding system driver := by
  cases hending with
  | parked hother hstage | leaving hother hstage => cases hother.unique hat; cases hstage
  | cancelled hother _ hcancelled =>
      exact .inl (hmirrored.settled task driver hcancelled (hmirrored.await _ _ hat))
  | driving hother _ hdriver =>
      cases hother.unique hat
      exact .inr hdriver

end Step

section Runs

variable {start : System} (schedule : Schedule start) {n : ℕ} {task : TaskId} {child : ChildId}

theorem Schedule.resumed (hformed : WellFormed (schedule.state n)) :
    ∃ self input frame move, Resumed (schedule.state n) self input frame move ∧
      calm (schedule.state n) self frame input = true ∧ schedule.action n = .resume self input ∧
      schedule.state (n + 1) = move.next (schedule.state n) self := by
  obtain ⟨self, input, frame, move, hresumed, haction, hnext⟩ :=
    hformed.mirrored.step_cases (schedule.step_eq n)
  exact ⟨self, input, frame, move, hresumed, hresumed.meets (haction ▸ schedule.permitted n),
    haction, hnext⟩

theorem Schedule.calm (hstart : Calm start) (n : ℕ) : Calm (schedule.state n) := by
  refine schedule.always hstart (fun n hcalm => ?_) n
  obtain ⟨self, input, frame, move, hresumed, hmeets, -, hnext⟩ := schedule.resumed hcalm.formed
  exact hnext ▸ hcalm.next hmeets hresumed

theorem Schedule.eventually_isDone (hstart : Calm start)
    (hdone : (schedule.state n).shared.isDone task = true) :
    ∀ᶠ m in atTop, (schedule.state m).shared.isDone task = true := by
  refine schedule.eventually_of_step
    (fun system => system.shared.isDone task = true) hdone fun m hdone => ?_
  have hformed := (schedule.calm hstart m).formed
  obtain ⟨self, input, frame, move, hresumed, -, -, hnext⟩ := schedule.resumed hformed
  exact hnext ▸ hformed.mirrored.isDone_next hresumed hdone

theorem Schedule.eventually_ending (hstart : Calm start)
    (hending : Ending (schedule.state n) task child) :
    ∀ᶠ m in atTop, Ending (schedule.state m) task child := by
  refine schedule.eventually_of_step (fun system => Ending system task child) hending fun m hending => ?_
  have hcalm := schedule.calm hstart m
  obtain ⟨self, input, frame, move, hresumed, hmeets, -, hnext⟩ := schedule.resumed hcalm.formed
  obtain ⟨-, -, -, hexits, hunwinds⟩ := calm_cases hmeets
  exact hnext ▸ hending.next hcalm.formed.mirrored hcalm.supervised.recorded hexits hunwinds hresumed

theorem Schedule.distance_cases (hcalm : Calm (schedule.state n))
    (hending : Ending (schedule.state n) task child) :
    (distance task (schedule.state (n + 1)) < distance task (schedule.state n)) ∨
      (∀ input, schedule.action n ≠ .resume task input) ∧
        ∀ stage, At (schedule.state n) task (.child child stage) →
          At (schedule.state (n + 1)) task (.child child stage) := by
  obtain ⟨self, input, frame, move, hresumed, hmeets, haction, hnext⟩ :=
    schedule.resumed hcalm.formed
  rw [hnext, haction]
  by_cases hself : task = self
  · subst hself
    exact .inl (hending.distance_next_lt hcalm.formed.mirrored (calm_cases hmeets).2.2.2.2 hresumed)
  · refine .inr ⟨fun other heq => ?_, fun stage hat => Mirrored.at_next_other hself hat⟩
    cases heq
    exact hself rfl

theorem Schedule.eventually_rests (hstart : Calm start)
    (hending : Ending (schedule.state n) task child) :
    (∀ᶠ m in atTop, ∀ input, schedule.action m ≠ .resume task input) ∧
      ∃ stage, ∀ᶠ m in atTop, At (schedule.state m) task (.child child stage) := by
  have hcalm := schedule.calm hstart
  have hevent := schedule.eventually_ending hstart hending
  have hconstant : ∀ᶠ m in atTop,
      distance task (schedule.state (m + 1)) = distance task (schedule.state m) := by
    refine schedule.eventually_constant (distance task) (hevent.mono fun m hending => ?_)
    rcases schedule.distance_cases (hcalm m) hending with hlt | ⟨-, hstays⟩
    · exact .inr hlt
    · obtain ⟨stage, hat⟩ := hending.exists_at
      exact .inl ((distance_of_at (hstays stage hat)).trans (distance_of_at hat).symm)
  have hrests := hevent.and hconstant |>.mono fun m hboth =>
    (schedule.distance_cases (hcalm m) hboth.1).resolve_left fun hlt =>
      absurd hboth.2 (ne_of_lt hlt)
  refine ⟨hrests.mono fun m => And.left, ?_⟩
  obtain ⟨first, hfirst⟩ := eventually_atTop.mp (hrests.and hevent)
  obtain ⟨stage, hat⟩ := (hfirst first le_rfl).2.exists_at
  refine ⟨stage, eventually_atTop.mpr ⟨first, fun m hm => ?_⟩⟩
  induction m, hm using Nat.le_induction with
  | base => exact hat
  | succ m hm ih => exact (hfirst m hm).1.2 stage ih

theorem Schedule.eventually_driver_isDone (hstart : Calm start) (hfair : Fair schedule)
    {driver : TaskId} (hending : ∀ᶠ m in atTop, Ending (schedule.state m) task child)
    (hat : ∀ᶠ m in atTop, At (schedule.state m) task (.child child (.driving driver))) :
    ∀ᶠ m in atTop, (schedule.state m).shared.isDone driver = true := by
  have hcalm := schedule.calm hstart
  by_contra hnever
  have hlive : ∀ m, (schedule.state m).shared.isDone driver = false := fun m =>
    Bool.eq_false_iff.mpr fun hdone => hnever (schedule.eventually_isDone hstart hdone)
  have hdriver : ∀ᶠ m in atTop, DriverEnding (schedule.state m) driver := by
    filter_upwards [hending, hat] with m hending hat
    refine (hending.driverEnding (hcalm m).formed.mirrored hat).resolve_left ?_
    rw [hlive m]
    exact Bool.false_ne_true
  have hsteps := hfair driver (hdriver.mono fun m hdriver =>
    hdriver.enabled (hcalm m).formed.mirrored (hlive m))
  obtain ⟨m, ⟨input, haction⟩, hdriver⟩ := (hsteps.and_eventually hdriver).exists
  obtain ⟨self, input', frame, move, hresumed, hmeets, haction', hnext⟩ :=
    schedule.resumed (hcalm m).formed
  cases haction.symm.trans haction'
  obtain ⟨owner, mailbox, heq⟩ := hdriver.ended_of_resumed (hcalm m).formed.mirrored
    (calm_cases hmeets).2.2.2.2 hresumed
  have hended := (hcalm (m + 1)).formed.mirrored.isDone_of_at
    (hnext ▸ heq ▸ Mirrored.at_next_self hresumed)
  rw [hlive (m + 1)] at hended
  cases hended

/-- A task on its way out ends. -/
theorem Schedule.eventually_ends (hstart : Calm start) (hfair : Fair schedule) {bound : ChildId}
    (hbound : ∀ᶠ n in atTop, (schedule.state n).shared.nextChild ≤ bound)
    (hending : Ending (schedule.state n) task child) :
    ∀ᶠ m in atTop, (schedule.state m).shared.isDone task = true := by
  have hcalm := schedule.calm hstart
  -- the tasks it waits for are those of younger children
  induction hgap : bound - child using Nat.strong_induction_on generalizing n task child with
  | _ gap ih =>
      have hevent := schedule.eventually_ending hstart hending
      obtain ⟨hrests, stage, hstays⟩ := schedule.eventually_rests hstart hending
      by_contra hnever
      -- if it were ready from some point on, it would take one more step
      have hblocked : ¬ ∀ᶠ m in atTop, (schedule.state m).shared.loop.ready task = true := by
        intro hready
        obtain ⟨m, ⟨input, haction⟩, hrest⟩ := (Frequently.and_eventually (hfair task
          (hevent.and hready |>.mono fun m hboth hidle =>
            hboth.1.enabled (hcalm m).formed.mirrored hidle hboth.2)) hrests).exists
        exact hrest input haction
      obtain ⟨m, hat, hending, hbound⟩ := (hstays.and (hevent.and hbound)).exists
      have hawait : ∀ᶠ m in atTop, ((schedule.state m).shared.loop task).await = stage.await :=
        hstays.mono fun m hat => (hcalm m).formed.mirrored.await _ _ hat
      cases stage with
      | driving driver =>
          refine hblocked ?_
          filter_upwards [hawait, schedule.eventually_driver_isDone hstart hfair hevent hstays]
            with m hawait hdone
          rw [Runtime.isDone] at hdone
          simp [Loop.ready, hawait, ChildStage.await, hdone]
      | draining tasks =>
          refine hblocked ?_
          have hdone : ∀ᶠ m in atTop, ∀ task ∈ {task | task ∈ tasks},
              (schedule.state m).shared.isDone task = true := by
            refine (eventually_all_finite (List.finite_toSet tasks)).mpr fun other hmem => ?_
            obtain ⟨younger, hlt, -, hcases⟩ := (hcalm m).orderly.drained task child _ _ _ hat rfl
              other hmem
            have hspawned := (hcalm m).formed.known.frames _ _ hat child List.mem_cons_self
            have hlower : bound - younger < gap := by
              have hle : child < bound := Nat.lt_of_lt_of_le hspawned hbound
              exact hgap ▸ Nat.sub_lt_sub_left hle hlt
            exact ih _ hlower (hcases.resolve_left List.not_mem_nil) rfl
          filter_upwards [hawait, hdone] with m hawait hdone
          simpa [Loop.ready, hawait, ChildStage.await, Runtime.isDone] using hdone
      | gathering => cases (hcalm m).orderly.granted task child _ hat
      | finished =>
          exact hnever (schedule.eventually_isDone hstart
            ((hcalm m).formed.mirrored.isDone_of_at hat))
      | awaiting =>
          cases hending with
          | parked hother hstage | leaving hother hstage => cases hother.unique hat; cases hstage
          | cancelled hother | driving hother => cases hother.unique hat
      | attempting fresh =>
          refine hblocked (hawait.mono fun m hawait => ?_)
          cases fresh <;> simp [Loop.ready, hawait, ChildStage.await]
      | _ =>
          refine hblocked (hawait.mono fun m hawait => ?_)
          simp [Loop.ready, hawait, ChildStage.await]

structure Torn (task : TaskId) (child : ChildId) (bound : TaskId) (system : System) : Prop where
  ending : Ending system task child
  old : ∀ driver, At system task (.child child (.driving driver)) → driver < bound

theorem Torn.next {system : System} {self bound : TaskId} {input : Input} {frame : Frame}
    {move : Move} (hcalm : Calm system) (htorn : Torn task child bound system)
    (hmeets : calm system self frame input = true)
    (hresumed : Resumed system self input frame move) :
    Torn task child bound (move.next system self) where
  ending := by
    obtain ⟨-, -, -, hexits, hunwinds⟩ := calm_cases hmeets
    exact htorn.ending.next hcalm.formed.mirrored hcalm.supervised.recorded hexits hunwinds hresumed
  old := by
    intro driver hat
    rcases hcalm.formed.mirrored.at_next hat with ⟨rfl, heq⟩ | ⟨-, hold⟩ | ⟨-, hspawned⟩
    · obtain ⟨mailbox, -, -, heffect⟩ := hresumed.stretch.of_driving heq
      obtain ⟨fresh, rfl, halone, -⟩ := hresumed.stretch.origin heffect
      rw [htorn.ending.not_attempting hresumed.here] at halone
      cases halone
    · exact htorn.old driver hold
    · cases hresumed.stretch.attempting_of_spawned hspawned

end Runs

theorem calm_of_reachable {localId : String} {mailboxCapacity : Option Nat} {system : System}
    (hreach : Machine.ReachableWhere step (Meets calm) (start localId mailboxCapacity) system) :
    Calm system := by
  obtain ⟨hformed, hcalm⟩ := WellFormed.invariant Calm (.start _ _)
    ⟨.start _ _, .start _ _, .start _ _⟩
    (fun _ _ _ _ _ _ hcalm hmeets hresumed => hcalm.next (hresumed.meets hmeets) hresumed) hreach
  exact hcalm

theorem torn_of_tear {system : System} {self : TaskId} {child sibling : ChildId} {crash : Crash}
    {siblings rest : List ChildId} {move : Move} (hcalm : Calm system)
    (hlive : system.shared.isDone (system.shared.children sibling).task = false)
    (hmeets : calm system self (.child child (.tearing crash siblings (sibling :: rest))) .go = true)
    (hresumed : Resumed system self .go
      (.child child (.tearing crash siblings (sibling :: rest))) move) :
    Torn (system.shared.children sibling).task sibling system.shared.nextTask
      (move.next system self) := by
  have hframe : move.frame =
      .child child (.awaiting crash siblings rest (system.shared.children sibling).task) := by
    have hmove := hresumed.eq_some
    simp only [Frame.move, ChildStage.move, hlive] at hmove
    cases hmove
    rfl
  have hknown := hcalm.formed.known
  have hspawned := hknown.frames _ _ hresumed.here sibling (by simp [Frame.mentions, ChildStage.siblings])
  obtain ⟨stage, htask⟩ := hcalm.orderly.placed sibling hspawned
  obtain ⟨owner, hending⟩ := (hcalm.next hmeets hresumed).orderly.awaited self child crash siblings
    rest _ (hframe ▸ Mirrored.at_next_self hresumed)
  obtain ⟨later, hlater⟩ := hresumed.exists_child_next htask
  obtain ⟨_, howner⟩ := hending.exists_at
  cases hlater.unique howner
  refine ⟨hending, fun driver hat => ?_⟩
  rcases hcalm.formed.mirrored.at_next hat with ⟨-, heq⟩ | ⟨-, hold⟩ | ⟨-, hspawned⟩
  · cases heq.trans hframe
  · obtain ⟨_, _, hdriver⟩ := hknown.drives _ _ _ hold
    exact hcalm.formed.mirrored.lt_of_at hdriver
  · cases hresumed.stretch.attempting_of_spawned hspawned

/-- Where each crash is granted a restart and no teardown crosses another one or an exit: nobody waits in a circle, and a task that was torn down starts no generation any more and, under a fair loop and with finitely many children, ends. -/
theorem crash_handlers_apart {localId : String} {mailboxCapacity : Option Nat}
    {before after : System} {self : TaskId} {child sibling : ChildId} {crash : Crash}
    {siblings rest : List ChildId}
    (hbefore : Machine.ReachableWhere step (Meets calm) (start localId mailboxCapacity) before)
    (hat : At before self (.child child (.tearing crash siblings (sibling :: rest))))
    (hlive : before.shared.isDone (before.shared.children sibling).task = false)
    (hmeets : Meets calm before (.resume self .go))
    (hstep : step before (.resume self .go) = some after) :
    (∀ system, Machine.ReachableWhere step (Meets calm) (start localId mailboxCapacity) system →
      ∀ id, ¬ Relation.TransGen (Awaits system) id id) ∧
    (∀ later driver, Machine.ReachableWhere step (Meets calm) after later →
      At later (before.shared.children sibling).task (.child sibling (.driving driver)) →
      driver < before.shared.nextTask) ∧
    ∀ (schedule : Schedule after) (bound : ChildId), Fair schedule →
      (∀ᶠ n in atTop, (schedule.state n).shared.nextChild ≤ bound) →
      ∀ᶠ n in atTop, (schedule.state n).shared.isDone (before.shared.children sibling).task = true := by
  have hcalm := calm_of_reachable hbefore
  obtain ⟨_, _, _, move, hresumed, hresume, rfl⟩ := hcalm.formed.mirrored.step_cases hstep
  cases hresume
  obtain rfl := hresumed.here.unique hat
  have hnext := hcalm.next (hresumed.meets hmeets) hresumed
  have htorn := torn_of_tear hcalm hlive (hresumed.meets hmeets) hresumed
  refine ⟨fun system hreach id => ?_, fun later driver hlater hdriver => ?_,
    fun schedule bound hfair hbound => ?_⟩
  · have hcalm := calm_of_reachable hreach
    exact not_transGen_awaits hcalm.formed.known hcalm.orderly
  · have hinv := WellFormed.invariant
      (fun system => Calm system ∧
        Torn (before.shared.children sibling).task sibling before.shared.nextTask system)
      hnext.formed ⟨hnext, htorn⟩
      (fun _ _ _ _ _ _ hinv hmeets hresumed => ⟨hinv.1.next (hresumed.meets hmeets) hresumed,
        hinv.2.next hinv.1 (hresumed.meets hmeets) hresumed⟩) hlater
    exact hinv.2.2.old driver hdriver
  · have hending := schedule.start_eq.symm ▸ htorn.ending
    exact schedule.eventually_ends hnext hfair hbound hending

namespace Fixed

def boom : Crash := ⟨⟨"ValueError", "boom"⟩, {}⟩

/-- Both actors have crashed, and `first` is back from its backoff. -/
def bothCrashed : List Action := pair ++ crash 2 4 ++ crash 1 3 ++ [go 2]

def recovering : List Action := [go 1, go 2, go 2, go 2, go 2] ++ launch 2 6 ++ launch 5 7

def ping : Action := ask (.sendLocal "nobody" (.user "ping"))

def stuck (runtime : Runtime) (task : Task) : Bool :=
  !runtime.resumable task.id ||
    match task.frame with
    | .driver _ mailbox .getting =>
        !runtime.cancelled task.id && (runtime.mailboxes mailbox).queue = []
    | _ => false

theorem not_enabled_of_stuck {system : System} {id : TaskId}
    (hstuck : ∀ task, system.tasks[id]? = some task → stuck system.shared task = true)
    (hmirrored : Mirrored system) : ¬ Enabled system id := by
  rintro ⟨input, hsome⟩
  obtain ⟨next, hstep⟩ := Option.isSome_iff_exists.mp hsome
  obtain ⟨_, _, frame, move, hresumed, hresume, -⟩ := hmirrored.step_cases hstep
  cases hresume
  have hstuck := hstuck _ hresumed.here
  have hmove := hresumed.eq_some
  simp only [stuck, hresumed.ready, Bool.not_true, Bool.false_or] at hstuck
  split at hstuck
  · simp only [Bool.and_eq_true, Bool.not_eq_true', decide_eq_true_eq] at hstuck
    cases input <;> simp [Frame.move, DriverStage.move, hstuck] at hmove
  · cases hstuck

theorem commit_again (runtime : Runtime) :
    (((runtime.commit 0 (.outside [])).enroll 0).commit 0 (.outside [])).enroll 0 =
      (runtime.commit 0 (.outside [])).enroll 0 := by
  simp only [Runtime.commit, Runtime.enroll, Nat.add_zero, Runtime.mk.injEq, and_self, and_true,
    true_and]
  funext task
  by_cases hle : runtime.nextTask ≤ task
  · simp [hle]
  · by_cases hzero : task = 0 <;> simp [hle, hzero]

theorem ping_again {system next : System} (hmirrored : Mirrored system)
    (hat : At system 0 (.outside [])) (hnobody : system.shared.names "nobody" = none)
    (hstep : step system ping = some next) : step next ping = some next := by
  obtain ⟨_, _, frame, move, hresumed, hresume, rfl⟩ := hmirrored.step_cases hstep
  cases hresume
  obtain rfl := hresumed.here.unique hat
  cases hresumed.eq_some
  -- what the call writes is what the call before it has written
  have hsame : system.shared.sendLocal "nobody" (.user "ping") = system.shared := by
    simp [Runtime.sendLocal, hnobody]
  set next := Move.next ⟨.sendLocal "nobody" (.user "ping"), .outside [], []⟩ system 0 with hnext
  have hshared : next.shared = (system.shared.commit 0 (.outside [])).enroll 0 := by
    show ((system.shared.sendLocal _ _).commit _ _).enroll _ = _
    rw [hsame]
    rfl
  have hat : At next 0 (.outside []) := Mirrored.at_next_self hresumed
  have hperform : program.perform next.shared ⟨0, .outside []⟩
      (.call (.sendLocal "nobody" (.user "ping"))) = some ⟨next.shared, ⟨0, .outside []⟩, []⟩ := by
    have hnames : next.shared.names "nobody" = none := by rw [hshared]; exact hnobody
    have hready : next.shared.resumable 0 = true := by
      rw [hshared]
      simp [Runtime.resumable, Runtime.commit, Runtime.enroll, Loop.ready, Frame.await]
    have hagain : ((next.shared.sendLocal "nobody" (.user "ping")).commit 0 (.outside [])).enroll 0 =
        next.shared := by
      rw [Runtime.sendLocal, hnames, hshared]
      exact commit_again _
    simp [program, hready, Frame.move, Call.move, Move.outcome, Effect.apply, hagain]
  rw [ping, ask, step, TaskSystem.step_resume_of_perform hat hperform]
  obtain ⟨hlt, heq⟩ := List.getElem?_eq_some_iff.mp hat
  simp [TaskSystem.State.after, ← heq]

theorem fair_of_ping {start rest : System} {schedule : Schedule start}
    (hloop : ∀ᶠ n in atTop, schedule.state n = rest ∧ schedule.action n = ping)
    (hidle : rest.shared.running = none) (hstuck : ∀ id, id ≠ 0 → ¬ Enabled rest id) :
    Fair schedule := by
  intro id hready
  by_cases hzero : id = 0
  · subst hzero
    exact (hloop.mono fun n hboth => ⟨_, hboth.2⟩).frequently
  · obtain ⟨n, ⟨hstate, -⟩, hready⟩ := (hloop.and hready).exists
    rw [hstate] at hready
    exact absurd (hready hidle) (hstuck id hzero)

end Fixed

theorem crash_handlers_apart_recovering :
    ∃ before after, Machine.ReachableWhere step (Meets calm) (start "node" none) before ∧
      At before 2 (.child 1 (.tearing Fixed.boom [0] [0])) ∧
      (before.shared.children 0).task = 1 ∧ step before (Fixed.go 2) = some after ∧
      (∀ id, ¬ Relation.TransGen (Awaits after) id id) ∧
      ∃ schedule : Schedule after, Fair schedule ∧
        ∀ᶠ n in atTop, (schedule.state n).shared.isDone 1 = true := by
  have hrun : (Machine.runWhere step (Meets calm) (start "node" none) Fixed.bothCrashed).map
      (fun before => (before.tasks[2]?,
        decide ((before.shared.children 0).task = 1 ∧ before.shared.isDone 1 = false ∧
          meets calm before (Fixed.go 2) = true),
        (step before (Fixed.go 2)).bind fun after =>
          (Machine.runWhere step (Meets calm) after Fixed.recovering).bind fun quiet =>
            (step quiet Fixed.ping).map fun rest =>
              decide (quiet.tasks[0]? = some ⟨0, .outside []⟩ ∧
                quiet.shared.names "nobody" = none ∧ meets calm quiet Fixed.ping = true ∧
                meets calm rest Fixed.ping = true ∧ rest.shared.running = none ∧
                (rest.tasks.all fun task => task.id = 0 || Fixed.stuck rest.shared task) = true))) =
      some (some ⟨2, .child 1 (.tearing Fixed.boom [0] [0])⟩, true, some true) := by
    decide +kernel
  obtain ⟨before, hreach, hobserved⟩ := Machine.exists_reachableWhere hrun
  simp only [Prod.mk.injEq, decide_eq_true_eq] at hobserved
  obtain ⟨hat, ⟨htask, hlive, hmeets⟩, hrest⟩ := hobserved
  obtain ⟨after, hafter, hrest⟩ := Option.bind_eq_some_iff.mp hrest
  obtain ⟨quiet, hquiet, hrest⟩ := Option.bind_eq_some_iff.mp hrest
  obtain ⟨rest, hidle, hobserved⟩ := Option.map_eq_some_iff.mp hrest
  obtain ⟨hzero, hnobody, hmeetsQuiet, hmeetsRest, hrunning, hstuck⟩ := of_decide_eq_true hobserved
  obtain ⟨hcycles, -, hends⟩ :=
    crash_handlers_apart hreach hat (htask ▸ hlive) hmeets hafter
  have hreachAfter : Machine.ReachableWhere step (Meets calm) (start "node" none) after :=
    .step _ hreach hmeets hafter
  have hreachQuiet := Machine.reachableWhere_of_runWhere hquiet
  have hreachRest : Machine.ReachableWhere step (Meets calm) after rest :=
    .step _ hreachQuiet hmeetsQuiet hidle
  have hformed : ∀ {system}, Machine.ReachableWhere step (Meets calm) after system →
      WellFormed system := fun hreach =>
    (WellFormed.invariant (fun _ => True) (calm_of_reachable hreachAfter).formed trivial
      (fun _ _ _ _ _ _ _ _ _ => trivial) hreach).1
  obtain ⟨schedule, hloop⟩ := Machine.Execution.exists_loop hreachRest hmeetsRest
    (Fixed.ping_again (hformed hreachQuiet).mirrored hzero hnobody hidle)
  have hfair : Fair schedule := by
    refine Fixed.fair_of_ping hloop hrunning fun id hne => ?_
    refine Fixed.not_enabled_of_stuck (fun task htask => ?_) (hformed hreachRest).mirrored
    have hone := List.all_eq_true.mp hstuck task (List.mem_of_getElem? htask)
    simpa [(hformed hreachRest).mirrored.identity id task htask, hne] using hone
  have hbound : ∀ᶠ n in atTop, (schedule.state n).shared.nextChild ≤ rest.shared.nextChild :=
    hloop.mono fun n hboth => hboth.1 ▸ le_rfl
  exact ⟨before, after, hreach, hat, htask, hafter, hcycles after hreachAfter, schedule, hfair,
    htask ▸ hends schedule _ hfair hbound⟩

namespace Fixed

/-- Under `rest_for_one`, `middle` has crashed and waits for `slow` to end; `elder` has crashed too, and is about to tear down both. -/
def crossing : List Action :=
  [ask (.newSupervisor { strategy := .restForOne }), ask (.spawn 0 "elder"),
    ask (.spawn 0 "middle"), ask (.spawn 0 "slow")] ++
    launch 1 4 ++ launch 2 5 ++ launch 3 6 ++ busy "elder" 4 ++ busy "middle" 5 ++ busy "slow" 6 ++
    crash 2 5 ++ [go 2, go 2] ++ crash 1 4 ++ [go 1]

def resurrecting : List Action :=
  [.resume 6 .unwound, go 3, go 3, go 2, go 2, go 2, go 2] ++ launch 2 8

end Fixed

/-- A child whose task was torn down by a sibling starts another generation, and the sibling waits on. -/
theorem torn_but_resurrected :
    ∃ before after later, Machine.Reachable step (start "node" none) before ∧
      At before 1 (.child 0 (.tearing Fixed.boom [1, 2] [1, 2])) ∧
      (before.shared.children 1).task = 2 ∧ before.shared.isDone 2 = false ∧
      step before (Fixed.go 1) = some after ∧ Machine.Reachable step after later ∧
      At later 2 (.child 1 (.driving 8)) ∧ before.shared.nextTask ≤ 8 ∧
      At later 8 (.driver 1 1 .getting) ∧
      At later 1 (.child 0 (.awaiting Fixed.boom [1, 2] [2] 2)) := by
  have hrun : (Machine.runWhere step (fun _ _ => True) (start "node" none) Fixed.crossing).map
      (fun before => (before.tasks[1]?,
        decide ((before.shared.children 1).task = 2 ∧ before.shared.isDone 2 = false ∧
          before.shared.nextTask ≤ 8),
        (step before (Fixed.go 1)).bind fun after =>
          (Machine.runWhere step (fun _ _ => True) after Fixed.resurrecting).map fun later =>
            decide (later.tasks[2]? = some ⟨2, .child 1 (.driving 8)⟩ ∧
              later.tasks[8]? = some ⟨8, .driver 1 1 .getting⟩ ∧
              later.tasks[1]? = some ⟨1, .child 0 (.awaiting Fixed.boom [1, 2] [2] 2)⟩))) =
      some (some ⟨1, .child 0 (.tearing Fixed.boom [1, 2] [1, 2])⟩, true, some true) := by
    decide +kernel
  obtain ⟨before, hreach, hobserved⟩ := Machine.exists_reachableWhere hrun
  simp only [Prod.mk.injEq, decide_eq_true_eq] at hobserved
  obtain ⟨hat, ⟨htask, hlive, hbound⟩, hrest⟩ := hobserved
  obtain ⟨after, hafter, hlater⟩ := Option.bind_eq_some_iff.mp hrest
  obtain ⟨later, hreach', hobserved'⟩ := Machine.exists_reachableWhere hlater
  obtain ⟨hdriving, hdriver, hawaiting⟩ := of_decide_eq_true hobserved'
  exact ⟨before, after, later, hreach, hat, htask, hlive, hafter, hreach', hdriving, hbound, hdriver,
    hawaiting⟩

end LapinBeam.Actor
