import LapinBeam.Proof.Generations
import LapinBeam.Proof.RestartWindow

/-!
# Nobody is left waiting

When a generation ends, the actor's links and monitors are taken out of the tables and kept in a
local variable until it is known whether there will be another generation. They are lost if the task
is cancelled while it waits, if the backoff overflows, if reporting the exhausted budget raises, and
if the next attempt fails: its crash takes them out of tables that are empty by then. If the
generation ends in an exception that nobody catches, they are not even looked up. `Told` follows
them: the task still has them, or a restart is under way, or the signals have been sent.
-/

namespace LapinBeam.Actor

open Asyncio (TaskId)

def ChildStage.carries (obituary : Obituary) : ChildStage → Prop
  | .budgeting crash | .backingOff crash | .exhausted crash | .tearing crash _ _
  | .awaiting crash _ _ _ | .cancelling crash _ _ | .gathering crash _ => crash.obituary = obituary
  | .notifying carried _ _ => carried = obituary
  | _ => False

def ChildStage.restarting : ChildStage → Prop
  | .respawning _ | .attempting false => True
  | _ => False

/-- Nobody cancels the child's task between two generations, neither its backoff nor the report of an exhausted budget fails, and every attempt leads to a running generation. -/
def restartsSucceed (child : ChildId) : Condition
  | ⟨runtime, _⟩, _, .child owner (.budgeting _), _ => owner ≠ child ||
      (runtime.supervisorOf owner).settings.maxRestarts < 1024
  | ⟨runtime, _⟩, id, .child owner (.backingOff _), _ => owner ≠ child ||
      (!runtime.cancelled id && ((runtime.supervisorOf owner).affectedChildren owner).isSome)
  | _, _, .child owner (.exhausted _), input => owner ≠ child || input = .go
  | ⟨runtime, _⟩, id, .child owner (.gathering _ _), _ => owner ≠ child || !runtime.cancelled id
  | ⟨runtime, _⟩, _, .child owner (.attempting _), input => owner ≠ child ||
      match (runtime.children owner).mailbox with
      | none => true
      | some mailbox => input = .constructed none &&
          (runtime.registerError (runtime.children owner).name mailbox).isNone
  | ⟨runtime, _⟩, id, .driver owner _ .created, _ => owner ≠ child || !runtime.cancelled id
  | _, _, _, _ => true

inductive Told (system : System) (task : TaskId) (child : ChildId) (obituary : Obituary)
    (bound : TaskId) : Prop
  | carrying {stage : ChildStage} (hat : At system task (.child child stage))
      (hcarries : stage.carries obituary)
  | restarting {stage : ChildStage} (hat : At system task (.child child stage))
      (hrestarting : stage.restarting)
  | launching {driver : TaskId} {mailbox : MailboxId}
      (hat : At system task (.child child (.driving driver))) (hbound : bound ≤ driver)
      (hdriver : At system driver (.driver child mailbox .created))
  | started {driver : TaskId} {mailbox : MailboxId} {stage : DriverStage} (hbound : bound ≤ driver)
      (hdriver : At system driver (.driver child mailbox stage)) (hstarted : stage ≠ .created)
  | issued (reason : String)
      (hissued : ∀ signal ∈ obituary.deliveries (system.shared.children child).name reason,
        ∃ id frame, At system id frame ∧ frame.role = .delivery signal)

section Step

variable {system : System} {self : TaskId} {input : Input} {frame : Frame} {move : Move}
  {task : TaskId} {child : ChildId} {obituary : Obituary} {bound : TaskId} {mailbox : MailboxId}

theorem Known.name_next (hknown : Known system) (move : Move) (self : TaskId) {id : TaskId}
    {stage : ChildStage} (hat : At system id (.child child stage)) :
    ((move.next system self).shared.children child).name = (system.shared.children child).name :=
  (sameChild_next move self (hknown.frames _ _ hat child List.mem_cons_self)).name

theorem told_of_carries (hformed : WellFormed system) {stage : ChildStage}
    (hcarries : stage.carries obituary)
    (hsucceed : restartsSucceed child system self (.child child stage) input = true)
    (hresumed : Resumed system self input (.child child stage) move) :
    Told (move.next system self) self child obituary bound := by
  have hself := Mirrored.at_next_self hresumed
  have hname := hformed.known.name_next move self hresumed.here
  cases hresumed.stretch with
  | @notified _ carried reason outcome =>
      obtain rfl : carried = obituary := hcarries
      refine .issued reason fun signal hsignal => ?_
      rw [hname] at hsignal
      obtain ⟨offset, hoffset⟩ := List.mem_iff_getElem?.mp hsignal
      refine ⟨_, .delivery signal, hformed.mirrored.at_next_spawned offset ?_, rfl⟩
      simp [hoffset]
  | tornAll => exact .restarting hself trivial
  | sleepCancelled hcancelled | gatherCancelled hcancelled =>
      simp [restartsSucceed, hcancelled] at hsucceed
  | unlisted haffected => simp [restartsSucceed, haffected] at hsucceed
  | overflowed _ hallowed hraised =>
      have hlarge := Runtime.maxRestarts_of_overflow hallowed hraised
      simp only [restartsSucceed, ne_eq, not_true_eq_false, decide_false, Bool.false_or,
        decide_eq_true_eq] at hsucceed
      omega
  | reportEscaped =>
      obtain rfl : input = .go := by simpa [restartsSucceed] using hsucceed
      have hmove := hresumed.eq_some
      simp only [Frame.move, ChildStage.move] at hmove
      split at hmove <;> cases hmove
  | granted | refused | giveUpAlone | giveUpAll | cancelOther | gather | nobodyElse | gathered
  | woken | alreadyDone | tear | torn => exact .carrying hself hcarries
  | _ => cases hcarries

theorem told_of_restarting (hformed : WellFormed system) {stage : ChildStage}
    (hactor : (system.shared.children child).kind = .actor mailbox)
    (hbound : bound ≤ system.shared.nextTask) (hrestarting : stage.restarting)
    (hsucceed : restartsSucceed child system self (.child child stage) input = true)
    (hresumed : Resumed system self input (.child child stage) move) :
    Told (move.next system self) self child obituary bound := by
  have hself := Mirrored.at_next_self hresumed
  cases stage with
  | respawning rest =>
      cases hresumed.stretch <;> exact .restarting hself trivial
  | attempting fresh =>
      cases fresh with
      | true => cases hrestarting
      | false =>
          have hmove := hresumed.eq_some
          simp only [restartsSucceed, Child.mailbox, hactor, ne_eq, not_true_eq_false, decide_false,
            Bool.false_or, Bool.and_eq_true, decide_eq_true_eq, Option.isNone_iff_eq_none]
            at hsucceed
          obtain ⟨rfl, hfree⟩ := hsucceed
          simp only [Frame.move, ChildStage.move, Bool.false_and, Bool.false_eq_true, ↓reduceIte,
            hactor, hfree, Option.some.injEq] at hmove
          subst hmove
          exact .launching hself hbound (hformed.mirrored.at_next_spawned 0 rfl)
  | _ => cases hrestarting

theorem told_of_created (hbound : bound ≤ self)
    (hsucceed : restartsSucceed child system self (.driver child mailbox .created) input = true)
    (hresumed : Resumed system self input (.driver child mailbox .created) move) :
    Told (move.next system self) task child obituary bound := by
  have hself := Mirrored.at_next_self hresumed
  cases hresumed.stretch with
  | driverStarted => exact .started hbound hself (by simp)
  | driverCancelled _ hcancelled => simp [restartsSucceed, hcancelled] at hsucceed

theorem Stretch.of_started {runtime : Runtime} {stage : DriverStage}
    (hstretch : Stretch runtime self (.driver child mailbox stage) move) :
    ∃ later, move.frame = .driver child mailbox later ∧ later ≠ .created := by
  cases hstretch <;> exact ⟨_, rfl, by simp⟩

theorem Told.next (hformed : WellFormed system)
    (hactor : (system.shared.children child).kind = .actor mailbox)
    (hspawned : child < system.shared.nextChild) (hbound : bound ≤ system.shared.nextTask)
    (htold : Told system task child obituary bound)
    (hsucceed : restartsSucceed child system self frame input = true)
    (hresumed : Resumed system self input frame move) :
    Told (move.next system self) task child obituary bound := by
  have hframe : ∀ {other}, At system self other → frame = other := fun hat =>
    congrArg Task.frame (Option.some.inj (hresumed.here.symm.trans hat))
  cases htold with
  | carrying hat hcarries =>
      by_cases heq : task = self
      · subst heq
        obtain rfl := hframe hat
        exact told_of_carries hformed hcarries hsucceed hresumed
      · exact .carrying (Mirrored.at_next_other heq hat) hcarries
  | restarting hat hrestarting =>
      by_cases heq : task = self
      · subst heq
        obtain rfl := hframe hat
        exact told_of_restarting hformed hactor hbound hrestarting hsucceed hresumed
      · exact .restarting (Mirrored.at_next_other heq hat) hrestarting
  | @launching driver mailbox hat hle hdriver =>
      by_cases heq : driver = self
      · subst heq
        obtain rfl := hframe hdriver
        exact told_of_created hle hsucceed hresumed
      · refine .launching (Mirrored.at_next_other ?_ hat) hle (Mirrored.at_next_other heq hdriver)
        rintro rfl
        have hdone := hformed.mirrored.isDone_of_driving hat hresumed.ready
        rw [hformed.mirrored.isDone_of_at hdriver] at hdone
        cases hdone
  | @started driver mailbox stage hle hdriver hstarted =>
      by_cases heq : driver = self
      · subst heq
        obtain rfl := hframe hdriver
        obtain ⟨later, hlater, hne⟩ := hresumed.stretch.of_started
        exact .started hle (hlater ▸ Mirrored.at_next_self hresumed) hne
      · exact .started hle (Mirrored.at_next_other heq hdriver) hstarted
  | issued reason hissued =>
      refine .issued reason fun signal hsignal => ?_
      rw [(Known.sameChild_next move self hspawned).name] at hsignal
      obtain ⟨id, other, hat, hrole⟩ := hissued signal hsignal
      by_cases heq : id = self
      · subst heq
        obtain rfl := hframe hat
        exact ⟨id, _, Mirrored.at_next_self hresumed, hresumed.stretch.role_eq.trans hrole⟩
      · exact ⟨id, other, Mirrored.at_next_other heq hat, hrole⟩

theorem told_of_driving {driver : TaskId}
    (hcaught : ∀ exc, system.shared.outcomeOf driver ≠ .escaped exc)
    (hresumed : Resumed system self input (.child child (.driving driver)) move) :
    Told (move.next system self) self child
      (system.shared.signals.obituary (system.shared.children child).name) bound := by
  have hself := Mirrored.at_next_self hresumed
  cases hresumed.stretch with
  | escaped _ hescaped => exact absurd hescaped (hcaught _)
  | _ => exact .carrying hself rfl

end Step

theorem Frame.isDone_child {child : ChildId} {stage : ChildStage}
    (hdone : (Frame.child child stage).isDone = true) : ∃ outcome, stage = .finished outcome := by
  cases stage with
  | finished outcome => exact ⟨outcome, rfl⟩
  | attempting fresh => cases fresh <;> cases hdone
  | _ => cases hdone

/-- Whoever was linked to a generation that ended, or monitored it, is sent a signal if there is no other generation, in every run in which restarts succeed and `_run_actor_child` catches what the generation raised. -/
theorem ended_generation_is_told {localId : String} {mailboxCapacity : Option Nat}
    {before after later : System} {task driver : TaskId} {child : ChildId}
    (hbefore : Machine.Reachable step (start localId mailboxCapacity) before)
    (hat : At before task (.child child (.driving driver)))
    (hcaught : ∀ exc, before.shared.outcomeOf driver ≠ .escaped exc)
    (hstep : step before (.resume task .go) = some after)
    (hlater : Machine.ReachableWhere step (Meets (restartsSucceed child)) after later)
    (hdone : later.shared.isDone task = true)
    (hnever : ∀ id mailbox stage, At later id (.driver child mailbox stage) →
      before.shared.nextTask ≤ id → stage = .created) :
    ∃ reason, ∀ signal ∈ (before.shared.signals.obituary
        (before.shared.children child).name).deliveries (before.shared.children child).name reason,
      ∃ id, At later id (.delivery signal) ∨ At later id (.delivered signal) := by
  obtain ⟨hformed, -⟩ := WellFormed.invariant (fun _ => True) (.start _ _) trivial
    (fun _ _ _ _ _ _ _ _ _ => trivial) hbefore
  have hspawned := hformed.known.frames _ _ hat child List.mem_cons_self
  obtain ⟨mailbox, stage, hdriver⟩ := hformed.known.drives _ _ _ hat
  have hactor := hformed.known.reads _ _ _ _ hdriver
  obtain ⟨self, input, frame, move, hresumed, hresume, rfl⟩ := hformed.mirrored.step_cases hstep
  cases hresume
  obtain rfl : frame = .child child (.driving driver) := hresumed.here.unique hat
  have hinv : WellFormed later ∧ SameChild (before.shared.children child)
      (later.shared.children child) ∧ child < later.shared.nextChild ∧
      before.shared.nextTask ≤ later.shared.nextTask ∧ Told later task child
        (before.shared.signals.obituary (before.shared.children child).name)
        before.shared.nextTask := by
    refine WellFormed.invariant (fun later => SameChild (before.shared.children child)
      (later.shared.children child) ∧ child < later.shared.nextChild ∧
      before.shared.nextTask ≤ later.shared.nextTask ∧ Told later task child
        (before.shared.signals.obituary (before.shared.children child).name)
        before.shared.nextTask) (hformed.next hresumed)
      ⟨Known.sameChild_next move task hspawned, Known.lt_next task (.inl hspawned), ?_,
        told_of_driving hcaught hresumed⟩ ?_ hlater
    · rw [nextTask_next]
      exact Nat.le_add_right _ _
    · rintro system self input frame move hformed ⟨hsame, hlt, hle, htold⟩ hmeets hresumed
      have hnext := Known.sameChild_next move self hlt
      refine ⟨hsame.trans hnext, Known.lt_next self (.inl hlt), ?_,
        htold.next hformed (hsame.kind.trans hactor) hlt hle (hresumed.meets hmeets) hresumed⟩
      rw [nextTask_next]
      exact Nat.le_trans hle (Nat.le_add_right _ _)
  obtain ⟨hformed', hsame, -, -, htold⟩ := hinv
  have hfinished : ∀ {stage}, At later task (.child child stage) →
      ∃ outcome, stage = .finished outcome := fun hat =>
    Frame.isDone_child ((hformed'.mirrored.isDone_of_at hat).symm.trans hdone)
  cases htold with
  | carrying hat hcarries =>
      obtain ⟨outcome, rfl⟩ := hfinished hat
      cases hcarries
  | restarting hat hrestarting =>
      obtain ⟨outcome, rfl⟩ := hfinished hat
      cases hrestarting
  | launching hat =>
      obtain ⟨outcome, heq⟩ := hfinished hat
      cases heq
  | started hbound hdriver hstarted => exact absurd (hnever _ _ _ hdriver hbound) hstarted
  | issued reason hissued =>
      refine ⟨reason, fun signal hsignal => ?_⟩
      obtain ⟨id, frame, hat, hrole⟩ := hissued signal (hsame.name ▸ hsignal)
      refine ⟨id, ?_⟩
      cases frame <;> cases hrole
      · exact .inl hat
      · exact .inr hat

namespace Fixed

def obituary : Obituary := ⟨[], [(7, ⟨none, "watcher"⟩)]⟩

def cancelled : List Action := watched .oneForOne ++ [ask (.cancelTask 0), go 0, go 3]

def raised : List Action :=
  watched .oneForOne ++ busy "worker" 3 ++ [.resume 3 (.raised ⟨"ValueError", "boom"⟩)]

def givenUp : List Action := [.resume 1 (.clock 1), ask (.cancelTask 0), go 0, go 1]

def idle (system : System) : Bool :=
  system.tasks.all fun task =>
    match task.frame with
    | .driver 0 _ _ => task.id < 5
    | _ => true

theorem never_of_idle {system : System} (hidle : idle system = true) (id : TaskId)
    (mailbox : MailboxId) (stage : DriverStage) (hat : At system id (.driver 0 mailbox stage))
    (hbound : 5 ≤ id) : stage = .created := by
  have hold := List.all_eq_true.mp hidle _ (List.mem_of_getElem? hat)
  exact absurd (of_decide_eq_true hold) (Nat.not_lt.mpr hbound)

end Fixed

theorem ended_generation_is_told_cancelled :
    ∃ before after later, Machine.Reachable step (start "node" none) before ∧
      At before 1 (.child 0 (.driving 3)) ∧ before.shared.outcomeOf 3 = .cancelled ∧
      step before (Fixed.go 1) = some after ∧
      Machine.ReachableWhere step (Meets (restartsSucceed 0)) after later ∧
      later.shared.isDone 1 = true ∧ ∃ reason id,
        At later id (.delivery (.down 7 "worker" reason)) ∨
          At later id (.delivered (.down 7 "worker" reason)) := by
  have hrun : (Machine.runWhere step (fun _ _ => True) (start "node" none)
      Fixed.cancelled).map (fun before => (before.tasks[1]?,
        decide (before.shared.outcomeOf 3 = .cancelled ∧ before.shared.nextTask = 5 ∧
          (before.shared.children 0).name = "worker" ∧
          before.shared.signals.obituary "worker" = Fixed.obituary),
        (step before (Fixed.go 1)).bind fun after =>
          (Machine.runWhere step (Meets (restartsSucceed 0)) after [Fixed.go 1]).map fun later =>
            (later.shared.isDone 1, Fixed.idle later))) =
      some (some ⟨1, .child 0 (.driving 3)⟩, true, some (true, true)) := by
    decide +kernel
  obtain ⟨before, hreach, hobserved⟩ := Machine.exists_reachableWhere hrun
  simp only [Prod.mk.injEq, decide_eq_true_eq] at hobserved
  obtain ⟨hat, ⟨houtcome, hnext, hname, hobituary⟩, hrest⟩ := hobserved
  obtain ⟨after, hafter, hlater⟩ := Option.bind_eq_some_iff.mp hrest
  obtain ⟨later, hreach', hobserved'⟩ := Machine.exists_reachableWhere hlater
  obtain ⟨hdone, hidle⟩ := Prod.mk.inj hobserved'
  refine ⟨before, after, later, hreach, hat, houtcome, hafter, hreach', hdone, ?_⟩
  obtain ⟨reason, htold⟩ := ended_generation_is_told hreach hat (by simp [houtcome]) hafter hreach'
    hdone (fun id mailbox stage hdriver hle => Fixed.never_of_idle hidle id mailbox stage hdriver
      (hnext ▸ hle))
  rw [hname, hobituary] at htold
  exact ⟨reason, htold _ (by simp [Obituary.deliveries, Fixed.obituary])⟩

/-- A watcher of an actor that is cancelled in its backoff is never told. -/
theorem ended_generation_not_told :
    ∃ before after later, Machine.Reachable step (start "node" none) before ∧
      At before 1 (.child 0 (.driving 3)) ∧ step before (Fixed.go 1) = some after ∧
      Machine.Reachable step after later ∧ later.shared.isDone 1 = true ∧
      (∀ id mailbox stage, At later id (.driver 0 mailbox stage) →
        before.shared.nextTask ≤ id → stage = .created) ∧
      before.shared.signals.obituary (before.shared.children 0).name = Fixed.obituary ∧
      ∀ task ∈ later.tasks, ∀ signal, task.frame.role ≠ .delivery signal := by
  have hrun : (Machine.runWhere step (fun _ _ => True) (start "node" none)
      Fixed.raised).map (fun before => (before.tasks[1]?,
        decide (before.shared.nextTask = 5 ∧
          before.shared.signals.obituary (before.shared.children 0).name = Fixed.obituary),
        (step before (Fixed.go 1)).bind fun after =>
          (Machine.runWhere step (fun _ _ => True) after Fixed.givenUp).map fun later =>
            (later.shared.isDone 1, Fixed.idle later, later.tasks.all fun task =>
              match task.frame.role with
              | .delivery _ => false
              | _ => true))) =
      some (some ⟨1, .child 0 (.driving 3)⟩, true, some (true, true, true)) := by
    decide +kernel
  obtain ⟨before, hreach, hobserved⟩ := Machine.exists_reachableWhere hrun
  simp only [Prod.mk.injEq, decide_eq_true_eq] at hobserved
  obtain ⟨hat, ⟨hnext, hobituary⟩, hrest⟩ := hobserved
  obtain ⟨after, hafter, hlater⟩ := Option.bind_eq_some_iff.mp hrest
  obtain ⟨later, hreach', hobserved'⟩ := Machine.exists_reachableWhere hlater
  simp only [Prod.mk.injEq] at hobserved'
  obtain ⟨hdone, hidle, hsilent⟩ := hobserved'
  refine ⟨before, after, later, hreach, hat, hafter, hreach', hdone, ?_, hobituary, ?_⟩
  · intro id mailbox stage hdriver hle
    exact Fixed.never_of_idle hidle id mailbox stage hdriver (hnext ▸ hle)
  · intro task hmem signal hrole
    have hother := List.all_eq_true.mp hsilent task hmem
    simp [hrole] at hother

end LapinBeam.Actor
