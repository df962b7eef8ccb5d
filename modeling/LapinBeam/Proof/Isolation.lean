import LapinBeam.Proof.Generations
import LapinBeam.Proof.RestartWindow

/-!
# One restart budget for all children

A `one_for_one` supervisor is said to keep unrelated children apart. Whether a crashed child is
restarted depends on `_restart_times`, though, and every child's restart is counted there. `replay`
is what would be decided if a child were alone under its supervisor, from the times of its own
crashes; the decisions agree with it, and so do not depend on the siblings, as long as the siblings'
restarts never use up what the child itself has not.
-/

namespace LapinBeam.Actor

open Asyncio (TaskId)

def Decision.verdict (decision : Decision) : ℚ × Bool := (decision.time, decision.granted)

namespace Supervisor

variable (supervisor : Supervisor)

def history : List (ℚ × Bool) := supervisor.decisions.map Decision.verdict

def historyOf (child : ChildId) : List (ℚ × Bool) :=
  (supervisor.decisions.filter fun decision => decision.child = child).map Decision.verdict

def crashTimes (child : ChildId) : List ℚ := (supervisor.historyOf child).map Prod.fst

def verdicts (child : ChildId) : List Bool := (supervisor.historyOf child).map Prod.snd

end Supervisor

/-- A child that has restarts left finds that its supervisor has, too. -/
def budgetsApart : Condition
  | system, _, .child child (.budgeting _), .clock now =>
      let supervisor := system.shared.supervisorOf child
      let settings := supervisor.settings
      settings.maxRestarts ≤ settings.recent (supervisor.historyOf child) now ||
        settings.recent supervisor.history now < settings.maxRestarts
  | _, _, _, _ => true

structure Supervisor.Budgeted (clock : ℚ) (supervisor : Supervisor) : Prop where
  window : ∀ now, clock ≤ now →
    (supervisor.restartTimes.filter fun time =>
        now - time < supervisor.settings.restartWindow).length =
      supervisor.settings.recent supervisor.history now
  alone : ∀ child, supervisor.historyOf child =
    supervisor.settings.replay (supervisor.crashTimes child)

namespace Supervisor

variable {supervisor : Supervisor} {clock now : ℚ} {child : ChildId}

theorem recent_historyOf_le :
    supervisor.settings.recent (supervisor.historyOf child) now ≤
      supervisor.settings.recent supervisor.history now :=
  (List.filter_sublist.map _).countP_le

theorem Budgeted.fresh (hempty : supervisor.decisions = []) (htimes : supervisor.restartTimes = []) :
    supervisor.Budgeted clock := by
  constructor
  · simp [htimes, history, hempty, Settings.recent]
  · simp [crashTimes, historyOf, hempty, Settings.replay]

theorem Budgeted.later (hbudgeted : supervisor.Budgeted clock) (hclock : clock ≤ now) :
    supervisor.Budgeted now :=
  ⟨fun later hlater => hbudgeted.window later (hclock.trans hlater), hbudgeted.alone⟩

theorem Budgeted.decide (hbudgeted : supervisor.Budgeted clock) (child : ChildId) (hclock : clock ≤ now)
    (happart : supervisor.settings.maxRestarts ≤
        supervisor.settings.recent (supervisor.historyOf child) now ∨
      supervisor.settings.recent supervisor.history now < supervisor.settings.maxRestarts) :
    Budgeted now { supervisor with
      restartTimes := (supervisor.allowRestart now).2
      decisions := supervisor.decisions ++ [⟨child, now, (supervisor.allowRestart now).1⟩] } where
  window := by
    have hwindowed : supervisor.Windowed clock supervisor.history := hbudgeted.window
    simpa [history, Decision.verdict, Windowed] using hwindowed.allowRestart hclock
  alone := by
    intro other
    have hbefore := hbudgeted.alone other
    by_cases hother : child = other
    · subst hother
      have hgranted : (supervisor.allowRestart now).1 = Decidable.decide
          ((supervisor.settings.recent (supervisor.historyOf child) now : Int) <
            supervisor.settings.maxRestarts) := by
        rw [Windowed.allowRestart_eq hbudgeted.window hclock]
        have hle : supervisor.settings.recent (supervisor.historyOf child) now ≤
            supervisor.settings.recent supervisor.history now := recent_historyOf_le
        refine decide_eq_decide.mpr ⟨fun hall => ?_, fun hown => ?_⟩ <;> omega
      have hhistory : historyOf { supervisor with
            restartTimes := (supervisor.allowRestart now).2
            decisions := supervisor.decisions ++ [⟨child, now, (supervisor.allowRestart now).1⟩] }
          child = supervisor.historyOf child ++ [(now, (supervisor.allowRestart now).1)] := by
        simp [historyOf, Decision.verdict]
      rw [crashTimes, hhistory, List.map_append, List.map_singleton, Settings.replay_append]
      rw [crashTimes] at hbefore
      rw [← hbefore, hgranted]
    · simpa [crashTimes, historyOf, hother] using hbefore

end Supervisor

structure SameBooks (before after : Supervisor) : Prop where
  settings : after.settings = before.settings
  restartTimes : after.restartTimes = before.restartTimes
  decisions : after.decisions = before.decisions

theorem SameBooks.budgeted {before after : Supervisor} {clock : ℚ} (hsame : SameBooks before after)
    (hbudgeted : before.Budgeted clock) : after.Budgeted clock := by
  constructor
  · simpa [Supervisor.history, hsame.settings, hsame.restartTimes, hsame.decisions]
      using hbudgeted.window
  · simpa [Supervisor.crashTimes, Supervisor.historyOf, hsame.settings, hsame.decisions]
      using hbudgeted.alone

section Step

variable (runtime : Runtime) (supervisor : SupervisorId)

theorem Effect.books_cases (effect : Effect) :
    SameBooks (runtime.supervisors supervisor) ((effect.apply runtime).supervisors supervisor) ∨
    (((effect.apply runtime).supervisors supervisor).decisions = [] ∧
      ((effect.apply runtime).supervisors supervisor).restartTimes = []) ∨
    ∃ child now, effect = .decide child now ∧ supervisor = (runtime.children child).supervisor := by
  have hchange := Effect.supervisor_change effect runtime supervisor
  generalize (effect.apply runtime).supervisors supervisor = after at hchange ⊢
  cases hchange with
  | decided hid => exact .inr (.inr ⟨_, _, rfl, hid⟩)
  | created => exact .inr (.inl ⟨rfl, rfl⟩)
  | _ => exact .inl ⟨rfl, rfl, rfl⟩

theorem Effect.clock_cases (effect : Effect) :
    (effect.apply runtime).clock = runtime.clock ∨ ∃ child now, effect = .decide child now := by
  cases hsignals : effect.signals with
  | true =>
      left
      cases Effect.signalled hsignals runtime with
      | quiet hquiet => obtain ⟨_, _, _, _, heq⟩ := hquiet; rw [heq]
      | kill _ _ hquiet => obtain ⟨_, _, _, _, heq⟩ := hquiet; rw [heq]; rfl
  | false =>
      cases effect with
      | decide child now => exact .inr ⟨_, _, rfl⟩
      | denied child exc =>
          left
          simp only [Effect.apply, Runtime.denied]
          split
          · split <;> rfl
          · rfl
      | cleanup child takeExit => cases takeExit <;> exact .inl rfl
      | spawn owner name kind => cases kind <;> exact .inl rfl
      | _ => first | (cases hsignals; done) | exact .inl rfl

end Step

section Decide

variable {system : System} {self : TaskId} {input : Input} {frame : Frame} {move : Move}

theorem Resumed.decide_cases {child : ChildId} {now : ℚ}
    (hresumed : Resumed system self input frame move) (heffect : move.effect = .decide child now) :
    (∃ crash, frame = .child child (.budgeting crash)) ∧ input = .clock now ∧
      system.shared.clock ≤ now := by
  obtain ⟨⟨crash, rfl⟩, hclock⟩ := hresumed.stretch.origin heffect
  refine ⟨⟨crash, rfl⟩, ?_, hclock⟩
  have hmove := hresumed.eq_some
  cases input with
  | clock later =>
      simp only [Frame.move, ChildStage.move] at hmove
      split at hmove
      · cases hmove
      · split at hmove
        · split at hmove <;> cases hmove <;> cases heffect <;> rfl
        · cases hmove
          cases heffect
          rfl
  | _ => cases hmove

theorem Resumed.clock_le (hresumed : Resumed system self input frame move) :
    system.shared.clock ≤ (move.effect.apply system.shared).clock := by
  rcases Effect.clock_cases system.shared move.effect with heq | ⟨child, now, heffect⟩
  · exact heq.ge
  · rw [heffect]
    exact (hresumed.decide_cases heffect).2.2

def Budgeted (system : System) : Prop :=
  ∀ supervisor, (system.shared.supervisors supervisor).Budgeted system.shared.clock

theorem Budgeted.next (hbudgeted : Budgeted system)
    (happart : budgetsApart system self frame input = true)
    (hresumed : Resumed system self input frame move) : Budgeted (move.next system self) := by
  intro supervisor
  show ((move.effect.apply system.shared).supervisors supervisor).Budgeted
    (move.effect.apply system.shared).clock
  have hbefore := hbudgeted supervisor
  rcases Effect.books_cases system.shared supervisor move.effect with
    hsame | ⟨hempty, htimes⟩ | ⟨child, now, heffect, rfl⟩
  · exact hsame.budgeted (hbefore.later hresumed.clock_le)
  · exact .fresh hempty htimes
  · obtain ⟨⟨crash, rfl⟩, rfl, hclock⟩ := hresumed.decide_cases heffect
    have hdecided := hbefore.decide child hclock
      ((Bool.or_eq_true_iff.mp happart).imp of_decide_eq_true of_decide_eq_true)
    rw [heffect]
    simpa [Effect.apply, Runtime.decideRestart, Runtime.updateSupervisorOf, Runtime.setSupervisor,
      Runtime.supervisorOf] using hdecided

end Decide

/-- Two children with the same crashes, under supervisors with the same settings, are restarted and given up at the same crashes, whatever their siblings do. -/
theorem restarts_isolated {localId localId' : String} {capacity capacity' : Option Nat}
    {first second : System} {supervisor supervisor' : SupervisorId} {child child' : ChildId}
    (hfirst : Machine.ReachableWhere step (Meets budgetsApart) (start localId capacity) first)
    (hsecond : Machine.ReachableWhere step (Meets budgetsApart) (start localId' capacity') second)
    (hsettings : (first.shared.supervisors supervisor).settings =
      (second.shared.supervisors supervisor').settings)
    (hcrashes : (first.shared.supervisors supervisor).crashTimes child =
      (second.shared.supervisors supervisor').crashTimes child') :
    (first.shared.supervisors supervisor).verdicts child =
      (second.shared.supervisors supervisor').verdicts child' := by
  have hbooks : ∀ {localId : String} {capacity : Option Nat} {system : System},
      Machine.ReachableWhere step (Meets budgetsApart) (start localId capacity) system →
      Budgeted system := by
    intro localId capacity system hreach
    refine (WellFormed.invariant Budgeted (.start _ _) ?_ ?_ hreach).2
    · exact fun _ => .fresh rfl rfl
    · intro system self input frame move _ hbudgeted hmeets hresumed
      exact hbudgeted.next (hresumed.meets hmeets) hresumed
  rw [Supervisor.verdicts, (hbooks hfirst supervisor).alone, hsettings, hcrashes,
    ← (hbooks hsecond supervisor').alone, Supervisor.verdicts]

namespace Fixed

def neighbours (maxRestarts : Int) : List Action :=
  [ask (.newSupervisor { maxRestarts }), ask (.spawn 0 "noisy"), ask (.spawn 0 "quiet")] ++
    launch 1 3 ++ launch 2 4 ++ busy "noisy" 3 ++ busy "quiet" 4

def alone (maxRestarts : Int) : List Action := neighbours maxRestarts ++ crash 2 4

def disturbed (maxRestarts : Int) : List Action :=
  neighbours maxRestarts ++ crash 1 3 ++ crash 2 4

def quiet (system : System) : Settings × List ℚ × List Bool :=
  ((system.shared.supervisors 0).settings, (system.shared.supervisors 0).crashTimes 1,
    (system.shared.supervisors 0).verdicts 1)

end Fixed

theorem restarts_isolated_three :
    ∃ first second, Machine.ReachableWhere step (Meets budgetsApart) (start "node" none) first ∧
      Machine.ReachableWhere step (Meets budgetsApart) (start "node" none) second ∧
      (first.shared.supervisors 0).crashTimes 0 = [1] ∧
      (second.shared.supervisors 0).crashTimes 0 = [] ∧
      (first.shared.supervisors 0).verdicts 1 = (second.shared.supervisors 0).verdicts 1 := by
  have hdisturbed : (Machine.runWhere step (Meets budgetsApart) (start "node" none)
      (Fixed.disturbed 3)).map
        (fun system => (Fixed.quiet system, (system.shared.supervisors 0).crashTimes 0)) =
      some (({}, [1], [true]), [1]) := by
    decide +kernel
  have halone : (Machine.runWhere step (Meets budgetsApart) (start "node" none)
      (Fixed.alone 3)).map
        (fun system => (Fixed.quiet system, (system.shared.supervisors 0).crashTimes 0)) =
      some (({}, [1], [true]), []) := by
    decide +kernel
  obtain ⟨first, hfirst, hobserved⟩ := Machine.exists_reachableWhere hdisturbed
  obtain ⟨second, hsecond, hobserved'⟩ := Machine.exists_reachableWhere halone
  simp only [Fixed.quiet, Prod.mk.injEq] at hobserved hobserved'
  exact ⟨first, second, hfirst, hsecond, hobserved.2, hobserved'.2,
    restarts_isolated hfirst hsecond (hobserved.1.1.trans hobserved'.1.1.symm)
      (hobserved.1.2.1.trans hobserved'.1.2.1.symm)⟩

/-- With a budget of one restart, the crash of a sibling decides whether a child is restarted. -/
theorem restarts_not_isolated :
    ∃ first second, Machine.Reachable step (start "node" none) first ∧
      Machine.Reachable step (start "node" none) second ∧
      (first.shared.supervisors 0).settings = { strategy := .oneForOne, maxRestarts := 1 } ∧
      (second.shared.supervisors 0).settings = { strategy := .oneForOne, maxRestarts := 1 } ∧
      (first.shared.supervisors 0).crashTimes 1 = (second.shared.supervisors 0).crashTimes 1 ∧
      (first.shared.supervisors 0).verdicts 1 = [false] ∧
      (second.shared.supervisors 0).verdicts 1 = [true] := by
  have hdisturbed : (Machine.runWhere step (fun _ _ => True) (start "node" none)
      (Fixed.disturbed 1)).map Fixed.quiet = some ({ maxRestarts := 1 }, [1], [false]) := by
    decide +kernel
  have halone : (Machine.runWhere step (fun _ _ => True) (start "node" none)
      (Fixed.alone 1)).map Fixed.quiet = some ({ maxRestarts := 1 }, [1], [true]) := by
    decide +kernel
  obtain ⟨first, hfirst, hobserved⟩ := Machine.exists_reachableWhere hdisturbed
  obtain ⟨second, hsecond, hobserved'⟩ := Machine.exists_reachableWhere halone
  simp only [Fixed.quiet, Prod.mk.injEq] at hobserved hobserved'
  exact ⟨first, second, hfirst, hsecond, hobserved.1, hobserved'.1,
    hobserved.2.1.trans hobserved'.2.1.symm, hobserved.2.2, hobserved'.2.2⟩

end LapinBeam.Actor
