import LapinBeam.Proof.Isolation

/-!
# How often a supervisor restarts its children

`_allow_restart` is called by the handlers of all children, in any order, and knows only the restart
times it has not forgotten. Over a whole run it decides as if it remembered all of them.
-/

namespace LapinBeam.Actor

open Asyncio (TaskId)

/-- A restart is granted exactly if fewer than `max_restarts` were granted within the window before it. So no window holds more. -/
structure Supervisor.Moderate (supervisor : Supervisor) : Prop where
  granted : ∀ before decision after, supervisor.decisions = before ++ decision :: after →
    (decision.granted = true ↔
      (supervisor.settings.recent (before.map Decision.verdict) decision.time : Int) <
        supervisor.settings.maxRestarts)
  window : ∀ opening : ℚ, ((supervisor.decisions.countP fun decision => decision.granted &&
    decide (opening ≤ decision.time ∧
      decision.time < opening + supervisor.settings.restartWindow) : Nat) : Int) ≤
        max supervisor.settings.maxRestarts 0

structure Supervisor.Metered (clock : ℚ) (supervisor : Supervisor) : Prop where
  window : supervisor.Windowed clock supervisor.history
  replayed : supervisor.history = supervisor.settings.replay (supervisor.history.map Prod.fst)

namespace Supervisor.Metered

variable {supervisor after : Supervisor} {clock now : ℚ}

theorem fresh (hempty : supervisor.decisions = []) (htimes : supervisor.restartTimes = []) :
    supervisor.Metered clock := by
  constructor
  · simp [Windowed, htimes, history, hempty, Settings.recent]
  · simp [history, hempty, Settings.replay]

variable (hmetered : supervisor.Metered clock) (hclock : clock ≤ now)

include hmetered hclock

theorem later (hsame : SameBooks supervisor after) : after.Metered now := by
  constructor
  · intro time htime
    simpa [history, hsame.settings, hsame.restartTimes, hsame.decisions]
      using hmetered.window time (hclock.trans htime)
  · simpa [history, hsame.settings, hsame.decisions] using hmetered.replayed

theorem decided (child : ChildId) :
    Metered now { supervisor with
      restartTimes := (supervisor.allowRestart now).2
      decisions := supervisor.decisions ++ [⟨child, now, (supervisor.allowRestart now).1⟩] } := by
  constructor
  · simpa [history, Decision.verdict, Windowed] using hmetered.window.allowRestart hclock
  · have hbefore := hmetered.replayed
    simp only [history, List.map_append, List.map_singleton, Decision.verdict,
      Settings.replay_append] at hbefore ⊢
    rw [← hbefore, hmetered.window.allowRestart_eq hclock]
    rfl

end Supervisor.Metered

variable {system : System} {self : TaskId} {input : Input} {frame : Frame} {move : Move}

def Metered (system : System) : Prop :=
  ∀ id, (system.shared.supervisors id).Metered system.shared.clock

theorem Metered.next (hmetered : Metered system)
    (hresumed : Resumed system self input frame move) : Metered (move.next system self) := by
  intro id
  show ((move.effect.apply system.shared).supervisors id).Metered
    (move.effect.apply system.shared).clock
  rcases Effect.books_cases system.shared id move.effect with
    hsame | ⟨hempty, htimes⟩ | ⟨child, now, heffect, rfl⟩
  · exact (hmetered id).later hresumed.clock_le hsame
  · exact .fresh hempty htimes
  · have hdecided := (hmetered (system.shared.children child).supervisor).decided
      (hresumed.decide_cases heffect).2.2 child
    rw [heffect]
    simpa [Effect.apply, Runtime.decideRestart, Runtime.updateSupervisorOf, Runtime.setSupervisor,
      Runtime.supervisorOf] using hdecided

theorem Supervisor.Metered.moderate {supervisor : Supervisor} {clock : ℚ}
    (hmetered : supervisor.Metered clock) : supervisor.Moderate := by
  have hreplayed := hmetered.replayed
  constructor
  · intro before decision after hsplit
    rw [history, hsplit, List.map_append, List.map_cons] at hreplayed
    rw [Settings.granted_of_replay hreplayed.symm, decide_eq_true_eq]
  · intro opening
    have hcount := Settings.countP_replay_le (fun time =>
      decide (opening ≤ time ∧ time < opening + supervisor.settings.restartWindow))
      (supervisor.history.map Prod.fst) fun early late hearly hlate => by
        rw [decide_eq_true_eq] at hearly hlate
        linarith
    rw [← hreplayed, history, List.countP_map] at hcount
    exact hcount

/-- Whatever crashes on a node, and in whatever order, each of its supervisors is moderate. -/
theorem restart_intensity_bounded {localId : String} {mailboxCapacity : Option Nat}
    (hreach : Machine.Reachable step (start localId mailboxCapacity) system) (id : SupervisorId) :
    (system.shared.supervisors id).Moderate := by
  have hmetered : Metered system := by
    refine (WellFormed.invariant Metered (.start _ _) (fun _ => .fresh rfl rfl) ?_ hreach).2
    intro system self input frame move _ hmetered _ hresumed
    exact hmetered.next hresumed
  exact (hmetered id).moderate

theorem restart_intensity_bounded_one :
    ∃ system, Machine.Reachable step (start "node" none) system ∧
      (system.shared.supervisors 0).settings = { maxRestarts := 1 } ∧
      (system.shared.supervisors 0).history = [(1, true), (1, false)] ∧
      (system.shared.supervisors 0).Moderate := by
  have hrun : (Machine.runWhere step (fun _ _ => True) (start "node" none)
      (Fixed.disturbed 1)).map (fun system => ((system.shared.supervisors 0).settings,
        (system.shared.supervisors 0).history)) =
      some ({ maxRestarts := 1 }, [(1, true), (1, false)]) := by
    decide +kernel
  obtain ⟨system, hreach, hobserved⟩ := Machine.exists_reachableWhere hrun
  obtain ⟨hsettings, hhistory⟩ := Prod.mk.inj hobserved
  exact ⟨system, hreach, hsettings, hhistory, restart_intensity_bounded hreach 0⟩

end LapinBeam.Actor
