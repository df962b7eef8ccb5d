import LapinBeam.Actor.Task
import Mathlib.Algebra.Order.Ring.Rat
import Mathlib.Data.List.Induction
import Mathlib.Tactic.Linarith

/-!
# The restart budget

`_allow_restart` forgets the restarts that have left the window each time it is called. What it
forgets no longer counts at any later time, so as long as the clock does not run backwards it
answers as `replay` does, which remembers everything.
-/

namespace LapinBeam.Actor

namespace Settings

variable (settings : Settings)

/-- How many restarts of a history fall into the window before `now`. -/
def recent (history : List (ℚ × Bool)) (now : ℚ) : Nat :=
  history.countP fun (time, granted) => granted && now - time < settings.restartWindow

def replay (times : List ℚ) : List (ℚ × Bool) :=
  times.foldl (fun history now =>
    history ++ [(now, decide ((settings.recent history now : Int) < settings.maxRestarts))]) []

theorem replay_append (times : List ℚ) (now : ℚ) :
    settings.replay (times ++ [now]) = settings.replay times ++
      [(now, decide ((settings.recent (settings.replay times) now : Int) < settings.maxRestarts))] := by
  rw [replay, List.foldl_append]
  rfl

variable {settings}

theorem granted_of_replay {times : List ℚ} {before after : List (ℚ × Bool)} {now : ℚ} {granted : Bool}
    (hreplay : settings.replay times = before ++ (now, granted) :: after) :
    granted = decide ((settings.recent before now : Int) < settings.maxRestarts) := by
  induction times using List.reverseRecOn generalizing after with
  | nil => simp [replay] at hreplay
  | append_singleton earlier last ih =>
      rw [replay_append] at hreplay
      rcases List.eq_nil_or_concat after with rfl | ⟨later, final, rfl⟩
      · obtain ⟨rfl, hlast⟩ := List.append_inj' hreplay rfl
        cases hlast
        rfl
      · rw [List.concat_eq_append, ← List.cons_append, ← List.append_assoc] at hreplay
        exact ih (List.append_inj' hreplay rfl).1

theorem countP_replay_le (inside : ℚ → Bool) (times : List ℚ)
    (hinside : ∀ early late, inside early → inside late → late - early < settings.restartWindow) :
    (((settings.replay times).countP fun (time, granted) => granted && inside time : Nat) : Int) ≤
      max settings.maxRestarts 0 := by
  induction times using List.reverseRecOn with
  | nil => simp [replay]
  | append_singleton earlier now ih =>
      rw [replay_append, List.countP_append, List.countP_singleton]
      simp only at ih ⊢
      split
      · rename_i hcounted
        rw [Bool.and_eq_true, decide_eq_true_eq] at hcounted
        obtain ⟨hgranted, hnow⟩ := hcounted
        have hseen : ((settings.replay earlier).countP fun verdict => verdict.2 && inside verdict.1) ≤
            settings.recent (settings.replay earlier) now := by
          refine List.countP_mono_left fun (time, granted) _ hcounted => ?_
          rw [Bool.and_eq_true] at hcounted ⊢
          exact ⟨hcounted.1, decide_eq_true (hinside time now hcounted.2 hnow)⟩
        omega
      · exact ih

end Settings

namespace Supervisor

theorem restartTimes_of_granted {supervisor : Supervisor} {now : ℚ}
    (hgranted : (supervisor.allowRestart now).1 = true) :
    (supervisor.allowRestart now).2 = (supervisor.restartTimes.filter fun time =>
        now - time < supervisor.settings.restartWindow) ++ [now] ∧
      ((supervisor.allowRestart now).2.length : Int) ≤ supervisor.settings.maxRestarts := by
  rw [allowRestart] at hgranted ⊢
  split at hgranted
  · cases hgranted
  · rename_i hroom
    rw [if_neg hroom, List.length_append, List.length_singleton]
    exact ⟨rfl, by omega⟩

theorem backoff_eq (supervisor : Supervisor) : supervisor.backoff =
    if supervisor.restartTimes.length < 1024 then
      .ok (min (2 ^ supervisor.restartTimes.length * (3602879701896397 / 2 ^ 56)) 1)
    else .error ⟨"OverflowError", "int too large to convert to float"⟩ := by
  by_cases hlt : supervisor.restartTimes.length < 1024
  · have hunit : (3602879701896397 / 2 ^ 56 : ℚ) = ((3602879701896397 : ℤ) : ℚ) * 2 ^ (-56 : ℤ) := by
      norm_num
    have hexact : Binary64.Representable (2 ^ supervisor.restartTimes.length *
        (3602879701896397 / 2 ^ 56)) := by
      rw [hunit]
      exact Binary64.representable_two_pow_mul (by norm_num) (by norm_num) (by omega)
    simp only [backoff, Binary64.ofNat_two_pow, if_pos hlt, Binary64.mul, hexact.round_eq]
  · simp only [backoff, Binary64.ofNat_two_pow, if_neg hlt]

def allowRestarts (supervisor : Supervisor) : List ℚ → List (ℚ × Bool)
  | [] => []
  | now :: later =>
      let (granted, restartTimes) := supervisor.allowRestart now
      (now, granted) :: allowRestarts { supervisor with restartTimes } later

def Windowed (supervisor : Supervisor) (clock : ℚ) (history : List (ℚ × Bool)) : Prop :=
  ∀ now, clock ≤ now →
    (supervisor.restartTimes.filter fun time =>
        now - time < supervisor.settings.restartWindow).length =
      supervisor.settings.recent history now

variable {supervisor : Supervisor} {clock now : ℚ} {history : List (ℚ × Bool)}

theorem Windowed.allowRestart_eq (hwindowed : supervisor.Windowed clock history) (hclock : clock ≤ now) :
    (supervisor.allowRestart now).1 =
      decide ((supervisor.settings.recent history now : Int) < supervisor.settings.maxRestarts) := by
  simp only [allowRestart, hwindowed now hclock]
  split
  · rename_i hfull
    simp [hfull]
  · rename_i hroom
    simpa using hroom

theorem Windowed.allowRestart (hwindowed : supervisor.Windowed clock history) (hclock : clock ≤ now) :
    Windowed { supervisor with restartTimes := (supervisor.allowRestart now).2 } now
      (history ++ [(now, (supervisor.allowRestart now).1)]) := by
  intro later hlater
  have hbefore := hwindowed later (hclock.trans hlater)
  -- What is forgotten at `now` does not count at any later time.
  have hsame : ((supervisor.restartTimes.filter fun time =>
        now - time < supervisor.settings.restartWindow).filter fun time =>
        later - time < supervisor.settings.restartWindow) =
      supervisor.restartTimes.filter fun time =>
        later - time < supervisor.settings.restartWindow := by
    rw [List.filter_filter]
    refine List.filter_congr fun time _ => ?_
    have hpruned : later - time < supervisor.settings.restartWindow →
        now - time < supervisor.settings.restartWindow := fun h => by linarith
    simpa using hpruned
  simp only [Settings.recent, List.countP_append] at hbefore ⊢
  simp only [Supervisor.allowRestart]
  split
  · rw [hsame, hbefore]
    simp
  · rw [List.filter_append, List.length_append, hsame, hbefore]
    by_cases hwithin : later - now < supervisor.settings.restartWindow <;> simp [hwithin]

theorem Windowed.allowRestarts {times : List ℚ} (hwindowed : supervisor.Windowed clock history)
    (hsorted : (clock :: times).Pairwise (· ≤ ·)) :
    history ++ supervisor.allowRestarts times = times.foldl (fun history now => history ++
      [(now, decide ((supervisor.settings.recent history now : Int) <
        supervisor.settings.maxRestarts))]) history := by
  induction times generalizing supervisor clock history with
  | nil => simp [Supervisor.allowRestarts]
  | cons now later ih =>
      have hclock : clock ≤ now := List.rel_of_pairwise_cons hsorted List.mem_cons_self
      have hlater := ih (hwindowed.allowRestart hclock) hsorted.of_cons
      rw [List.foldl_cons, ← hwindowed.allowRestart_eq hclock, ← hlater, List.append_assoc]
      rfl

theorem allowRestarts_eq_replay {settings : Settings} {times : List ℚ}
    (hsorted : times.Pairwise (· ≤ ·)) :
    Supervisor.allowRestarts { settings } times = settings.replay times := by
  cases times with
  | nil => rfl
  | cons first later =>
      have hfresh : Windowed { settings } first [] := fun _ _ => rfl
      exact hfresh.allowRestarts (List.pairwise_cons.mpr
        ⟨List.forall_mem_cons.mpr ⟨le_rfl, (List.pairwise_cons.mp hsorted).1⟩, hsorted⟩)

/-- A restart is granted if fewer than `max_restarts` were granted within the window before it, and
so no half-open interval of the window's length holds more. -/
theorem allowRestarts_slidingWindow (settings : Settings) (times : List ℚ)
    (hsorted : times.Pairwise (· ≤ ·)) :
    (∀ before now granted after,
      Supervisor.allowRestarts { settings } times = before ++ (now, granted) :: after →
        (granted = true ↔ (settings.recent before now : Int) < settings.maxRestarts)) ∧
    ∀ start : ℚ,
      (((Supervisor.allowRestarts { settings } times).countP fun (time, granted) => granted &&
        decide (start ≤ time ∧ time < start + settings.restartWindow) : Nat) : Int) ≤
          max settings.maxRestarts 0 ∧
      (((Supervisor.allowRestarts { settings } times).countP fun (time, granted) => granted &&
        decide (start < time ∧ time ≤ start + settings.restartWindow) : Nat) : Int) ≤
          max settings.maxRestarts 0 := by
  rw [allowRestarts_eq_replay hsorted]
  refine ⟨fun before now granted after hreplay => ?_, fun start => ⟨?_, ?_⟩⟩
  · rw [Settings.granted_of_replay hreplay, decide_eq_true_eq]
  · refine Settings.countP_replay_le
      (fun time => decide (start ≤ time ∧ time < start + settings.restartWindow)) times
      fun early late hearly hlate => ?_
    rw [decide_eq_true_eq] at hearly hlate
    linarith
  · refine Settings.countP_replay_le
      (fun time => decide (start < time ∧ time ≤ start + settings.restartWindow)) times
      fun early late hearly hlate => ?_
    rw [decide_eq_true_eq] at hearly hlate
    linarith

theorem allowRestarts_slidingWindow_default :
    Supervisor.allowRestarts {} [0, 1, 2, 3, 5, 6, 11] =
        [(0, true), (1, true), (2, true), (3, false), (5, true), (6, true), (11, true)] ∧
      ∀ start : ℚ, (((Supervisor.allowRestarts {} [0, 1, 2, 3, 5, 6, 11]).countP
        fun (time, granted) => granted && decide (start ≤ time ∧ time < start + 5) : Nat) : Int) ≤ 3 :=
  ⟨by decide +kernel, fun start =>
    ((allowRestarts_slidingWindow {} [0, 1, 2, 3, 5, 6, 11] (by decide +kernel)).2 start).1⟩

end Supervisor

namespace Runtime

variable {runtime : Runtime} {child : ChildId} {now : ℚ}

theorem restartTimes_decideRestart (runtime : Runtime) (child : ChildId) (now : ℚ) :
    ((runtime.decideRestart child now).supervisorOf child).restartTimes =
      ((runtime.supervisorOf child).allowRestart now).2 := by
  simp [decideRestart, updateSupervisorOf, setSupervisor, supervisorOf]

theorem maxRestarts_of_overflow {exc : Exc}
    (hallowed : ((runtime.supervisorOf child).allowRestart now).1 = true)
    (hraised : ((runtime.decideRestart child now).supervisorOf child).backoff = .error exc) :
    1024 ≤ (runtime.supervisorOf child).settings.maxRestarts := by
  rw [Supervisor.backoff_eq, restartTimes_decideRestart] at hraised
  split at hraised
  · cases hraised
  · have hle := (Supervisor.restartTimes_of_granted hallowed).2
    omega

end Runtime

end LapinBeam.Actor
