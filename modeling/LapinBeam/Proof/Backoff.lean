import LapinBeam.Proof.Isolation

/-!
# The backoff

`_backoff` takes a power of two before it caps the delay. The exponent is the number of restarts
within the window, the one just granted included, and only `max_restarts` bounds it: with 1024 of
them the power is no double any more, and the exception that says so leaves `_handle_child_crash`
and ends the child's task.
-/

namespace LapinBeam.Actor

open Asyncio (TaskId)

/-- A supervisor with these settings, right after `_allow_restart` has granted a restart. -/
inductive JustGranted (settings : Settings) : Supervisor → Prop
  | intro {localId mailboxCapacity before after task child crash now}
      (hreach : Machine.Reachable step (start localId mailboxCapacity) before)
      (hat : At before task (.child child (.budgeting crash)))
      (hsettings : (before.shared.supervisorOf child).settings = settings)
      (hgranted : ((before.shared.supervisorOf child).allowRestart now).1 = true)
      (hstep : step before (.resume task (.clock now)) = some after) :
      JustGranted settings (after.shared.supervisorOf child)

/-- After every restart there is a delay, of at least `0.1` and at most one second, and no shorter one when there were more restarts. -/
structure BackoffFits (settings : Settings) : Prop where
  bounded : ∀ supervisor, JustGranted settings supervisor →
    ∃ delay, supervisor.backoff = .ok delay ∧ 3602879701896397 / 2 ^ 55 ≤ delay ∧ delay ≤ 1
  monotone : ∀ fewer more, JustGranted settings fewer → JustGranted settings more →
    fewer.restartTimes.length ≤ more.restartTimes.length →
    ∀ delay later, fewer.backoff = .ok delay → more.backoff = .ok later → delay ≤ later

def Timely (runtime : Runtime) : Prop :=
  ∀ supervisor, ∀ time ∈ (runtime.supervisors supervisor).restartTimes, time ≤ runtime.clock

section Step

variable {system : System} {self : TaskId} {input : Input} {frame : Frame} {move : Move}

theorem Supervisor.mem_allowRestart {supervisor : Supervisor} {now time : ℚ}
    (hmem : time ∈ (supervisor.allowRestart now).2) :
    time ∈ supervisor.restartTimes ∨ time = now := by
  rw [allowRestart] at hmem
  split at hmem
  · exact .inl (List.mem_filter.mp hmem).1
  · rcases List.mem_append.mp hmem with hold | hnew
    · exact .inl (List.mem_filter.mp hold).1
    · exact .inr (List.mem_singleton.mp hnew)

theorem Timely.next (htimely : Timely system.shared)
    (hresumed : Resumed system self input frame move) : Timely (move.next system self).shared := by
  intro supervisor time hmem
  show time ≤ (move.effect.apply system.shared).clock
  rw [supervisors_next] at hmem
  rcases Effect.books_cases system.shared supervisor move.effect with
    hsame | ⟨-, hempty⟩ | ⟨child, now, heffect, rfl⟩
  · rw [hsame.restartTimes] at hmem
    exact (htimely supervisor time hmem).trans hresumed.clock_le
  · rw [hempty] at hmem
    cases hmem
  · have hclock := hresumed.clock_le
    rw [heffect] at hmem hclock ⊢
    have hdecided : time ∈ ((system.shared.decideRestart child now).supervisorOf child).restartTimes :=
      hmem
    rw [Runtime.restartTimes_decideRestart] at hdecided
    rcases Supervisor.mem_allowRestart hdecided with hold | rfl
    · exact (htimely _ time hold).trans hclock
    · exact le_rfl

theorem Resumed.decide_of_clock {child : ChildId} {crash : Crash} {now : ℚ}
    (hresumed : Resumed system self (.clock now) (.child child (.budgeting crash)) move) :
    move.effect = .decide child now ∧ system.shared.clock ≤ now := by
  have hmove := hresumed.eq_some
  simp only [Frame.move, ChildStage.move, Option.ite_none_left_eq_some] at hmove
  obtain ⟨hclock, hmove⟩ := hmove
  refine ⟨?_, not_lt.mp hclock⟩
  split at hmove
  · split at hmove <;> cases hmove <;> rfl
  · cases hmove
    rfl

end Step

theorem timely_of_reachable {localId : String} {mailboxCapacity : Option Nat} {system : System}
    (hreach : Machine.Reachable step (start localId mailboxCapacity) system) :
    WellFormed system ∧ Timely system.shared := by
  refine WellFormed.invariant (fun system => Timely system.shared) (.start _ _) ?_ ?_ hreach
  · intro supervisor time hmem
    cases hmem
  · intro system self input frame move _ htimely _ hresumed
    exact htimely.next hresumed

theorem JustGranted.length_restartTimes {settings : Settings} {supervisor : Supervisor}
    (hgranted : JustGranted settings supervisor) :
    0 < supervisor.restartTimes.length ∧
      (supervisor.restartTimes.length : Int) ≤ settings.maxRestarts ∧
      (settings.restartWindow ≤ 0 → supervisor.restartTimes.length = 1) := by
  cases hgranted with
  | @intro _ _ before after task child crash now hreach hat hsettings hallowed hstep =>
      obtain ⟨hformed, htimely⟩ := timely_of_reachable hreach
      obtain ⟨self, input, frame, move, hresumed, hresume, rfl⟩ :=
        hformed.mirrored.step_cases hstep
      cases hresume
      obtain rfl := hresumed.here.unique hat
      obtain ⟨heffect, hclock⟩ := hresumed.decide_of_clock
      have htimes : ((move.next before task).shared.supervisorOf child).restartTimes =
          ((before.shared.supervisorOf child).allowRestart now).2 := by
        rw [← Runtime.restartTimes_decideRestart, Runtime.supervisorOf, children_next,
          supervisors_next, heffect]
        rfl
      obtain ⟨heq, hle⟩ := Supervisor.restartTimes_of_granted hallowed
      rw [htimes]
      refine ⟨by simp [heq], hsettings ▸ hle, fun hwindow => ?_⟩
      -- Restarts lie in the past, so an empty window holds none.
      have hnone : (before.shared.supervisorOf child).restartTimes.filter (fun time =>
          now - time < (before.shared.supervisorOf child).settings.restartWindow) = [] := by
        refine List.filter_eq_nil_iff.mpr fun time hmem => ?_
        have hpast := (htimely _ time hmem).trans hclock
        rw [decide_eq_true_eq, hsettings]
        linarith
      rw [heq, hnone]
      rfl

structure Retrying (settings : Settings) (count : Nat) (stage : ChildStage) (system : System) :
    Prop where
  reach : Machine.Reachable step (start "node" none) system
  here : At system 1 (.child 0 stage)
  ready : system.shared.resumable 1 = true
  kept : system.shared.cancelled 1 = false
  kind : (system.shared.children 0).kind = .actor 0
  owner : (system.shared.children 0).supervisor = 0
  settings : (system.shared.supervisors 0).settings = settings
  children : (system.shared.supervisors 0).children = [0]
  times : (system.shared.supervisors 0).restartTimes = List.replicate count 0
  clock : system.shared.clock = 0

section Retry

variable {settings : Settings} {count : Nat} {stage : ChildStage} {system : System}

theorem Retrying.resumed (hretrying : Retrying settings count stage system) {input : Input}
    {move : Move} (hmove : stage.move system.shared 1 0 input = some move) :
    Resumed system 1 input (.child 0 stage) move :=
  ⟨hretrying.here, hretrying.ready, hmove⟩

theorem Retrying.next (hretrying : Retrying settings count stage system) {input : Input}
    {effect : Effect} {later : ChildStage} {more : Nat}
    (hmove : stage.move system.shared 1 0 input = some ⟨effect, .child 0 later, []⟩)
    (hpaused : later.await = .running ∨ later.await = .outside)
    (hchildren : (effect.apply system.shared).children = system.shared.children)
    (hsettings : ((effect.apply system.shared).supervisors 0).settings = settings)
    (hlisted : ((effect.apply system.shared).supervisors 0).children = [0])
    (htimes : ((effect.apply system.shared).supervisors 0).restartTimes = List.replicate more 0)
    (hclock : (effect.apply system.shared).clock = 0) :
    ∃ next, Retrying settings more later next := by
  have hresumed := hretrying.resumed hmove
  have hlt := (timely_of_reachable hretrying.reach).1.mirrored.lt_of_at hretrying.here
  have hloop : (Move.next ⟨effect, .child 0 later, []⟩ system 1).shared.loop 1 =
      ⟨later.await, false⟩ := by
    rw [loop_next _ _ _ hlt, if_pos rfl]
    rfl
  refine ⟨_, .step _ hretrying.reach trivial hresumed.step_eq, Mirrored.at_next_self hresumed,
    ?_, ?_, ?_, ?_, hsettings, hlisted, htimes, hclock⟩
  · rw [Runtime.resumable, Asyncio.Loop.ready, hloop]
    rcases hpaused with hawait | hawait <;>
      simp [hawait, Move.outcome, Runtime.commit, Runtime.enroll, Frame.await,
        TaskSystem.State.after]
  · rw [Runtime.cancelled, hloop]
  · rw [children_next, hchildren, hretrying.kind]
  · rw [children_next, hchildren, hretrying.owner]

theorem Retrying.skip (hretrying : Retrying settings count stage system) {input : Input}
    {later : ChildStage}
    (hmove : stage.move system.shared 1 0 input = some ⟨.skip, .child 0 later, []⟩)
    (hpaused : later.await = .running ∨ later.await = .outside) :
    ∃ next, Retrying settings count later next :=
  hretrying.next hmove hpaused rfl hretrying.settings hretrying.children hretrying.times
    hretrying.clock

theorem Retrying.fail {fresh : Bool}
    (hretrying : Retrying settings count (.attempting fresh) system) :
    ∃ crash next, Retrying settings count (.budgeting crash) next := by
  have hmove : (ChildStage.attempting fresh).move system.shared 1 0
      (.constructed (some ⟨"ValueError", "boom"⟩)) =
        some (.crash system.shared 0 ⟨"ValueError", "boom"⟩) := by
    simp [ChildStage.move, hretrying.kept, hretrying.kind]
  exact ⟨_, hretrying.next hmove (.inl rfl) rfl hretrying.settings hretrying.children
    hretrying.times hretrying.clock⟩

theorem Retrying.allowed {crash : Crash}
    (hretrying : Retrying settings count (.budgeting crash) system)
    (hwindow : 0 < settings.restartWindow) (hroom : (count : Int) < settings.maxRestarts) :
    (system.shared.supervisorOf 0).allowRestart 0 = (true, List.replicate (count + 1) 0) := by
  have hall : (List.replicate count (0 : ℚ)).filter (fun time => 0 - time < settings.restartWindow) =
      List.replicate count 0 := by
    refine List.filter_eq_self.mpr fun time hmem => ?_
    obtain rfl := List.eq_of_mem_replicate hmem
    simpa using hwindow
  rw [Runtime.supervisorOf, hretrying.owner, Supervisor.allowRestart, hretrying.settings,
    hretrying.times, hall]
  simp only [List.length_replicate, if_neg (Int.not_le.mpr hroom), List.replicate_succ']

theorem Retrying.retry {crash : Crash}
    (hretrying : Retrying settings count (.budgeting crash) system)
    (hwindow : 0 < settings.restartWindow) (hroom : (count : Int) < settings.maxRestarts)
    (hfits : count + 1 < 1024) :
    ∃ next, Retrying settings (count + 1) (.attempting false) next := by
  have hallowed := hretrying.allowed hwindow hroom
  have htimes : ((system.shared.decideRestart 0 0).supervisorOf 0).restartTimes =
      List.replicate (count + 1) 0 := by
    rw [Runtime.restartTimes_decideRestart, hallowed]
  have hbackoff : ∃ delay, ((system.shared.decideRestart 0 0).supervisorOf 0).backoff =
      .ok delay := by
    rw [Supervisor.backoff_eq, htimes, List.length_replicate, if_pos hfits]
    exact ⟨_, rfl⟩
  obtain ⟨delay, hdelay⟩ := hbackoff
  have hmove : (ChildStage.budgeting crash).move system.shared 1 0 (.clock 0) =
      some ⟨.decide 0 0, .child 0 (.backingOff crash), []⟩ := by
    simp [ChildStage.move, hretrying.clock, hallowed, hdelay]
  have hsupervisor : ((system.shared.decideRestart 0 0).supervisors 0) =
      (system.shared.decideRestart 0 0).supervisorOf 0 := by
    rw [Runtime.supervisorOf]
    exact congrArg _ hretrying.owner.symm
  obtain ⟨asleep, hasleep⟩ : ∃ next, Retrying settings (count + 1) (.backingOff crash) next := by
    refine hretrying.next hmove (.inr rfl) rfl ?_ ?_ (hsupervisor ▸ htimes) rfl
    · simpa [Effect.apply, Runtime.decideRestart, Runtime.updateSupervisorOf,
        Runtime.setSupervisor, Runtime.supervisorOf, hretrying.owner] using hretrying.settings
    · simpa [Effect.apply, Runtime.decideRestart, Runtime.updateSupervisorOf,
        Runtime.setSupervisor, Runtime.supervisorOf, hretrying.owner] using hretrying.children
  -- Under every strategy the only child has no siblings to restart.
  obtain ⟨affected, haffected, hsiblings⟩ : ∃ affected,
      (asleep.shared.supervisorOf 0).affectedChildren 0 = some affected ∧
        affected.filter (· ≠ 0) = [] := by
    rw [Runtime.supervisorOf, hasleep.owner]
    cases hstrategy : settings.strategy <;>
      simp [Supervisor.affectedChildren, hasleep.settings, hasleep.children, hstrategy]
  have hwoken : (ChildStage.backingOff crash).move asleep.shared 1 0 .go =
      some ⟨.skip, .child 0 (.tearing crash [] []), []⟩ := by
    simp only [ChildStage.move, hasleep.kept, haffected, hsiblings]
    rfl
  obtain ⟨awake, hawake⟩ := hasleep.skip hwoken (.inl rfl)
  have htearing : (ChildStage.tearing crash [] []).move awake.shared 1 0 .go =
      some ⟨.skip, .child 0 (.respawning []), []⟩ := rfl
  obtain ⟨torn, htorn⟩ := hawake.skip htearing (.inl rfl)
  have hrespawning : (ChildStage.respawning []).move torn.shared 1 0 .go =
      some ⟨.skip, .child 0 (.attempting false), []⟩ := rfl
  exact htorn.skip hrespawning (.inl rfl)

theorem exists_retrying_start (settings : Settings) :
    ∃ system, Retrying settings 0 (.attempting true) system := by
  have hcreated : Resumed (start "node" none) 0 (.call (.newSupervisor settings)) (.outside [])
      ⟨.newSupervisor settings, .outside [], []⟩ := ⟨rfl, rfl, rfl⟩
  have hspawned : Resumed (Move.next ⟨.newSupervisor settings, .outside [], []⟩
      (start "node" none) 0) 0 (.call (.spawn 0 "worker")) (.outside [])
      ⟨.spawn 0 "worker" (.actor 0), .outside [], [.child 0 (.attempting true)]⟩ :=
    ⟨rfl, rfl, rfl⟩
  exact ⟨_, .step _ (.step _ .start trivial hcreated.step_eq) trivial hspawned.step_eq,
    rfl, rfl, rfl, rfl, rfl, rfl, rfl, rfl, rfl⟩

theorem exists_retrying (hwindow : 0 < settings.restartWindow) (hcount : count < 1024)
    (hroom : (count : Int) ≤ settings.maxRestarts) :
    ∃ crash system, Retrying settings count (.budgeting crash) system := by
  induction count with
  | zero =>
      obtain ⟨system, hretrying⟩ := exists_retrying_start settings
      exact hretrying.fail
  | succ count ih =>
      obtain ⟨crash, system, hretrying⟩ := ih (by omega) (by omega)
      obtain ⟨next, hnext⟩ := hretrying.retry hwindow (by omega) hcount
      exact hnext.fail

theorem exists_overflow (hwindow : 0 < settings.restartWindow)
    (hlarge : 1024 ≤ settings.maxRestarts) :
    ∃ supervisor, JustGranted settings supervisor ∧
      supervisor.backoff = .error ⟨"OverflowError", "int too large to convert to float"⟩ := by
  obtain ⟨crash, system, hretrying⟩ : ∃ crash system,
      Retrying settings 1023 (.budgeting crash) system :=
    exists_retrying hwindow (by decide) (by omega)
  have hallowed := hretrying.allowed hwindow (by omega)
  have hgranted : ((system.shared.supervisorOf 0).allowRestart 0).1 = true :=
    congrArg Prod.fst hallowed
  have htimes : ((system.shared.decideRestart 0 0).supervisorOf 0).restartTimes =
      List.replicate 1024 0 := by
    rw [Runtime.restartTimes_decideRestart, hallowed]
  have hraised : ((system.shared.decideRestart 0 0).supervisorOf 0).backoff =
      .error ⟨"OverflowError", "int too large to convert to float"⟩ := by
    rw [Supervisor.backoff_eq, htimes, List.length_replicate, if_neg (lt_irrefl _)]
  have hmove : (ChildStage.budgeting crash).move system.shared 1 0 (.clock 0) =
      some ⟨.decide 0 0, .child 0 (.finished (.raised
        ⟨"OverflowError", "int too large to convert to float"⟩)), []⟩ := by
    simp only [ChildStage.move, hretrying.clock, lt_self_iff_false, hgranted, hraised, ↓reduceIte]
  have hsettings : (system.shared.supervisorOf 0).settings = settings := by
    rw [Runtime.supervisorOf, hretrying.owner, hretrying.settings]
  exact ⟨_, .intro hretrying.reach hretrying.here hsettings hgranted
    (hretrying.resumed hmove).step_eq, hraised⟩

end Retry

theorem Supervisor.backoff_bounds {supervisor : Supervisor}
    (hpos : 0 < supervisor.restartTimes.length) (hfits : supervisor.restartTimes.length < 1024) :
    ∃ delay, supervisor.backoff = .ok delay ∧ 3602879701896397 / 2 ^ 55 ≤ delay ∧ delay ≤ 1 := by
  refine ⟨_, by rw [backoff_eq, if_pos hfits], le_min ?_ (by norm_num), min_le_right _ _⟩
  have hpower : (2 : ℚ) ^ 1 ≤ 2 ^ supervisor.restartTimes.length :=
    pow_le_pow_right₀ (by norm_num) hpos
  calc (3602879701896397 / 2 ^ 55 : ℚ) = 2 ^ 1 * (3602879701896397 / 2 ^ 56) := by norm_num
    _ ≤ 2 ^ supervisor.restartTimes.length * (3602879701896397 / 2 ^ 56) :=
      mul_le_mul_of_nonneg_right hpower (by norm_num)

theorem Supervisor.backoff_mono {fewer more : Supervisor} {delay later : ℚ}
    (hle : fewer.restartTimes.length ≤ more.restartTimes.length)
    (hdelay : fewer.backoff = .ok delay) (hlater : more.backoff = .ok later) : delay ≤ later := by
  rw [backoff_eq] at hdelay hlater
  split at hdelay <;> cases hdelay
  split at hlater <;> cases hlater
  have hpower : (2 : ℚ) ^ fewer.restartTimes.length ≤ 2 ^ more.restartTimes.length :=
    pow_le_pow_right₀ (by norm_num) hle
  exact min_le_min_right _ (mul_le_mul_of_nonneg_right hpower (by norm_num))

/-- The backoff is as it should be exactly if the budget is below 1024 restarts, or the window is empty. -/
theorem backoffFits_iff (settings : Settings) :
    BackoffFits settings ↔ settings.maxRestarts < 1024 ∨ settings.restartWindow ≤ 0 := by
  constructor
  · intro hfits
    by_contra hneither
    obtain ⟨hlarge, hwindow⟩ := not_or.mp hneither
    obtain ⟨supervisor, hgranted, hraised⟩ :=
      exists_overflow (not_le.mp hwindow) (Int.not_lt.mp hlarge)
    obtain ⟨delay, hdelay, -, -⟩ := hfits.bounded supervisor hgranted
    cases hraised.symm.trans hdelay
  · intro hsmall
    refine ⟨fun supervisor hgranted => ?_, fun fewer more _ _ hle delay later => ?_⟩
    · obtain ⟨hpos, hle, hempty⟩ := hgranted.length_restartTimes
      refine Supervisor.backoff_bounds hpos ?_
      rcases hsmall with hbudget | hwindow
      · omega
      · exact (hempty hwindow).trans_lt (by decide)
    · exact Supervisor.backoff_mono hle

/-- With `max_restarts=1024`, the 1024th restart within the window of five seconds is granted and never made. -/
theorem backoff_overflows :
    ∃ supervisor, JustGranted { maxRestarts := 1024 } supervisor ∧
      supervisor.backoff = .error ⟨"OverflowError", "int too large to convert to float"⟩ :=
  exists_overflow (by norm_num) (by norm_num)

end LapinBeam.Actor
