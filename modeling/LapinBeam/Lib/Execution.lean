import LapinBeam.Lib.Machine
import Mathlib.Order.Filter.AtTopBot.Basic

/-!
# Infinite runs of a transition machine

Liveness is about runs that never stop. `eventually_of_step` is for what holds from some point on,
`eventually_constant` for what can only go down in a well-founded order. `exists_loop` makes an
infinite run of a finite one that ends in a step back to where it started.
-/

namespace Machine

open Filter

variable {State Action : Type*}

/-- An infinite run from `start` whose steps all meet `allowed`. -/
structure Execution (step : State → Action → Option State) (allowed : State → Action → Prop)
    (start : State) where
  state : ℕ → State
  action : ℕ → Action
  start_eq : state 0 = start
  permitted : ∀ n, allowed (state n) (action n)
  step_eq : ∀ n, step (state n) (action n) = some (state (n + 1))

namespace Execution

variable {step : State → Action → Option State} {allowed : State → Action → Prop} {start : State}

theorem always (execution : Execution step allowed start) {Inv : State → Prop} (hstart : Inv start)
    (hstep : ∀ n, Inv (execution.state n) → Inv (execution.state (n + 1))) (n : ℕ) :
    Inv (execution.state n) := by
  induction n with
  | zero => rwa [execution.start_eq]
  | succ n ih => exact hstep n ih

theorem eventually_of_step (execution : Execution step allowed start) (holds : State → Prop) {n : ℕ}
    (hholds : holds (execution.state n))
    (hstep : ∀ m, holds (execution.state m) → holds (execution.state (m + 1))) :
    ∀ᶠ m in atTop, holds (execution.state m) :=
  eventually_atTop.mpr ⟨n, fun _ hle => Nat.le_induction hholds (fun m _ => hstep m) _ hle⟩

theorem eventually_constant {Rank : Type*} [Preorder Rank] [WellFoundedLT Rank]
    (execution : Execution step allowed start) (rank : State → Rank)
    (hstep : ∀ᶠ n in atTop, rank (execution.state (n + 1)) = rank (execution.state n) ∨
      rank (execution.state (n + 1)) < rank (execution.state n)) :
    ∀ᶠ n in atTop, rank (execution.state (n + 1)) = rank (execution.state n) := by
  obtain ⟨first, hstep⟩ := eventually_atTop.mp hstep
  -- the smallest rank that is ever reached from there on
  obtain ⟨_, ⟨least, hle, rfl⟩, hmin⟩ := wellFounded_lt.has_min
    ((fun n => rank (execution.state n)) '' {n | first ≤ n}) ⟨_, first, Nat.le_refl first, rfl⟩
  have hconstant : ∀ n, least ≤ n → rank (execution.state n) = rank (execution.state least) := by
    intro n hn
    induction n, hn using Nat.le_induction with
    | base => rfl
    | succ n hn ih =>
        rcases hstep n (hle.trans hn) with heq | hlt
        · exact heq.trans ih
        · rw [ih] at hlt
          exact absurd hlt (hmin _ ⟨n + 1, (hle.trans hn).trans (Nat.le_succ n), rfl⟩)
  refine eventually_atTop.mpr ⟨least, fun n hn => ?_⟩
  rw [hconstant n hn, hconstant (n + 1) (hn.trans (Nat.le_succ n))]

def cons {next : State} (action : Action) (hallowed : allowed start action)
    (hstep : step start action = some next) (execution : Execution step allowed next) :
    Execution step allowed start where
  state
    | 0 => start
    | n + 1 => execution.state n
  action
    | 0 => action
    | n + 1 => execution.action n
  start_eq := rfl
  permitted
    | 0 => hallowed
    | n + 1 => execution.permitted n
  step_eq
    | 0 => hstep.trans (congrArg some execution.start_eq.symm)
    | n + 1 => execution.step_eq n

theorem exists_loop {state : State} {action : Action}
    (hreach : ReachableWhere step allowed start state) (hallowed : allowed state action)
    (hloop : step state action = some state) :
    ∃ execution : Execution step allowed start,
      ∀ᶠ n in atTop, execution.state n = state ∧ execution.action n = action := by
  suffices hgeneral : ∀ middle, ReachableWhere step allowed start middle →
      (∃ execution : Execution step allowed middle,
        ∀ᶠ n in atTop, execution.state n = state ∧ execution.action n = action) →
      ∃ execution : Execution step allowed start,
        ∀ᶠ n in atTop, execution.state n = state ∧ execution.action n = action from
    hgeneral state hreach ⟨⟨fun _ => state, fun _ => action, rfl, fun _ => hallowed,
      fun _ => hloop⟩, .of_forall fun _ => ⟨rfl, rfl⟩⟩
  intro middle hmiddle hexists
  induction hmiddle with
  | start => exact hexists
  | step first _ hfirst hstep ih =>
      obtain ⟨execution, hevent⟩ := hexists
      refine ih ⟨execution.cons first hfirst hstep, ?_⟩
      obtain ⟨bound, hbound⟩ := eventually_atTop.mp hevent
      refine eventually_atTop.mpr ⟨bound + 1, fun n hn => ?_⟩
      obtain ⟨k, rfl⟩ := Nat.exists_eq_add_of_le' (Nat.le_of_add_left_le hn)
      exact hbound k (Nat.le_of_add_le_add_right hn)

end Execution

end Machine
