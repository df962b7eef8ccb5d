import Mathlib.Algebra.Group.Defs
import Mathlib.Data.List.Basic

/-!
# Transition machines

A machine is a partial step function: `step state action` is `none` when the action is not enabled.
A run is a list of actions, so an interleaving of several tasks is just the order in which their
actions appear. Safety of every run is proved with `ReachableWhere.invariant`: what one step keeps,
every reachable state has.
-/

namespace Machine

variable {State Action : Type*} {actions : List Action}

/-- Performs the actions in order, failing at the first one that is not enabled. -/
def run (step : State → Action → Option State) : State → List Action → Option State
  | state, [] => some state
  | state, action :: rest => (step state action).bind fun next => run step next rest

/-- The states reached from `start` by steps that all meet `allowed`, a condition on the state before the step and on the action. -/
inductive ReachableWhere (step : State → Action → Option State) (allowed : State → Action → Prop)
    (start : State) : State → Prop
  | start : ReachableWhere step allowed start start
  | step {state next : State} (action : Action) :
      ReachableWhere step allowed start state → allowed state action →
      step state action = some next → ReachableWhere step allowed start next

abbrev Reachable (step : State → Action → Option State) (start : State) : State → Prop :=
  ReachableWhere step (fun _ _ => True) start

/-- What the actions of a run add up to, each with its weight in the state in which it is performed. -/
def tally {Weight : Type*} [AddMonoid Weight] (step : State → Action → Option State)
    (weight : State → Action → Weight) : State → List Action → Weight
  | _, [] => 0
  | state, action :: rest =>
      weight state action + (step state action).elim 0 fun next => tally step weight next rest

section Rules

variable {step : State → Action → Option State} {allowed : State → Action → Prop}
  {start state next : State}

/-- The invariant rule: an invariant of the start that every allowed step keeps holds in every state reached. -/
theorem ReachableWhere.invariant {Inv : State → Prop} (hstart : Inv start)
    (hstep : ∀ state action next, Inv state → allowed state action →
      step state action = some next → Inv next)
    (hreach : ReachableWhere step allowed start state) : Inv state := by
  induction hreach with
  | start => exact hstart
  | step action _ hallowed hnext ih => exact hstep _ action _ ih hallowed hnext

/-- The same rule when the step may use what is already known of reachable states. -/
theorem ReachableWhere.invariant_of_reachable {Inv : State → Prop} (hstart : Inv start)
    (hstep : ∀ state action next, ReachableWhere step allowed start state → Inv state →
      allowed state action → step state action = some next → Inv next)
    (hreach : ReachableWhere step allowed start state) : Inv state := by
  induction hreach with
  | start => exact hstart
  | step action hbefore hallowed hnext ih => exact hstep _ action _ hbefore ih hallowed hnext

theorem run_cons (state : State) (action : Action) (rest : List Action) :
    run step state (action :: rest) = (step state action).bind fun next => run step next rest :=
  rfl

def runWhere (step : State → Action → Option State) (allowed : State → Action → Prop)
    [∀ state action, Decidable (allowed state action)] : State → List Action → Option State :=
  run fun state action => if allowed state action then step state action else none

theorem reachableWhere_of_runWhere [∀ state action, Decidable (allowed state action)]
    (hrun : runWhere step allowed start actions = some state) :
    ReachableWhere step allowed start state := by
  suffices hgeneral : ∀ middle, ReachableWhere step allowed start middle →
      runWhere step allowed middle actions = some state →
      ReachableWhere step allowed start state from
    hgeneral start .start hrun
  clear hrun
  induction actions with
  | nil =>
      intro middle hmiddle hrun
      exact Option.some.inj hrun ▸ hmiddle
  | cons action rest ih =>
      intro middle hmiddle hrun
      rw [runWhere, run_cons, Option.bind_eq_some_iff] at hrun
      obtain ⟨after, hstep, hrest⟩ := hrun
      rw [Option.ite_none_right_eq_some] at hstep
      exact ih after (.step action hmiddle hstep.1 hstep.2) hrest

/-- The invariant rule with an account: what one allowed step keeps while its weight is added, a run keeps with its tally. -/
theorem runWhere_tally {Weight : Type*} [AddMonoid Weight]
    [∀ state action, Decidable (allowed state action)] {weight : State → Action → Weight}
    {Inv : Weight → State → Prop}
    (hstep : ∀ sum state action next, Inv sum state → allowed state action →
      step state action = some next → Inv (sum + weight state action) next) {sum : Weight}
    (hstart : Inv sum start) (hrun : runWhere step allowed start actions = some state) :
    Inv (sum + tally step weight start actions) state := by
  induction actions generalizing start sum with
  | nil =>
      obtain rfl := Option.some.inj hrun
      rwa [tally, add_zero]
  | cons action rest ih =>
      rw [runWhere, run_cons, Option.bind_eq_some_iff] at hrun
      obtain ⟨after, hafter, hrest⟩ := hrun
      rw [Option.ite_none_right_eq_some] at hafter
      rw [tally, hafter.2, Option.elim_some, ← add_assoc]
      exact ih (hstep _ _ _ _ hstart hafter.1 hafter.2) hrest

/-- What comes to hold in a run is the doing of one of its actions. -/
theorem exists_mem_of_runWhere [∀ state action, Decidable (allowed state action)]
    {Inv Holds : State → Prop} {Cause : Action → Prop}
    (hinv : ∀ state action next, Inv state → step state action = some next → Inv next)
    (hcause : ∀ state action next, Inv state → allowed state action →
      step state action = some next → ¬ Holds state → Holds next → Cause action)
    (hstart : Inv start) (hrun : runWhere step allowed start actions = some state)
    (hbefore : ¬ Holds start) (hafter : Holds state) : ∃ action ∈ actions, Cause action := by
  induction actions generalizing start with
  | nil => exact absurd (Option.some.inj hrun ▸ hafter) hbefore
  | cons action rest ih =>
      rw [runWhere, run_cons, Option.bind_eq_some_iff] at hrun
      obtain ⟨middle, hmiddle, hrest⟩ := hrun
      rw [Option.ite_none_right_eq_some] at hmiddle
      by_cases hholds : Holds middle
      · exact ⟨action, List.mem_cons_self,
          hcause _ _ _ hstart hmiddle.1 hmiddle.2 hbefore hholds⟩
      · obtain ⟨later, hlater, hcaused⟩ := ih (hinv _ _ _ hstart hmiddle.2) hrest hholds
        exact ⟨later, List.mem_cons_of_mem _ hlater, hcaused⟩

/-- A run and what is observed of its last state, evaluated together. -/
theorem exists_reachableWhere [∀ state action, Decidable (allowed state action)]
    {Observation : Type*} {observe : State → Observation} {observed : Observation}
    (hrun : (runWhere step allowed start actions).map observe = some observed) :
    ∃ state, ReachableWhere step allowed start state ∧ observe state = observed := by
  obtain ⟨state, hstate, hobserved⟩ := Option.map_eq_some_iff.mp hrun
  exact ⟨state, reachableWhere_of_runWhere hstate, hobserved⟩

end Rules

end Machine
