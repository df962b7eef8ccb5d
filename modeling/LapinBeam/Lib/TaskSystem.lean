import LapinBeam.Lib.Machine

/-!
# Interleaved tasks over a shared state

A program says what a task does in one atomic stretch: from the shared state, the task's own stage
and what its environment hands it, to the shared state it leaves, its next stage, and the tasks it
spawned. A state is the shared state and the list of all tasks ever started; a run picks, at every
turn, any task, or starts one of the calls the environment may make.

The rules reduce statements about whole runs to statements about one stretch. `invariant_each` is
for what holds of the shared state and of every task, `held_resume` for what the shared state asks
of at least one task, `count_resume` for how many tasks are at some point, and `exclusive_resume`
for what at most one task may hold.
-/

namespace TaskSystem

variable {Shared Task Input : Type*}

structure Outcome (Shared Task : Type*) where
  shared : Shared
  task : Task
  spawned : List Task

structure Program (Shared Task Input : Type*) where
  /-- One atomic stretch; `none` when the task cannot go on with this input. -/
  perform : Shared → Task → Input → Option (Outcome Shared Task)
  entry : Task → Bool

structure State (Shared Task : Type*) where
  shared : Shared
  tasks : List Task

def State.call (state : State Shared Task) (task : Task) : State Shared Task :=
  { state with tasks := state.tasks ++ [task] }

def State.after (state : State Shared Task) (index : Nat) (out : Outcome Shared Task) :
    State Shared Task :=
  ⟨out.shared, state.tasks.set index out.task ++ out.spawned⟩

inductive Action (Task Input : Type*)
  | call (task : Task)
  | resume (index : Nat) (input : Input)

def step (program : Program Shared Task Input) (state : State Shared Task) :
    Action Task Input → Option (State Shared Task)
  | .call task => if program.entry task then some (state.call task) else none
  | .resume index input =>
      match state.tasks[index]? with
      | none => none
      | some task => (program.perform state.shared task input).map (state.after index)

section Inversion

variable {program : Program Shared Task Input} {state next : State Shared Task}
  {index position : Nat} {input : Input} {task other : Task} {out : Outcome Shared Task}

theorem step_call_eq_some (hstep : step program state (.call task) = some next) :
    program.entry task = true ∧ next = state.call task := by
  simp only [step, Option.ite_none_right_eq_some, Option.some.injEq] at hstep
  exact ⟨hstep.1, hstep.2.symm⟩

theorem step_resume_eq_some (hstep : step program state (.resume index input) = some next) :
    ∃ task out, state.tasks[index]? = some task ∧
      program.perform state.shared task input = some out ∧ next = state.after index out := by
  simp only [step] at hstep
  split at hstep
  · cases hstep
  rename_i task htask
  obtain ⟨out, hout, rfl⟩ := Option.map_eq_some_iff.mp hstep
  exact ⟨task, out, htask, hout, rfl⟩

theorem step_resume_of_perform (htask : state.tasks[index]? = some task)
    (hout : program.perform state.shared task input = some out) :
    step program state (.resume index input) = some (state.after index out) := by
  simp [step, htask, hout]

theorem lookup_call (hlookup : state.tasks[position]? = some other) :
    (state.call task).tasks[position]? = some other :=
  (List.getElem?_append_left (List.getElem?_eq_some_iff.mp hlookup).1).trans hlookup

theorem lookup_of_call (hlookup : (state.call task).tasks[position]? = some other) :
    state.tasks[position]? = some other ∨ other = task := by
  rw [State.call] at hlookup
  by_cases hlt : position < state.tasks.length
  · exact .inl (List.getElem?_append_left hlt ▸ hlookup)
  · rw [List.getElem?_append_right (Nat.le_of_not_lt hlt)] at hlookup
    exact .inr (List.mem_singleton.mp (List.mem_of_getElem? hlookup))

theorem mem_call (hmem : other ∈ (state.call task).tasks) : other ∈ state.tasks ∨ other = task := by
  rcases List.mem_append.mp hmem with hold | hnew
  · exact .inl hold
  · exact .inr (List.mem_singleton.mp hnew)

theorem lookup_after (hlookup : (state.after index out).tasks[position]? = some other) :
    (position = index ∧ other = out.task) ∨
      (position ≠ index ∧ state.tasks[position]? = some other) ∨
      (state.tasks.length ≤ position ∧
        out.spawned[position - state.tasks.length]? = some other) := by
  simp only [State.after] at hlookup
  by_cases hlt : position < state.tasks.length
  · rw [List.getElem?_append_left (by simpa using hlt)] at hlookup
    by_cases heq : position = index
    · subst heq
      rw [List.getElem?_set_self hlt, Option.some.injEq] at hlookup
      exact .inl ⟨rfl, hlookup.symm⟩
    · rw [List.getElem?_set_ne (Ne.symm heq)] at hlookup
      exact .inr (.inl ⟨heq, hlookup⟩)
  · rw [List.getElem?_append_right (by simpa using hlt), List.length_set] at hlookup
    exact .inr (.inr ⟨Nat.le_of_not_lt hlt, hlookup⟩)

theorem mem_after (hmem : other ∈ (state.after index out).tasks) :
    (∃ position, position ≠ index ∧ state.tasks[position]? = some other) ∨
      other ∈ out.task :: out.spawned := by
  obtain ⟨position, hlookup⟩ := List.mem_iff_getElem?.mp hmem
  rcases lookup_after hlookup with ⟨-, rfl⟩ | hold | ⟨-, hspawned⟩
  · exact .inr List.mem_cons_self
  · exact .inl ⟨position, hold⟩
  · exact .inr (List.mem_cons_of_mem _ (List.mem_of_getElem? hspawned))

theorem lookup_other (hne : position ≠ index) (hlookup : state.tasks[position]? = some other) :
    (state.after index out).tasks[position]? = some other := by
  have hlt : position < state.tasks.length := (List.getElem?_eq_some_iff.mp hlookup).1
  rw [State.after, List.getElem?_append_left (by simpa using hlt),
    List.getElem?_set_ne (Ne.symm hne)]
  exact hlookup

theorem lookup_self (htask : state.tasks[index]? = some task) :
    (state.after index out).tasks[index]? = some out.task := by
  have hlt : index < state.tasks.length := (List.getElem?_eq_some_iff.mp htask).1
  rw [State.after, List.getElem?_append_left (by simpa using hlt), List.getElem?_set_self hlt]

end Inversion

/-! ### What holds of every task -/

section Each

variable {program : Program Shared Task Input} {state next : State Shared Task}
  {Good : Shared → Prop} {Fine : Shared → Task → Prop}

/-- The shared state is `Good` and every task is `Fine` in it. -/
def Each (Good : Shared → Prop) (Fine : Shared → Task → Prop) (state : State Shared Task) : Prop :=
  Good state.shared ∧ ∀ task ∈ state.tasks, Fine state.shared task

/-- What one stretch keeps of the shared state, of the task that ran and of those it spawned, and of any other task, every run keeps of them all. -/
theorem invariant_each {allowed : State Shared Task → Action Task Input → Prop}
    {start : State Shared Task} (hstart : Each Good Fine start)
    (hentry : ∀ shared task, Good shared → program.entry task = true → Fine shared task)
    (hperform : ∀ shared task input out, Good shared → Fine shared task →
      program.perform shared task input = some out →
      Good out.shared ∧ ∀ holder ∈ out.task :: out.spawned, Fine out.shared holder)
    (hstable : ∀ shared task input out other, Good shared → Fine shared task →
      program.perform shared task input = some out → Fine shared other → Fine out.shared other)
    (hreach : Machine.ReachableWhere (step program) allowed start state) :
    Each Good Fine state := by
  refine hreach.invariant hstart ?_
  rintro state action next ⟨hgood, hfine⟩ - hstep
  cases action with
  | call task =>
      obtain ⟨hallowed, rfl⟩ := step_call_eq_some hstep
      refine ⟨hgood, fun other hmem => ?_⟩
      rcases mem_call hmem with hold | rfl
      · exact hfine other hold
      · exact hentry _ _ hgood hallowed
  | resume index input =>
      obtain ⟨task, out, htask, hout, rfl⟩ := step_resume_eq_some hstep
      have hself := hfine task (List.mem_of_getElem? htask)
      obtain ⟨hgood', hmoved⟩ := hperform _ _ _ _ hgood hself hout
      refine ⟨hgood', fun other hmem => ?_⟩
      rcases mem_after hmem with ⟨position, -, hold⟩ | hnew
      · exact hstable _ _ _ _ other hgood hself hout (hfine other (List.mem_of_getElem? hold))
      · exact hmoved other hnew

end Each

/-! ### What some task holds -/

section Held

variable {state : State Shared Task} {Duty : Type*} {Holds : Shared → Task → Duty → Prop}
  {duty : Duty} {index : Nat} {task : Task} {out : Outcome Shared Task}

def Held (Holds : Shared → Task → Duty → Prop) (state : State Shared Task) (duty : Duty) : Prop :=
  ∃ (position : Nat) (task : Task), state.tasks[position]? = some task ∧
    Holds state.shared task duty

theorem held_call (hheld : Held Holds state duty) : Held Holds (state.call task) duty := by
  obtain ⟨position, holder, hlookup, hholds⟩ := hheld
  exact ⟨position, holder, lookup_call hlookup, hholds⟩

theorem held_after (htask : state.tasks[index]? = some task)
    (hholds : ∃ holder ∈ out.task :: out.spawned, Holds out.shared holder duty) :
    Held Holds (state.after index out) duty := by
  obtain ⟨holder, hmem, hholder⟩ := hholds
  rcases List.mem_cons.mp hmem with rfl | hspawned
  · exact ⟨index, out.task, lookup_self htask, hholder⟩
  · obtain ⟨offset, hoffset⟩ := List.mem_iff_getElem?.mp hspawned
    refine ⟨state.tasks.length + offset, holder, ?_, hholder⟩
    rw [State.after, List.getElem?_append_right (by simp)]
    simpa using hoffset

/-- A duty stays held if the task that ran hands on what it held, and what the others hold is not disturbed. -/
theorem held_resume (htask : state.tasks[index]? = some task)
    (hown : Holds state.shared task duty →
      ∃ holder ∈ out.task :: out.spawned, Holds out.shared holder duty)
    (hothers : ∀ other, Holds state.shared other duty → Holds out.shared other duty)
    (hheld : Held Holds state duty) : Held Holds (state.after index out) duty := by
  obtain ⟨position, holder, hlookup, hholds⟩ := hheld
  by_cases heq : position = index
  · subst heq
    obtain rfl : holder = task := Option.some.inj (hlookup.symm.trans htask)
    exact held_after htask (hown hholds)
  · exact ⟨position, holder, lookup_other heq hlookup, hothers holder hholds⟩

end Held

/-- The number of tasks with a property changes by what the running task and its children do. -/
theorem count_resume {state : State Shared Task} (property : Task → Bool)
    (out : Outcome Shared Task) {index : Nat} {task : Task}
    (htask : state.tasks[index]? = some task) :
    (state.after index out).tasks.countP property + (property task).toNat =
      state.tasks.countP property + (property out.task).toNat + out.spawned.countP property := by
  obtain ⟨hlt, rfl⟩ := List.getElem?_eq_some_iff.mp htask
  have hle := List.boole_getElem_le_countP (p := property) (h := hlt)
  rw [State.after, List.countP_append, List.countP_set hlt]
  cases hbefore : property state.tasks[index] <;> cases hafter : property out.task <;>
    simp only [hbefore, Bool.toNat_true, Bool.toNat_false, Bool.false_eq_true, ↓reduceIte] at hle ⊢ <;>
    omega

/-! ### What one task holds alone -/

section Exclusive

variable {state : State Shared Task} {Duty : Type*} {Holds : Task → Duty → Prop}
  {tasks : List Task} {index : Nat} {task : Task} {out : Outcome Shared Task}

def Exclusive (Holds : Task → Duty → Prop) (tasks : List Task) : Prop :=
  ∀ (first second : Nat) (left right : Task) (duty : Duty), tasks[first]? = some left →
    tasks[second]? = some right → Holds left duty → Holds right duty → first = second

theorem exclusive_of_pairwise
    (hapart : tasks.Pairwise fun left right => ∀ duty, Holds left duty → ¬ Holds right duty) :
    Exclusive Holds tasks := by
  intro first second left right duty hfirst hsecond hleft hright
  obtain ⟨hfirst', rfl⟩ := List.getElem?_eq_some_iff.mp hfirst
  obtain ⟨hsecond', rfl⟩ := List.getElem?_eq_some_iff.mp hsecond
  rcases Nat.lt_trichotomy first second with hlt | heq | hlt
  · exact absurd hright (List.pairwise_iff_getElem.mp hapart _ _ hfirst' hsecond' hlt duty hleft)
  · exact heq
  · exact absurd hleft (List.pairwise_iff_getElem.mp hapart _ _ hsecond' hfirst' hlt duty hright)

theorem exclusive_call (hexclusive : Exclusive Holds state.tasks)
    (hidle : ∀ duty, ¬ Holds task duty) : Exclusive Holds (state.call task).tasks := by
  have hlookup : ∀ {position : Nat} {holder : Task} {duty : Duty},
      (state.call task).tasks[position]? = some holder → Holds holder duty →
        state.tasks[position]? = some holder := by
    intro position holder duty hposition hholds
    rcases lookup_of_call hposition with hold | rfl
    · exact hold
    · exact absurd hholds (hidle duty)
  intro first second left right duty hfirst hsecond hleft hright
  exact hexclusive first second left right duty (hlookup hfirst hleft) (hlookup hsecond hright)
    hleft hright

/-- A stretch keeps holdings exclusive when what it ends up holding, itself or through one child, is what it held or what no other task holds. -/
theorem exclusive_resume (htask : state.tasks[index]? = some task)
    (hexclusive : Exclusive Holds state.tasks)
    (hfresh : ∀ holder ∈ out.task :: out.spawned, ∀ duty, Holds holder duty →
      Holds task duty ∨ ∀ position other, position ≠ index →
        state.tasks[position]? = some other → ¬ Holds other duty)
    (hsplit : Exclusive Holds (out.task :: out.spawned)) :
    Exclusive Holds (state.after index out).tasks := by
  have hapart : ∀ holder ∈ out.task :: out.spawned, ∀ duty, Holds holder duty →
      ∀ position other, position ≠ index → state.tasks[position]? = some other →
        ¬ Holds other duty := by
    intro holder hmem duty hholds position other hne hlookup hother
    rcases hfresh holder hmem duty hholds with hbefore | hnone
    · exact hne (hexclusive position index other task duty hlookup htask hother hbefore)
    · exact hnone position other hne hlookup hother
  have hchildMem : ∀ {offset : Nat} {other : Task}, out.spawned[offset]? = some other →
      other ∈ out.task :: out.spawned := fun h => List.mem_cons_of_mem _ (List.mem_of_getElem? h)
  have hchildAt : ∀ {offset : Nat} {other : Task}, out.spawned[offset]? = some other →
      (out.task :: out.spawned)[offset + 1]? = some other := fun h => by simpa using h
  intro first second left right duty hfirst hsecond hleft hright
  rcases lookup_after hfirst with ⟨hfirst', rfl⟩ | ⟨hne, hold⟩ | ⟨hnew, hchild⟩ <;>
    rcases lookup_after hsecond with ⟨hsecond', rfl⟩ | ⟨hne', hold'⟩ | ⟨hnew', hchild'⟩
  · exact hfirst'.trans hsecond'.symm
  · exact absurd hright (hapart out.task List.mem_cons_self duty hleft second right hne' hold')
  · have := hsplit 0 _ _ _ duty (by simp) (hchildAt hchild') hleft hright
    omega
  · exact absurd hleft (hapart out.task List.mem_cons_self duty hright first left hne hold)
  · exact hexclusive first second left right duty hold hold' hleft hright
  · exact absurd hleft (hapart right (hchildMem hchild') duty hright first left hne hold)
  · have := hsplit 0 _ _ _ duty (by simp) (hchildAt hchild) hright hleft
    omega
  · exact absurd hright (hapart left (hchildMem hchild) duty hleft second right hne' hold')
  · have := hsplit _ _ _ _ duty (hchildAt hchild) (hchildAt hchild') hleft hright
    omega

end Exclusive

end TaskSystem
