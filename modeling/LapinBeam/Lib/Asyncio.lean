import Mathlib.Data.List.Basic

/-!
# Tasks of an event loop that await and cancel each other

What an asyncio event loop knows of each task: what it is suspended on, and whether a cancellation
is waiting to be thrown into it. Cancelling a task that awaits another one forwards the request to
that one; cancelling a `gather` forwards it to all its tasks; everywhere else the task is marked,
and `CancelledError` is thrown when it resumes. A task that is done cannot be cancelled.
-/

namespace Asyncio

variable {Outcome : Type*}

abbrev TaskId := Nat

inductive Await (Outcome : Type*)
  /-- Not suspended: nothing else runs before it is. -/
  | running
  /-- On something that is not a task: a timer, a queue, an event, its own first step. -/
  | outside
  | task (id : TaskId)
  | gather (ids : List TaskId)
  | done (outcome : Outcome)

structure Future (Outcome : Type*) where
  await : Await Outcome
  mustCancel : Bool

def Future.isDone (future : Future Outcome) : Bool :=
  match future.await with
  | .done _ => true
  | _ => false

abbrev Loop (Outcome : Type*) := TaskId → Future Outcome

namespace Loop

/-- Where a cancellation ends up. The chain of awaited tasks is followed at most `depth` links far, which is all of it unless it closes on itself. -/
def targets (loop : Loop Outcome) : Nat → TaskId → List TaskId
  | 0, _ => []
  | depth + 1, id =>
      match (loop id).await with
      | .done _ => []
      | .running | .outside => [id]
      | .task other => if (loop other).isDone then [id] else loop.targets depth other
      | .gather others => id :: others.flatMap (loop.targets depth)

def cancel (loop : Loop Outcome) (depth : Nat) (id : TaskId) : Loop Outcome := fun task =>
  if task ∈ loop.targets depth id then { loop task with mustCancel := true } else loop task

def ready (loop : Loop Outcome) (id : TaskId) : Bool :=
  match (loop id).await with
  | .running | .outside => true
  | .task other => (loop other).isDone || (loop id).mustCancel
  | .gather others => others.all fun other => (loop other).isDone
  | .done _ => false

section Cancel

variable {loop : Loop Outcome} {depth : Nat} {id task : TaskId}

@[simp]
theorem await_cancel : (loop.cancel depth id task).await = (loop task).await := by
  unfold cancel
  split <;> rfl

theorem mustCancel_cancel :
    (loop.cancel depth id task).mustCancel = true ↔
      (loop task).mustCancel = true ∨ task ∈ loop.targets depth id := by
  unfold cancel
  split <;> simp_all

/-- Where a request may be left: with a task that is not done, and that does not wait for a task that is not done. -/
structure Receptive (loop : Loop Outcome) (task : TaskId) : Prop where
  live : (loop task).isDone = false
  settled : ∀ other, (loop task).await = .task other → (loop other).isDone = true

theorem receptive_of_mem_targets (hmem : task ∈ loop.targets depth id) : loop.Receptive task := by
  induction depth generalizing id with
  | zero => simp [targets] at hmem
  | succ depth ih =>
      simp only [targets] at hmem
      split at hmem
      next => simp at hmem
      next hawait =>
        obtain rfl := List.mem_singleton.mp hmem
        exact ⟨by simp [Future.isDone, hawait], by simp [hawait]⟩
      next hawait =>
        obtain rfl := List.mem_singleton.mp hmem
        exact ⟨by simp [Future.isDone, hawait], by simp [hawait]⟩
      next other hawait =>
        split at hmem
        next hdone =>
          obtain rfl := List.mem_singleton.mp hmem
          refine ⟨by simp [Future.isDone, hawait], fun awaited heq => ?_⟩
          rw [hawait] at heq
          cases heq
          exact hdone
        next => exact ih hmem
      next others hawait =>
        rcases List.mem_cons.mp hmem with rfl | hrest
        · exact ⟨by simp [Future.isDone, hawait], by simp [hawait]⟩
        · obtain ⟨other, -, hother⟩ := List.mem_flatMap.mp hrest
          exact ih hother

theorem mem_targets_of_outside (hawait : (loop id).await = .outside) :
    id ∈ loop.targets (depth + 1) id := by
  simp [targets, hawait]

theorem targets_of_task {other : TaskId} (hawait : (loop id).await = .task other)
    (hlive : (loop other).isDone = false) :
    loop.targets (depth + 1) id = loop.targets depth other := by
  simp [targets, hawait, hlive]

theorem mem_targets_of_task {other : TaskId} (hawait : (loop id).await = .task other)
    (hdone : (loop other).isDone = true) : id ∈ loop.targets (depth + 1) id := by
  simp [targets, hawait, hdone]

end Cancel

end Loop

end Asyncio
