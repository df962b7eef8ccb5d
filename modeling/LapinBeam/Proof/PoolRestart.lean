import LapinBeam.Actor.Workers
import LapinBeam.Proof.Mail

/-!
# A pool in a group restart

A worker serves its pool from the moment it reads its start message. Nothing sends it another one,
so once it has left its loop its next generation, if it gets one, waits forever, and the executor is
gone for all workers of the pool. As long as no cancellation reaches a worker in its loop and no
exception leaves the loop by itself, the worker stays there.
-/

namespace LapinBeam.Actor

open Asyncio (TaskId Loop)

def Effect.struck (runtime : Runtime) (effect : Effect) : List TaskId :=
  match effect with
  | .cancel task => runtime.loop.targets runtime.nextTask task
  | effect =>
      match (effect.exitTarget runtime).bind runtime.victim with
      | some (_, driver) => runtime.loop.targets runtime.nextTask driver
      | none => []

theorem Effect.struck_of_victim {effect : Effect} {runtime : Runtime} {target : String}
    {child : ChildId} {driver : TaskId} (haim : effect.exitTarget runtime = some target)
    (hvictim : runtime.victim target = some (child, driver)) :
    effect.struck runtime = runtime.loop.targets runtime.nextTask driver := by
  cases effect with
  | cancel => cases haim
  | _ => simp [struck, haim, hvictim]

theorem Effect.cancelled_apply {effect : Effect} {runtime : Runtime} {id : TaskId}
    (hcancelled : (effect.apply runtime).cancelled id = true) :
    runtime.cancelled id = true ∨ id ∈ effect.struck runtime := by
  have happlied := effect.applied runtime
  generalize effect.apply runtime = after at happlied hcancelled
  cases happlied with
  | kept => exact .inl hcancelled
  | kill haim hvictim =>
      rw [struck_of_victim haim hvictim]
      exact Loop.mustCancel_cancel.mp hcancelled
  | acts hacts =>
      cases effect with
      | cancel task => exact Loop.mustCancel_cancel.mp hcancelled
      | cleanup child takeExit => cases takeExit <;> exact .inl hcancelled
      | spawn supervisor name kind => cases kind <;> exact .inl hcancelled
      | _ => first | (cases hacts; done) | exact .inl hcancelled

theorem Stretch.of_dequeue {runtime : Runtime} {self : TaskId} {frame : Frame} {move : Move}
    {mailbox : MailboxId} (hstretch : Stretch runtime self frame move)
    (heffect : move.effect = .dequeue mailbox) :
    ∃ child msg, move.frame = .driver child mailbox (.handling msg) := by
  cases hstretch with
  | received => cases heffect; exact ⟨_, _, rfl⟩
  | notified => split at heffect <;> cases heffect
  | @called call _ hplain hcall =>
      obtain rfl := heffect
      cases call <;> first | (cases hplain; done) | cases hcall
  | _ => cases heffect

namespace PoolNode

def struck (state : PoolNode) : Action → List TaskId
  | .act id input =>
      match (state.node.tasks[id]?).bind fun task =>
          task.frame.move state.node.shared id input with
      | some move => move.effect.struck state.node.shared
      | none => []
  | .spawnWorker _ _ _ => []

/-- The loop of a worker ends only when the worker is cancelled. -/
def contained (state : PoolNode) : Action → Bool
  | .act id input =>
      (state.serving id).isNone || (input = .unwound && state.node.shared.cancelled id)
  | .spawnWorker _ _ _ => true

def spares (state : PoolNode) (action : Action) : Bool :=
  state.contained action && (state.struck action).all fun id => (state.serving id).isNone

def Serves (state : PoolNode) (worker : ChildId) : Prop :=
  (∃ mailbox, (state.node.shared.children worker).kind = .actor mailbox ∧
      startMessage ∈ (state.node.shared.mailboxes mailbox).queue) ∨
    ∃ id mailbox msg, At state.node id (.driver worker mailbox (.handling msg))

structure Kept (state : PoolNode) : Prop where
  formed : WellFormed state.node
  caller : ∃ rest, At state.node 0 (.outside rest)
  spawned : ∀ worker ∈ state.workers, worker.1 < state.node.shared.nextChild
  calm : ∀ id pool, state.serving id = some pool → state.node.shared.cancelled id = false
  serves : ∀ worker ∈ state.workers, state.Serves worker.1
  unshut : state.shut = []

section Step

variable {state : PoolNode} {self id : TaskId} {input : Input} {frame : Frame} {move : Move}
  {mailbox : MailboxId} {pool : PoolId} {supervisor : SupervisorId} {name : String}

theorem serving_of_at {child : ChildId} {msg : Message}
    (hat : At state.node id (.driver child mailbox (.handling msg))) :
    state.serving id = state.workers.lookup child := by
  simp only [At] at hat
  simp [serving, hat]

theorem at_of_serving (hserving : state.serving id = some pool) (hformed : WellFormed state.node) :
    ∃ child mailbox msg, At state.node id (.driver child mailbox (.handling msg)) ∧
      state.workers.lookup child = some pool := by
  unfold serving at hserving
  split at hserving
  next id' child mailbox msg htask =>
    obtain rfl := hformed.mirrored.identity _ _ htask
    exact ⟨child, mailbox, msg, htask, hserving⟩
  next => cases hserving

theorem Serves.next (hkept : Kept state) (hresumed : Resumed state.node self input frame move)
    (hfree : state.serving self = none) {worker : ChildId × PoolId} (hworker : worker ∈ state.workers) :
    Serves { state with node := move.next state.node self } worker.1 := by
  have hlt := hkept.spawned worker hworker
  rcases hkept.serves worker hworker with ⟨mailbox, hkind, hstart⟩ | ⟨id, mailbox, msg, hat⟩
  · have hkind' : ((move.next state.node self).shared.children worker.1).kind = .actor mailbox :=
      (Known.sameChild_next move self hlt).kind.trans hkind
    obtain rfl := hkept.formed.known.mailbox _ _ hlt hkind
    rcases Effect.mailbox_cases state.node.shared worker.1 move.effect with
      hposted | ⟨heffect, -⟩ | ⟨_, _, heffect, -⟩
    · refine .inl ⟨_, hkind', ?_⟩
      rw [mailboxes_next]
      rcases hposted with heq | ⟨msg, -, heq⟩
      · rwa [heq]
      · rw [heq]
        exact List.mem_append_left _ hstart
    · obtain ⟨child, msg, hframe⟩ := hresumed.stretch.of_dequeue heffect
      have hat : At (move.next state.node self) self (.driver child worker.1 (.handling msg)) :=
        hframe ▸ Mirrored.at_next_self hresumed
      have hknown := (hkept.formed.next hresumed).known
      obtain rfl : worker.1 = child := hknown.mailbox child worker.1
        (hknown.frames _ _ hat child List.mem_cons_self) (hknown.reads _ _ _ _ hat)
      exact .inr ⟨self, _, msg, hat⟩
    · have hfresh := ((hresumed.stretch.origin heffect).2.2 _ rfl).1
      exact absurd hlt (hfresh ▸ Nat.lt_irrefl _)
  · have hne : id ≠ self := by
      rintro rfl
      rw [serving_of_at hat, List.lookup_eq_none_iff] at hfree
      simpa using hfree worker hworker
    exact .inr ⟨id, mailbox, msg, Mirrored.at_next_other hne hat⟩

theorem calm_next (hkept : Kept state) (hresumed : Resumed state.node self input frame move)
    (hspares : ∀ id ∈ move.effect.struck state.node.shared, state.serving id = none)
    (hserving : { state with node := move.next state.node self }.serving id = some pool) :
    (move.next state.node self).shared.cancelled id = false := by
  have hmirrored := hkept.formed.mirrored
  obtain ⟨child, mailbox, msg, hat, hlookup⟩ := at_of_serving hserving (hkept.formed.next hresumed)
  rcases hmirrored.at_next hat with ⟨rfl, -⟩ | ⟨hne, hold⟩ | ⟨-, hspawned⟩
  · rw [Runtime.cancelled, loop_next _ _ _ (hmirrored.lt_of_at hresumed.here), if_pos rfl]
  · have hserved : state.serving id = some pool := (serving_of_at hold).trans hlookup
    rw [Runtime.cancelled, loop_next _ _ _ (hmirrored.lt_of_at hold), if_neg hne]
    refine Bool.eq_false_iff.mpr fun hcancelled => ?_
    rcases Effect.cancelled_apply hcancelled with hbefore | hstruck
    · rw [hkept.calm id pool hserved] at hbefore
      cases hbefore
    · rw [hspares id hstruck] at hserved
      cases hserved
  · rcases hresumed.stretch.spawned_cases hspawned with
      ⟨_, _, heq, -⟩ | ⟨_, heq, -⟩ | ⟨_, heq⟩ <;> cases heq

theorem Kept.next (hkept : Kept state) (hresumed : Resumed state.node self input frame move)
    (hfree : state.serving self = none)
    (hspares : ∀ id ∈ move.effect.struck state.node.shared, state.serving id = none) :
    Kept { state with node := move.next state.node self } where
  formed := hkept.formed.next hresumed
  caller := by
    obtain ⟨rest, hat⟩ := hkept.caller
    obtain ⟨later, hlater, hrole⟩ := Mirrored.exists_at_next hresumed hat
    cases later <;> cases hrole
    exact ⟨_, hlater⟩
  spawned worker hworker := Known.lt_next self (.inl (hkept.spawned worker hworker))
  calm _ _ hserving := calm_next hkept hresumed hspares hserving
  serves _ hworker := .next hkept hresumed hfree hworker
  unshut := hkept.unshut

theorem Kept.call (hkept : Kept state) {call : Call} {node : System}
    (hstep : Actor.step state.node (.resume 0 (.call call)) = some node)
    (hstruck : ∀ move, call.move state.node.shared = some move →
      move.effect.struck state.node.shared = []) :
    Kept { state with node } ∧
      ∃ move, call.move state.node.shared = some move ∧ node = move.next state.node 0 := by
  obtain ⟨_, _, frame, move, hresumed, ⟨⟩, rfl⟩ := hkept.formed.mirrored.step_cases hstep
  obtain ⟨rest, hat⟩ := hkept.caller
  obtain rfl := hresumed.here.unique hat
  have hmove := hresumed.eq_some
  cases rest with
  | cons => cases hmove
  | nil =>
      refine ⟨hkept.next hresumed ?_ (by simp [hstruck move hmove]), move, hmove, rfl⟩
      have hhere : state.node.tasks[0]? = some ⟨0, .outside []⟩ := hat
      simp [serving, hhere]

def spawnMove (runtime : Runtime) (supervisor : SupervisorId) (name : String) : Move :=
  ⟨.spawn supervisor name (.actor runtime.nextChild), .outside [],
    [.child runtime.nextChild (.attempting true)]⟩

def startMove (name : String) : Move := ⟨.sendLocal name startMessage, .outside [], []⟩

theorem call_spawn {runtime : Runtime}
    (hmove : (Call.spawn supervisor name).move runtime = some move) :
    move = spawnMove runtime supervisor name := by
  simp only [Call.move, Option.ite_none_right_eq_some, Option.some.injEq] at hmove
  exact hmove.2.symm

theorem mem_sendLocal {runtime : Runtime} {msg : Message}
    (hname : runtime.names name = some mailbox) (hroom : (runtime.mailboxes mailbox).full = false) :
    msg ∈ ((runtime.sendLocal name msg).mailboxes mailbox).queue := by
  simp [Runtime.sendLocal, hname, hroom, Mailbox.put]

theorem start_mem_queue (system : System) (supervisor : SupervisorId) (name : String) :
    startMessage ∈ (((startMove name).next
      ((spawnMove system.shared supervisor name).next system 0) 0).shared.mailboxes
        system.shared.nextChild).queue := by
  refine mem_sendLocal ?_ ?_
  · simp [spawnMove, Effect.apply, Runtime.spawn, Runtime.registerActor]
  · simp only [mailboxes_next, spawnMove, Effect.apply, Runtime.spawn, Function.update_self,
      Mailbox.full, List.length_nil, Nat.le_zero]
    simp only [Bool.and_eq_false_iff, decide_eq_false_iff_not]
    omega

theorem driver_after_spawn {system : System} (hmirrored : Mirrored system) {child : ChildId}
    {stage : DriverStage}
    (hmirrored' : Mirrored ((spawnMove system.shared supervisor name).next system 0))
    (hat : At ((startMove name).next ((spawnMove system.shared supervisor name).next system 0) 0) id
      (.driver child mailbox stage)) : At system id (.driver child mailbox stage) := by
  rcases hmirrored'.at_next hat with ⟨-, heq⟩ | ⟨-, hold⟩ | ⟨-, hspawned⟩
  · cases heq
  · rcases hmirrored.at_next hold with ⟨-, heq⟩ | ⟨-, hold⟩ | ⟨-, hspawned⟩
    · cases heq
    · exact hold
    · simp only [spawnMove, List.getElem?_singleton, Option.ite_none_right_eq_some] at hspawned
      cases hspawned.2
  · cases hspawned

theorem Kept.spawnWorker (hkept : Kept state) {spawned node : System}
    (hspawn : Actor.step state.node (.resume 0 (.call (.spawn supervisor name))) = some spawned)
    (hsend : Actor.step spawned (.resume 0 (.call (.sendLocal name startMessage))) = some node) :
    Kept { state with
      node, workers := (state.node.shared.nextChild, pool) :: state.workers } := by
  obtain ⟨hspawned, move, hmove, rfl⟩ := hkept.call hspawn fun move hmove => by
    rw [call_spawn hmove]
    rfl
  obtain rfl := call_spawn hmove
  obtain ⟨hsent, _, ⟨⟩, rfl⟩ := hspawned.call hsend fun move hmove => by
    cases hmove
    rfl
  refine ⟨hsent.formed, hsent.caller, ?_, ?_, ?_, hsent.unshut⟩
  · refine List.forall_mem_cons.mpr ⟨?_, hsent.spawned⟩
    exact Known.lt_next 0 (.inl (Known.lt_next 0 (.inr ⟨_, _, _, rfl, rfl⟩)))
  · intro id pool' hserving
    obtain ⟨child, mailbox, msg, hat, hlookup⟩ := at_of_serving hserving hsent.formed
    have hdriver := driver_after_spawn hkept.formed.mirrored hspawned.formed.mirrored hat
    have hlt := hkept.formed.known.frames _ _ hdriver child List.mem_cons_self
    rw [List.lookup_cons, beq_eq_false_iff_ne.mpr hlt.ne] at hlookup
    refine hsent.calm id pool' (Eq.trans ?_ hlookup)
    exact serving_of_at hat
  · refine List.forall_mem_cons.mpr ⟨.inl ⟨_, ?_, start_mem_queue ..⟩, hsent.serves⟩
    have hlt : state.node.shared.nextChild <
        ((spawnMove state.node.shared supervisor name).next state.node 0).shared.nextChild :=
      Known.lt_next 0 (.inr ⟨_, _, _, rfl, rfl⟩)
    refine (Known.sameChild_next (startMove name) 0 hlt).kind.trans ?_
    rw [children_next, spawnMove, Effect.apply, Runtime.children_spawn, Function.update_self]

theorem Kept.step {action : Action} {next : PoolNode} (hkept : Kept state)
    (hspares : state.spares action = true) (hstep : state.step action = some next) : Kept next := by
  cases action with
  | spawnWorker pool supervisor name =>
      obtain ⟨spawned, hspawn, hsend⟩ := Option.bind_eq_some_iff.mp hstep
      obtain ⟨node, hnode, rfl⟩ := Option.map_eq_some_iff.mp hsend
      exact hkept.spawnWorker hspawn hnode
  | act id input =>
      simp only [PoolNode.step] at hstep
      split at hstep
      next hfree =>
        obtain ⟨node, hact, rfl⟩ := Option.map_eq_some_iff.mp hstep
        obtain ⟨_, _, frame, move, hresumed, ⟨⟩, rfl⟩ := hkept.formed.mirrored.step_cases hact
        refine hkept.next hresumed hfree fun id hid => ?_
        have hhere := hresumed.here
        simp only [At] at hhere
        simp only [spares, struck, hhere, Option.bind_some, hresumed.eq_some, Bool.and_eq_true,
          List.all_eq_true, Option.isNone_iff_eq_none] at hspares
        exact hspares.2 id hid
      next pool hserving =>
        simp [spares, contained, hserving, hkept.calm id pool hserving] at hspares

end Step

def start (localId : String) (mailboxCapacity : Option Nat) : PoolNode :=
  ⟨Actor.start localId mailboxCapacity, [], []⟩

theorem kept_start (localId : String) (mailboxCapacity : Option Nat) :
    Kept (start localId mailboxCapacity) where
  formed := .start _ _
  caller := ⟨[], rfl⟩
  spawned := by simp [start]
  calm := by
    intro id pool hserving
    obtain ⟨child, mailbox, msg, hat, -⟩ := at_of_serving hserving (.start _ _)
    cases (at_start hat).2
  serves := by simp [start]
  unshut := rfl

/-- In a run in which no worker is cancelled in its loop or leaves it by itself, every worker is in its loop or about to enter it, and no executor has been shut down. -/
theorem workers_keep_serving {localId : String} {mailboxCapacity : Option Nat} {state : PoolNode}
    (hreach : Machine.ReachableWhere step (fun state action => state.spares action = true)
      (start localId mailboxCapacity) state) :
    (∀ worker ∈ state.workers, state.Serves worker.1) ∧ state.shut = [] := by
  have hkept : Kept state := hreach.invariant (kept_start _ _) fun _ _ _ hkept hspares hstep =>
    hkept.step hspares hstep
  exact ⟨hkept.serves, hkept.unshut⟩

def acts (actions : List Actor.Action) : List Action :=
  actions.filterMap fun action =>
    match action with
    | .resume id input => some (.act id input)
    | .call _ => none

/-- An actor and a worker of pool 7 under one supervisor; the worker is in its loop when the actor crashes and is granted a restart. -/
def crashing (strategy : Strategy) : List Action :=
  acts [Fixed.ask (.newSupervisor { strategy }), Fixed.ask (.spawn 0 "actor")] ++
    [.spawnWorker 7 0 "worker"] ++
    acts (Fixed.launch 1 3 ++ Fixed.launch 2 4 ++ [Fixed.go 4] ++ Fixed.busy "actor" 3 ++
      Fixed.crash 1 3)

def restarting : List Action :=
  crashing .oneForOne ++ acts ([Fixed.go 1, Fixed.go 1, Fixed.go 1] ++ Fixed.launch 1 5)

theorem workers_keep_serving_oneForOne :
    ∃ state, Machine.ReachableWhere step (fun state action => state.spares action = true)
        (start "node" none) state ∧ (1, 7) ∈ state.workers ∧
      (∀ worker ∈ state.workers, state.Serves worker.1) ∧ state.shut = [] := by
  have hrun : (Machine.runWhere step (fun state action => state.spares action = true)
      (start "node" none) restarting).map (fun state => state.workers) = some [(1, 7)] := by
    decide +kernel
  obtain ⟨state, hreach, hworkers⟩ := Machine.exists_reachableWhere hrun
  exact ⟨state, hreach, by simp [hworkers], workers_keep_serving hreach⟩

def sweeping : List Action :=
  crashing .oneForAll ++
    acts ([Fixed.go 1, Fixed.go 1, .resume 4 .unwound, Fixed.go 2, Fixed.go 2, Fixed.go 1,
      Fixed.go 1, Fixed.go 1, Fixed.go 1] ++ Fixed.launch 1 6 ++ Fixed.launch 5 7)

def settled (state : PoolNode) : Bool :=
  state.node.tasks.all fun task =>
    match task.frame with
    | .child _ (.driving _) | .child _ (.finished _) | .driver _ _ .getting
    | .driver _ _ (.finished _) | .outside _ => true
    | _ => false

theorem not_serves_of_settled {state : PoolNode} {worker : ChildId}
    (hsettled : state.settled = true) (hqueues : ∀ mailbox,
      (state.node.shared.children worker).kind = .actor mailbox →
        startMessage ∉ (state.node.shared.mailboxes mailbox).queue) : ¬ state.Serves worker := by
  rintro (⟨mailbox, hkind, hstart⟩ | ⟨id, mailbox, msg, hat⟩)
  · exact hqueues mailbox hkind hstart
  · have htask := List.all_eq_true.mp hsettled _ (List.mem_of_getElem? hat)
    cases htask

/-- The next generation of the worker waits for a message nobody sends, and the executor is gone. -/
theorem swept_worker_idles :
    ∃ state, Machine.Reachable step (start "node" none) state ∧ state.settled = true ∧
      (∀ decision ∈ (state.node.shared.supervisors 0).decisions, decision.granted = true) ∧
      (1, 7) ∈ state.workers ∧ ¬ state.Serves 1 ∧ 7 ∈ state.shut := by
  have hrun : (Machine.runWhere step (fun _ _ => True) (start "node" none) sweeping).map
      (fun state => (state.settled, (state.node.shared.supervisors 0).decisions.all (·.granted),
        decide ((1, 7) ∈ state.workers ∧ 7 ∈ state.shut),
        decide ((state.node.shared.children 1).kind = .actor 1 ∧
          (state.node.shared.mailboxes 1).queue = []))) = some (true, true, true, true) := by
    decide +kernel
  obtain ⟨state, hreach, hobserved⟩ := Machine.exists_reachableWhere hrun
  simp only [Prod.mk.injEq, decide_eq_true_eq] at hobserved
  obtain ⟨hsettled, hgranted, ⟨hworker, hshut⟩, hkind, hqueue⟩ := hobserved
  refine ⟨state, hreach, hsettled, List.all_eq_true.mp hgranted, hworker,
    not_serves_of_settled hsettled fun mailbox hmailbox => ?_, hshut⟩
  obtain rfl : 1 = mailbox := ChildKind.actor.inj (hkind.symm.trans hmailbox)
  simp [hqueue]

end PoolNode

end LapinBeam.Actor
