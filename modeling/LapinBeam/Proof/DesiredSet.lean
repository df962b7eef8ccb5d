import LapinBeam.Transport.Stretch

/-!
# Who puts peers into the desired set, and who takes them out

Only `dial` adds a peer, right after its check; `forget_peer`, `shutdown` and a reconnect loop that
gives up take one out. The locks are taken one at a time, so both halves of the contract have a
gap: a `connect` that finds the peer connected adds nothing, and a dial that was already under way
when the peer was forgotten adds it again.
-/

namespace LapinBeam

open TaskSystem

def Task.undesires (peer : NodeId) : Task → Bool
  | .forgetPeer forgotten .undesiring => forgotten = peer
  | .reconnectLoop lost _ .givingUp => lost = peer
  | .shutdown .clearingDesired => true
  | _ => false

def Task.connecting : Task → Option NodeId
  | .dial .connect _ .checkingPeer | .dial .connect _ .desiring => none
  | .dial .connect peer _ => some peer
  | .dialed .connect peer true => some peer
  | _ => none

def Task.restoring : Task → Option NodeId
  | .dial _ peer stage => if stage.registered = none then some peer else none
  | .reconnectLoop peer _ .checkingPeer => some peer
  | _ => none

def Task.forgetting : Task → Option NodeId
  | .forgetPeer peer .removing | .forgetPeer peer (.emitting _) => some peer
  | _ => none

theorem Task.unconcerned_of_bystander {task : Task} (hbystander : task.bystander = true) :
    task.connecting = none ∧ task.restoring = none ∧ task.forgetting = none := by
  cases task <;> first | exact ⟨rfl, rfl, rfl⟩ | cases hbystander

section Step

variable {transport : Transport} {task : Task} {move : Move} {peer : NodeId}

section

variable (hstretch : Stretch transport task move)

include hstretch

theorem Stretch.undesires (hbefore : peer ∈ transport.desired)
    (hafter : peer ∉ (move.effect.apply transport).desired) : task.undesires peer = true := by
  cases hstretch with
  | other _ _ hquiet | introduce _ _ hquiet | routeOn hquiet | routed hquiet =>
      rw [(Effect.undisturbed hquiet transport).desired] at hafter
      exact absurd hbefore hafter
  | _ => simp_all [Effect.apply, Task.undesires]

theorem Stretch.desires (hbefore : peer ∉ transport.desired)
    (hafter : peer ∈ (move.effect.apply transport).desired) : task.restoring = some peer := by
  cases hstretch with
  | other _ _ hquiet | introduce _ _ hquiet | routeOn hquiet | routed hquiet =>
      rw [(Effect.undisturbed hquiet transport).desired] at hafter
      exact absurd hafter hbefore
  | _ => simp_all [Effect.apply, Task.restoring, Dial.registered]

theorem Stretch.connecting_cases :
    ∀ holder ∈ move.task :: move.spawned, holder.connecting = some peer →
      task.connecting = some peer ∨ peer ∈ (move.effect.apply transport).desired ∨
        task = .dial .connect peer .checkingPeer ∧ transport.hasPeer peer = true ∧
          move.effect = .skip := by
  cases hstretch with
  | other _ hafter _ hspawned => simp [hspawned, (Task.unconcerned_of_bystander hafter).1]
  | @introduce caller _ dial dial' conn effect hbefore hafter hquiet =>
      simp only [List.mem_singleton, forall_eq]
      intro hconnecting
      refine .inl ?_
      cases caller with
      | connect => cases dial <;> cases dial' <;> simp_all [Task.connecting, Dial.registered]
      | reconnectLoop attempts => simp [Task.connecting] at hconnecting
  | @present caller found hpeer =>
      simp only [List.mem_singleton, forall_eq]
      intro hconnecting
      cases caller with
      | connect =>
          obtain rfl : found = peer := Option.some.inj hconnecting
          exact .inr (.inr ⟨rfl, hpeer, trivial⟩)
      | reconnectLoop attempts => cases hconnecting
  | @absent caller | @desire caller | @connected caller | @dialFailed caller
  | @yield caller | @dialRegister caller | @handOver caller =>
      cases caller <;> simp_all [Task.connecting, Effect.apply]
  | _ => simp_all [Task.connecting]

theorem Stretch.restoring_cases :
    ∀ holder ∈ move.task :: move.spawned, holder.restoring = some peer →
      task.restoring = some peer ∨ peer ∈ transport.desired := by
  cases hstretch with
  | other _ hafter _ hspawned => simp [hspawned, (Task.unconcerned_of_bystander hafter).2.1]
  | stillDesired hdesired =>
      simp only [List.mem_singleton, forall_eq, Task.restoring, Option.some.injEq]
      rintro rfl
      exact .inr hdesired
  | _ => simp_all [Task.restoring, Dial.registered]

end

theorem Stretch.restoring_of_dial {caller : Dialer} {stage : Dial}
    (hstretch : Stretch transport (.dial caller peer stage) move)
    (hpeers : (move.effect.apply transport).peers peer ≠ transport.peers peer) :
    (Task.dial caller peer stage).restoring = some peer := by
  cases hstretch with
  | other hbefore => cases hbefore
  | introduce _ _ hquiet =>
      rw [(Effect.undisturbed hquiet transport).peers] at hpeers
      exact absurd rfl hpeers
  | dialRegister => rfl
  | _ => exact absurd rfl hpeers

theorem Stretch.forgetting_cases (hstretch : Stretch transport task move) :
    ∀ holder ∈ move.task :: move.spawned, holder.forgetting = some peer →
      task.forgetting = some peer ∨ task = .forgetPeer peer .undesiring ∧
        move.effect = .undesire peer ∧ holder.restoring = none ∧ move.spawned = [] := by
  cases hstretch with
  | other _ hafter _ hspawned => simp [hspawned, (Task.unconcerned_of_bystander hafter).2.2]
  | _ => simp_all [Task.forgetting, Task.restoring]

end Step

theorem Task.unconcerned_of_entry {task : Task} (hentry : task.entry = true) :
    task.connecting = none ∧ task.forgetting = none ∧
      ∀ peer, task.restoring = some peer → task = .dial .connect peer .checkingPeer := by
  cases Task.entry_cases hentry <;>
    simp [Task.connecting, Task.forgetting, Task.restoring, Dial.registered]

namespace Transport

variable {externals : Externals} {localId : NodeId} {config : TransportConfig}
  {inboxes : Mailbox → Inbox} {system next later : System} {action : Action} {index : Nat}
  {input : Input} {peer : NodeId}

/-- No peer is taken out of the desired set while a `connect` to it is under way, and a `connect` that finds its peer connected finds it desired. -/
def MarksDesired (system : System) (action : Action) : Prop :=
  match resumed system action with
  | some (.dial .connect peer .checkingPeer) =>
      system.shared.hasPeer peer = true → peer ∈ system.shared.desired
  | some (.forgetPeer peer .undesiring) | some (.reconnectLoop peer _ .givingUp) =>
      ∀ task ∈ system.tasks, task.connecting ≠ some peer
  | some (.shutdown .clearingDesired) => ∀ task ∈ system.tasks, task.connecting = none
  | _ => True

instance (system : System) (action : Action) : Decidable (MarksDesired system action) := by
  unfold MarksDesired
  split <;> infer_instance

/-- The step takes `peer` out of the desired set: `forget_peer(peer)`, `shutdown` or a give-up on it. -/
def Undesires (peer : NodeId) (system : System) (action : Action) : Prop :=
  ∃ task, resumed system action = some task ∧ task.undesires peer = true

theorem desired_step (hdesired : peer ∈ system.shared.desired)
    (hkept : ¬ Undesires peer system action)
    (hstep : step externals system action = some next) : peer ∈ next.shared.desired := by
  obtain ⟨task, rfl, -, rfl⟩ | ⟨index, input, task, move, rfl, htask, hstretch, rfl⟩ :=
    step_cases hstep
  · exact hdesired
  · by_contra hgone
    exact hkept ⟨task, htask, hstretch.undesires hdesired hgone⟩

theorem MarksDesired.not_undesires (hmarks : MarksDesired system action) {task : Task}
    (hmem : task ∈ system.tasks) (hconnecting : task.connecting = some peer) :
    ¬ Undesires peer system action := by
  rintro ⟨remover, hresumed, hundesires⟩
  simp only [MarksDesired, hresumed] at hmarks
  revert hundesires hmarks
  fun_cases Task.undesires <;> intro hundesires hmarks
  · exact hmarks task hmem (by simpa [of_decide_eq_true hundesires] using hconnecting)
  · exact hmarks task hmem (by simpa [of_decide_eq_true hundesires] using hconnecting)
  · simp [hmarks task hmem] at hconnecting
  · cases hundesires

def ConnectingDesired (system : System) : Prop :=
  ∀ task ∈ system.tasks, ∀ peer, task.connecting = some peer → peer ∈ system.shared.desired

theorem ConnectingDesired.step (hdesired : ConnectingDesired system)
    (hmarks : MarksDesired system action)
    (hstep : Transport.step externals system action = some next) : ConnectingDesired next := by
  have hold : ∀ task ∈ system.tasks, ∀ peer, task.connecting = some peer →
      peer ∈ next.shared.desired := fun task hmem peer hconnecting =>
    desired_step (hdesired task hmem peer hconnecting)
      (hmarks.not_undesires hmem hconnecting) hstep
  obtain ⟨task, rfl, hentry, rfl⟩ | ⟨index, input, task, move, rfl, htask, hstretch, rfl⟩ :=
    step_cases hstep
  · intro holder hmem peer hconnecting
    rcases mem_call hmem with hbefore | rfl
    · exact hold holder hbefore peer hconnecting
    · rw [(Task.unconcerned_of_entry hentry).1] at hconnecting
      cases hconnecting
  · intro holder hmem peer hconnecting
    rcases mem_after hmem with ⟨position, -, hlookup⟩ | hnew
    · exact hold holder (List.mem_of_getElem? hlookup) peer hconnecting
    · rcases hstretch.connecting_cases holder hnew hconnecting with hbefore | hafter |
        ⟨rfl, hpeer, heffect⟩
      · exact hold task (List.mem_of_getElem? htask) peer hbefore
      · exact hafter
      · have hresumed : resumed system (.resume index input) =
            some (.dial .connect peer .checkingPeer) := htask
        simp only [MarksDesired, hresumed] at hmarks
        simpa [Move.outcome, State.after, heffect, Effect.apply] using hmarks hpeer

theorem connectingDesired_of_reachable
    (hreach : Machine.ReachableWhere (step externals) MarksDesired (start localId config inboxes)
      system) : ConnectingDesired system := by
  refine hreach.invariant ?_ fun _ _ _ hdesired hmarks hstep => hdesired.step hmarks hstep
  intro task hmem peer hconnecting
  rcases List.mem_pair.mp hmem with rfl | rfl <;> cases hconnecting

/-- When `connect` returns `Ok` its peer is desired, and stays so until it is forgotten, given up on, or everything is shut down. -/
theorem connect_ok_makes_desired
    (hreach : Machine.ReachableWhere (step externals) MarksDesired (start localId config inboxes)
      system)
    (htask : system.tasks[index]? = some (.dialed .connect peer true)) :
    peer ∈ system.shared.desired ∧
      ∀ later, Machine.ReachableWhere (step externals)
        (fun system action => ¬ Undesires peer system action) system later →
        peer ∈ later.shared.desired := by
  have hdesired := connectingDesired_of_reachable hreach _ (List.mem_of_getElem? htask) peer rfl
  refine ⟨hdesired, fun later hlater => ?_⟩
  induction hlater with
  | start => exact hdesired
  | step action _ hkept hstep ih => exact desired_step ih hkept hstep

theorem connect_ok_makes_desired_dialed :
    ∃ system, Machine.ReachableWhere (step Fixed.externals) MarksDesired Fixed.start system ∧
      system.tasks[2]? = some (.dialed .connect Fixed.peer true) ∧
      Fixed.peer ∈ system.shared.desired := by
  have hrun : (Machine.runWhere (step Fixed.externals) MarksDesired Fixed.start Fixed.dialed).map
      (fun system => system.tasks[2]?) = some (some (.dialed .connect Fixed.peer true)) := by
    decide +kernel
  obtain ⟨system, hreach, htask⟩ := Machine.exists_reachableWhere hrun
  exact ⟨system, hreach, htask, (connect_ok_makes_desired hreach htask).1⟩

def connectAfterAccept : List Action :=
  [.resume 0 (.accepted 1), .resume 2 .go,
    .resume 2 (.read (.frames [.handshake 1 "a@h:2"])), .resume 2 .go, .resume 2 .go,
    .resume 2 .go, .call (.dial .connect Fixed.peer .checkingPeer), .resume 4 .go]

/-- Then `connect` returns `Ok` and marks nothing. -/
theorem connect_ok_not_desired :
    ∃ system, Machine.Reachable (step Fixed.externals) Fixed.start system ∧
      system.tasks[4]? = some (.dialed .connect Fixed.peer true) ∧
      Fixed.peer ∉ system.shared.desired := by
  have hrun : (Machine.runWhere (step Fixed.externals) (fun _ _ => True) Fixed.start
      connectAfterAccept).map (fun system => (system.tasks[4]?, system.shared.desired)) =
      some (some (.dialed .connect Fixed.peer true), ∅) := by
    decide +kernel
  obtain ⟨system, hreach, hobserved⟩ := Machine.exists_reachableWhere hrun
  obtain ⟨htask, hdesired⟩ := Prod.mk.inj hobserved
  exact ⟨system, hreach, htask, by simp [hdesired]⟩

/-- `forget_peer` takes its peer out of the desired set while nothing is left that could put it back, and `connect` is not called before it has returned. -/
def ForgetsAlone (system : System) (action : Action) : Prop :=
  match action, resumed system action with
  | .call (.dial _ peer _), _ => ∀ task ∈ system.tasks, task.forgetting ≠ some peer
  | _, some (.forgetPeer peer .undesiring) => ∀ task ∈ system.tasks, task.restoring ≠ some peer
  | _, _ => True

instance (system : System) (action : Action) : Decidable (ForgetsAlone system action) := by
  unfold ForgetsAlone
  split <;> infer_instance

def ConnectsTo (peer : NodeId) (action : Action) : Prop :=
  action = .call (.dial .connect peer .checkingPeer)

theorem connectsTo_call {task : Task} :
    task = .dial .connect peer .checkingPeer ↔ ConnectsTo peer (.call task) :=
  ⟨congrArg Action.call, Action.call.inj⟩

theorem not_connectsTo_resume : ¬ ConnectsTo peer (.resume index input) := by
  simp [ConnectsTo]

instance (peer : NodeId) : (action : Action) → Decidable (ConnectsTo peer action)
  | .call _ => decidable_of_iff _ connectsTo_call
  | .resume _ _ => isFalse not_connectsTo_resume

structure Forgotten (peer : NodeId) (system : System) : Prop where
  undesired : peer ∉ system.shared.desired
  unrestored : ∀ task ∈ system.tasks, task.restoring ≠ some peer

theorem Forgotten.step (hforgotten : Forgotten peer system) (hquiet : ¬ ConnectsTo peer action)
    (hstep : Transport.step externals system action = some next) : Forgotten peer next := by
  obtain ⟨task, rfl, hentry, rfl⟩ | ⟨index, input, task, move, rfl, htask, hstretch, rfl⟩ :=
    step_cases hstep
  · refine ⟨hforgotten.undesired, fun holder hmem hrestoring => ?_⟩
    rcases mem_call hmem with hbefore | rfl
    · exact hforgotten.unrestored holder hbefore hrestoring
    · exact hquiet (congrArg Action.call ((Task.unconcerned_of_entry hentry).2.2 peer hrestoring))
  · have hself := hforgotten.unrestored task (List.mem_of_getElem? htask)
    refine ⟨fun hdesired => ?_, fun holder hmem hrestoring => ?_⟩
    · exact hself (hstretch.desires hforgotten.undesired hdesired)
    · rcases mem_after hmem with ⟨position, -, hlookup⟩ | hnew
      · exact hforgotten.unrestored holder (List.mem_of_getElem? hlookup) hrestoring
      · rcases hstretch.restoring_cases holder hnew hrestoring with hbefore | hdesired
        · exact hself hbefore
        · exact hforgotten.undesired hdesired

def ForgettingForgotten (system : System) : Prop :=
  ∀ task ∈ system.tasks, ∀ peer, task.forgetting = some peer → Forgotten peer system

theorem ForgettingForgotten.step (hforgetting : ForgettingForgotten system)
    (halone : ForgetsAlone system action)
    (hstep : Transport.step externals system action = some next) : ForgettingForgotten next := by
  have hold : ∀ task ∈ system.tasks, ∀ peer, task.forgetting = some peer → Forgotten peer next := by
    intro task hmem peer htask
    refine (hforgetting task hmem peer htask).step ?_ hstep
    rintro rfl
    exact halone task hmem htask
  obtain ⟨task, rfl, hentry, rfl⟩ | ⟨index, input, task, move, rfl, htask, hstretch, rfl⟩ :=
    step_cases hstep
  · intro holder hmem peer hholder
    rcases mem_call hmem with hbefore | rfl
    · exact hold holder hbefore peer hholder
    · rw [(Task.unconcerned_of_entry hentry).2.1] at hholder
      cases hholder
  · intro holder hmem peer hholder
    rcases mem_after hmem with ⟨position, -, hlookup⟩ | hnew
    · exact hold holder (List.mem_of_getElem? hlookup) peer hholder
    · rcases hstretch.forgetting_cases holder hnew hholder with hbefore |
        ⟨rfl, heffect, hrestoring, hspawned⟩
      · exact hold task (List.mem_of_getElem? htask) peer hbefore
      · have hresumed : resumed system (.resume index input) =
            some (.forgetPeer peer .undesiring) := htask
        simp only [ForgetsAlone, hresumed] at halone
        obtain rfl : holder = move.task := by simpa [Move.outcome, hspawned] using hnew
        refine ⟨by simp [Move.outcome, State.after, heffect, Effect.apply], fun other hother => ?_⟩
        rcases mem_after hother with ⟨position, -, hlookup⟩ | hmoved
        · exact halone other (List.mem_of_getElem? hlookup)
        · obtain rfl : other = move.task := by simpa [Move.outcome, hspawned] using hmoved
          simp [hrestoring]

theorem forgettingForgotten_of_reachable
    (hreach : Machine.ReachableWhere (step externals) ForgetsAlone (start localId config inboxes)
      system) : ForgettingForgotten system := by
  refine hreach.invariant ?_ fun _ _ _ hforgetting halone hstep => hforgetting.step halone hstep
  intro task hmem peer hforgetting
  rcases List.mem_pair.mp hmem with rfl | rfl <;> cases hforgetting

/-- Once `forget_peer` has returned, and until `connect` is called again, its peer is never desired and no step of a dial changes its entry in the peers map. -/
theorem forget_peer_is_final {stage : ForgetPeer}
    (hreach : Machine.ReachableWhere (step externals) ForgetsAlone (start localId config inboxes)
      system)
    (htask : system.tasks[index]? = some (.forgetPeer peer stage)) (hstage : stage ≠ .returned)
    (hstep : step externals system (.resume index input) = some next)
    (hreturned : next.tasks[index]? = some (.forgetPeer peer .returned))
    (hlater : Machine.ReachableWhere (step externals) (fun _ action => ¬ ConnectsTo peer action)
      next later) :
    peer ∉ later.shared.desired ∧ ∀ action last caller stage,
      step externals later action = some last →
      resumed later action = some (.dial caller peer stage) →
      last.shared.peers peer = later.shared.peers peer := by
  have hforgetting : (Task.forgetPeer peer stage).forgetting = some peer := by
    cases stage with
    | undesiring =>
        obtain ⟨task, out, hlookup, hout, rfl⟩ := step_resume_eq_some hstep
        obtain rfl : task = .forgetPeer peer .undesiring :=
          Option.some.inj (hlookup.symm.trans htask)
        rw [lookup_self htask, Option.some.injEq] at hreturned
        obtain ⟨move, hmove, rfl⟩ := Option.map_eq_some_iff.mp hout
        cases input <;> cases hmove
        cases hreturned
    | removing => rfl
    | emitting removed => rfl
    | returned => exact absurd rfl hstage
  have hforgotten : Forgotten peer next :=
    (forgettingForgotten_of_reachable hreach _ (List.mem_of_getElem? htask) peer hforgetting).step
      not_connectsTo_resume hstep
  have hstill : Forgotten peer later := by
    induction hlater with
    | start => exact hforgotten
    | step action _ hquiet hnext ih => exact ih.step hquiet hnext
  refine ⟨hstill.undesired, fun action last caller stage hlast hresumed => ?_⟩
  obtain ⟨task, rfl, -, rfl⟩ | ⟨index, input, task, move, rfl, hlookup, hstretch, rfl⟩ :=
    step_cases hlast
  · rfl
  · obtain rfl : task = .dial caller peer stage := Option.some.inj (hlookup.symm.trans hresumed)
    by_contra hchanged
    exact hstill.unrestored _ (List.mem_of_getElem? hlookup) (hstretch.restoring_of_dial hchanged)

def forgotten : List Action :=
  Fixed.dialed ++ [.resume 2 .go, .call (.forgetPeer Fixed.peer .undesiring), .resume 5 .go,
    .resume 5 .go]

/-- The reconnect supervisor hears of the loss, and the read loop of its end. -/
def afterwards : List Action :=
  [.resume 1 .recv, .resume 1 .recv, .resume 1 .go, .resume 3 (.read .eof), .resume 3 .go]

theorem forget_peer_is_final_connected :
    ∃ system next later,
      Machine.ReachableWhere (step Fixed.externals) ForgetsAlone Fixed.start system ∧
      step Fixed.externals system (.resume 5 .go) = some next ∧
      Machine.ReachableWhere (step Fixed.externals)
        (fun _ action => ¬ ConnectsTo Fixed.peer action) next later ∧
      (∃ connection, later.tasks[3]? = some (.readLoop connection .finished)) ∧
      Fixed.peer ∉ later.shared.desired := by
  have hrun : (Machine.runWhere (step Fixed.externals) ForgetsAlone Fixed.start forgotten).map
      (fun system => (system.tasks[5]?, (step Fixed.externals system (.resume 5 .go)).bind
        fun next => (Machine.runWhere (step Fixed.externals)
          (fun _ action => ¬ ConnectsTo Fixed.peer action) next afterwards).map
            fun later => (next.tasks[5]?, later.tasks[3]?))) =
      some (some (.forgetPeer Fixed.peer (.emitting ⟨Fixed.peer, 1⟩)),
        some (some (.forgetPeer Fixed.peer .returned),
          some (.readLoop ⟨1, false, some ⟨Fixed.peer, 1⟩, 1⟩ .finished))) := by
    decide +kernel
  obtain ⟨system, hreach, hobserved⟩ := Machine.exists_reachableWhere hrun
  obtain ⟨htask, hafter⟩ := Prod.mk.inj hobserved
  obtain ⟨next, hstep, hmore⟩ := Option.bind_eq_some_iff.mp hafter
  obtain ⟨later, hlater, hlast⟩ := Machine.exists_reachableWhere hmore
  obtain ⟨hreturned, hfinished⟩ := Prod.mk.inj hlast
  exact ⟨system, next, later, hreach, hstep, hlater, ⟨_, hfinished⟩,
    (forget_peer_is_final hreach htask (by decide) hstep hreturned hlater).1⟩

def forgottenWhileReconnecting : List Action :=
  Fixed.dialed ++ [.resume 2 .go, .resume 3 (.read .eof), .resume 3 .go, .resume 3 .go,
    .resume 1 .recv, .resume 1 .recv, .resume 1 .go, .resume 1 .go, .resume 5 .go, .resume 5 .go,
    .call (.forgetPeer Fixed.peer .undesiring), .resume 6 .go]

def redialed : List Action :=
  [.resume 5 .go, .resume 5 .go, .resume 5 .go, .resume 5 (.connected 2), .resume 5 .go]

/-- The peer is desired again, and back in the peers map, without any call of `connect`. -/
theorem forget_peer_not_final :
    ∃ system next later, Machine.Reachable (step Fixed.externals) Fixed.start system ∧
      system.tasks[6]? = some (.forgetPeer Fixed.peer .removing) ∧
      step Fixed.externals system (.resume 6 .go) = some next ∧
      next.tasks[6]? = some (.forgetPeer Fixed.peer .returned) ∧
      Machine.ReachableWhere (step Fixed.externals)
        (fun _ action => ¬ ConnectsTo Fixed.peer action) next later ∧
      Fixed.peer ∈ later.shared.desired ∧
      later.shared.peers Fixed.peer = some ⟨Fixed.peer, 2⟩ := by
  have hforget : (Machine.runWhere (step Fixed.externals) (fun _ _ => True) Fixed.start
      forgottenWhileReconnecting).map
        (fun system => (system.tasks[6]?, (step Fixed.externals system (.resume 6 .go)).bind
          fun next => (Machine.runWhere (step Fixed.externals)
            (fun _ action => ¬ ConnectsTo Fixed.peer action) next redialed).map
              fun later => decide (next.tasks[6]? = some (.forgetPeer Fixed.peer .returned) ∧
                Fixed.peer ∈ later.shared.desired ∧
                later.shared.peers Fixed.peer = some ⟨Fixed.peer, 2⟩))) =
      some (some (.forgetPeer Fixed.peer .removing), some true) := by
    decide +kernel
  obtain ⟨system, hreach, hobserved⟩ := Machine.exists_reachableWhere hforget
  obtain ⟨htask, hafter⟩ := Prod.mk.inj hobserved
  obtain ⟨next, hstep, hredial⟩ := Option.bind_eq_some_iff.mp hafter
  obtain ⟨later, hlater, hlast⟩ := Machine.exists_reachableWhere hredial
  obtain ⟨hreturned, hdesired, hpeer⟩ := of_decide_eq_true hlast
  exact ⟨system, next, later, hreach, htask, hstep, hreturned, hlater, hdesired, hpeer⟩

end Transport

end LapinBeam
