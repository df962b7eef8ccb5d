import LapinBeam.Transport.Stretch

/-!
# The reconnect supervisor

The supervisor ends on the first receive error, and the only one it can get is a lag. As long as it
never falls behind by more than the capacity of the event channel it stays alive, and left to run it
starts a reconnect loop for every desired peer whose disconnect it has not read yet. A burst of
events longer than the capacity between two of its polls ends it for good.
-/

namespace LapinBeam

open TaskSystem

def Task.Supervises (transport : Transport) : Task → Prop
  | .reconnectSupervisor cursor stage =>
      stage ≠ .returned ∧ cursor ≤ transport.events.log.length
  | _ => False

def Task.polls : Task → Option Nat
  | .reconnectSupervisor cursor .listening => some cursor
  | _ => none

namespace Transport

/-- Whenever the supervisor polls its receiver, it has not fallen behind by more than the channel's capacity. -/
def KeepsUp (system : System) (action : Action) : Prop :=
  ∀ task ∈ resumed system action, ∀ cursor ∈ task.polls,
    system.shared.events.lagging cursor = false

instance (system : System) (action : Action) : Decidable (KeepsUp system action) :=
  inferInstanceAs (Decidable (∀ task ∈ resumed system action, ∀ cursor ∈ task.polls,
    system.shared.events.lagging cursor = false))

def Supervised (system : System) : Prop :=
  Held (fun transport task () => task.Supervises transport) system ()

end Transport

theorem Effect.length_log_le (effect : Effect) (transport : Transport) :
    transport.events.log.length ≤ (effect.apply transport).events.log.length := by
  cases effect <;> simp [apply]

theorem Task.Supervises.apply {transport : Transport} {task : Task} (effect : Effect)
    (hsupervises : task.Supervises transport) : task.Supervises (effect.apply transport) := by
  cases task with
  | reconnectSupervisor cursor stage =>
      exact ⟨hsupervises.1, hsupervises.2.trans (effect.length_log_le transport)⟩
  | _ => cases hsupervises

theorem Stretch.supervises {transport : Transport} {task : Task} {move : Move}
    (hstretch : Stretch transport task move) (hsupervises : task.Supervises transport)
    (hkeeps : ∀ cursor ∈ task.polls, transport.events.lagging cursor = false) :
    move.task.Supervises (move.effect.apply transport) := by
  cases hstretch with
  | other hbefore =>
      cases task with
      | reconnectSupervisor => cases hbefore
      | _ => cases hsupervises
  | lag hrecv =>
      have hlag := Broadcast.Channel.recv_eq_lagged hrecv
      rw [hkeeps _ rfl] at hlag
      cases hlag
  | heed hrecv | ignore hrecv => exact ⟨nofun, (Broadcast.Channel.recv_eq_item hrecv).2⟩
  | wanted | unwanted | restart => exact ⟨nofun, hsupervises.2⟩
  | _ => cases hsupervises

namespace Transport

variable {externals : Externals} {system next : System} {action : Action}

theorem Supervised.step (hsupervised : Supervised system) (hkeeps : KeepsUp system action)
    (hstep : Transport.step externals system action = some next) : Supervised next := by
  obtain ⟨task, rfl, -, rfl⟩ | ⟨index, input, task, move, rfl, htask, hstretch, rfl⟩ :=
    step_cases hstep
  · exact held_call hsupervised
  · exact held_resume htask
      (fun hsupervises => ⟨_, List.mem_cons_self, hstretch.supervises hsupervises (hkeeps _ htask)⟩)
      (fun _ hsupervises => hsupervises.apply move.effect) hsupervised

theorem supervised_of_reachable {localId : NodeId} {config : TransportConfig}
    {inboxes : Mailbox → Inbox}
    (hreach : Machine.ReachableWhere (Transport.step externals) KeepsUp
      (start localId config inboxes) system) : Supervised system :=
  hreach.invariant ⟨1, .reconnectSupervisor 0 .listening, rfl, nofun, Nat.le_refl _⟩
    fun _ _ _ hsupervised hkeeps hstep => hsupervised.step hkeeps hstep

inductive RunsTo (externals : Externals) (index : Nat) : System → System → Prop
  | refl {system : System} : RunsTo externals index system system
  | head {system middle next : System} (input : Input)
      (hstep : Transport.step externals system (.resume index input) = some middle)
      (hrest : RunsTo externals index middle next) : RunsTo externals index system next

/-- Left to run, the task at `index` starts a reconnect loop for `peer`. -/
def Restarts (externals : Externals) (index : Nat) (peer : NodeId) (system : System) : Prop :=
  ∃ next, RunsTo externals index system next ∧ .reconnectLoop peer 0 .sleeping ∈ next.tasks

section Progress

variable {index cursor cursor' : Nat} {peer told : NodeId}

theorem Restarts.of_step {stage stage' : Supervision} {input : Input} {spawned : List Task}
    (htask : system.tasks[index]? = some (.reconnectSupervisor cursor stage))
    (hmove : stage.move system.shared cursor input =
      some ⟨.skip, .reconnectSupervisor cursor' stage', spawned⟩)
    (hrest : ∀ next : System, next.shared = system.shared →
      next.tasks[index]? = some (.reconnectSupervisor cursor' stage') →
      spawned ⊆ next.tasks → Restarts externals index peer next) :
    Restarts externals index peer system := by
  have hperform : (program externals).perform system.shared
      (.reconnectSupervisor cursor stage) input =
        some ⟨system.shared, .reconnectSupervisor cursor' stage', spawned⟩ := by
    simp [program, Task.move, hmove, Move.outcome, Effect.apply]
  obtain ⟨final, hruns, hstarted⟩ := hrest
    (system.after index ⟨system.shared, .reconnectSupervisor cursor' stage', spawned⟩) rfl
    (lookup_self htask) (List.subset_append_right _ _)
  exact ⟨final, .head input (step_resume_of_perform htask hperform) hruns, hstarted⟩

theorem Restarts.of_told
    (htask : system.tasks[index]? = some (.reconnectSupervisor cursor (.checkingDesired told)))
    (hreconnect : system.shared.config.reconnect = true)
    (hlisten : ∀ next : System, next.shared = system.shared →
      next.tasks[index]? = some (.reconnectSupervisor cursor .listening) →
      (told ∈ system.shared.desired → .reconnectLoop told 0 .sleeping ∈ next.tasks) →
      Restarts externals index peer next) :
    Restarts externals index peer system := by
  by_cases hdesired : told ∈ system.shared.desired
  · have hmove : (Supervision.checkingDesired told).move system.shared cursor .go =
        some ⟨.skip, .reconnectSupervisor cursor (.spawning told), []⟩ := by
      simp [Supervision.move, hreconnect, hdesired]
    refine Restarts.of_step htask hmove fun checked hshared hchecked _ => ?_
    have hmove' : (Supervision.spawning told).move checked.shared cursor .go =
        some ⟨.skip, .reconnectSupervisor cursor .listening, [.reconnectLoop told 0 .sleeping]⟩ :=
      rfl
    refine Restarts.of_step hchecked hmove' fun next hshared' hnext hspawned => ?_
    exact hlisten next (hshared'.trans hshared) hnext fun _ => hspawned List.mem_cons_self
  · have hmove : (Supervision.checkingDesired told).move system.shared cursor .go =
        some ⟨.skip, .reconnectSupervisor cursor .listening, []⟩ := by
      simp [Supervision.move, hdesired]
    exact Restarts.of_step htask hmove fun next hshared hnext _ =>
      hlisten next hshared hnext fun h => absurd h hdesired

/-- From its loop the supervisor gets to every unread disconnect. The induction is on what it has not read; every other event it reads on the way costs it at most a loop for another peer. -/
theorem Restarts.of_listening {unread : List Emission} {emission : Emission}
    (hmem : emission ∈ unread) (hevent : emission.event = .peerDisconnected peer)
    (htask : system.tasks[index]? = some (.reconnectSupervisor cursor .listening))
    (hreconnect : system.shared.config.reconnect = true)
    (hdesired : peer ∈ system.shared.desired)
    (hkeeps : system.shared.events.lagging cursor = false)
    (hunread : system.shared.events.unread cursor = unread) :
    Restarts externals index peer system := by
  induction unread generalizing system cursor with
  | nil => cases hmem
  | cons first rest ih =>
      have hrecv := Broadcast.Channel.recv_of_unread hkeeps hunread
      have hrest : ∀ next : System, next.shared = system.shared →
          next.tasks[index]? = some (.reconnectSupervisor (cursor + 1) .listening) →
          emission ∈ rest → Restarts externals index peer next := by
        intro next hshared hnext hmem'
        refine ih hmem' hnext (hshared ▸ hreconnect) (hshared ▸ hdesired) ?_ ?_
        · rw [hshared]
          simp only [Broadcast.Channel.lagging, decide_eq_false_iff_not] at hkeeps ⊢
          omega
        · rw [hshared, Broadcast.Channel.unread, ← List.drop_drop]
          rw [Broadcast.Channel.unread] at hunread
          rw [hunread, List.drop_one, List.tail_cons]
      by_cases htold : ∃ told, first.event = .peerDisconnected told
      · obtain ⟨told, htold⟩ := htold
        have hmove : Supervision.listening.move system.shared cursor .recv =
            some ⟨.skip, .reconnectSupervisor (cursor + 1) (.checkingDesired told), []⟩ := by
          simp [Supervision.move, hrecv, htold]
        refine Restarts.of_step htask hmove fun heeded hshared hheeded _ => ?_
        refine Restarts.of_told hheeded (hshared ▸ hreconnect) fun next hshared' hnext hstarted => ?_
        rcases List.mem_cons.mp hmem with rfl | hlater
        · obtain rfl : peer = told := Event.peerDisconnected.inj (hevent.symm.trans htold)
          exact ⟨next, .refl, hstarted (hshared ▸ hdesired)⟩
        · exact hrest next (hshared'.trans hshared) hnext hlater
      · have hmove : Supervision.listening.move system.shared cursor .recv =
            some ⟨.skip, .reconnectSupervisor (cursor + 1) .listening, []⟩ := by
          simp only [Supervision.move, hrecv]
          split
          · exact absurd ⟨_, ‹_›⟩ htold
          · rfl
        refine Restarts.of_step htask hmove fun next hshared hnext _ => ?_
        rcases List.mem_cons.mp hmem with rfl | hlater
        · exact absurd ⟨peer, hevent⟩ htold
        · exact hrest next hshared hnext hlater

theorem restarts_of_unread {stage : Supervision} {emission : Emission}
    (htask : system.tasks[index]? = some (.reconnectSupervisor cursor stage))
    (hstage : stage ≠ .returned)
    (hkeeps : system.shared.events.lagging cursor = false)
    (hmem : emission ∈ system.shared.events.unread cursor)
    (hevent : emission.event = .peerDisconnected peer)
    (hreconnect : system.shared.config.reconnect = true)
    (hdesired : peer ∈ system.shared.desired) : Restarts externals index peer system := by
  have hlisten : ∀ next : System, next.shared = system.shared →
      next.tasks[index]? = some (.reconnectSupervisor cursor .listening) →
      Restarts externals index peer next := by
    intro next hshared hnext
    rw [← hshared] at hkeeps hmem hreconnect hdesired
    exact Restarts.of_listening hmem hevent hnext hreconnect hdesired hkeeps rfl
  cases stage with
  | listening => exact hlisten system rfl htask
  | checkingDesired told =>
      exact Restarts.of_told htask hreconnect fun next hshared hnext _ => hlisten next hshared hnext
  | spawning told =>
      have hmove : (Supervision.spawning told).move system.shared cursor .go =
          some ⟨.skip, .reconnectSupervisor cursor .listening,
            [.reconnectLoop told 0 .sleeping]⟩ := rfl
      exact Restarts.of_step htask hmove fun next hshared hnext _ => hlisten next hshared hnext
  | returned => exact absurd rfl hstage

end Progress

/-- While it never polls a receiver that lags, the supervisor is alive, and its own next steps start a reconnect loop for every desired peer whose disconnect it has not read yet. -/
theorem reconnect_supervisor_outlives_events {localId : NodeId} {config : TransportConfig}
    {inboxes : Mailbox → Inbox}
    (hreach : Machine.ReachableWhere (step externals) KeepsUp (start localId config inboxes)
      system) :
    (∃ task ∈ system.tasks, task.Supervises system.shared) ∧
      ∀ index cursor stage, system.tasks[index]? = some (.reconnectSupervisor cursor stage) →
        stage ≠ .returned → system.shared.events.lagging cursor = false →
        ∀ emission ∈ system.shared.events.unread cursor, ∀ peer,
          emission.event = .peerDisconnected peer → system.shared.config.reconnect = true →
          peer ∈ system.shared.desired → Restarts externals index peer system := by
  obtain ⟨position, task, htask, hsupervises⟩ := supervised_of_reachable hreach
  refine ⟨⟨task, List.mem_of_getElem? htask, hsupervises⟩, ?_⟩
  intro index cursor stage hlookup hstage hkeeps emission hmem peer hevent hreconnect hdesired
  exact restarts_of_unread hlookup hstage hkeeps hmem hevent hreconnect hdesired

theorem reconnect_supervisor_outlives_loss :
    ∃ system, Machine.ReachableWhere (step Fixed.externals) KeepsUp Fixed.start system ∧
      Restarts Fixed.externals 1 Fixed.peer system := by
  have hrun : (Machine.runWhere (step Fixed.externals) KeepsUp Fixed.start
      (Fixed.dialed ++ [.resume 3 (.read .eof), .resume 3 .go, .resume 3 .go])).map
        (fun system => (system.tasks[1]?, system.shared.events.lagging 0,
          system.shared.events.unread 0, system.shared.config.reconnect, system.shared.desired)) =
      some (some (.reconnectSupervisor 0 .listening), false,
        [⟨.peerConnected Fixed.peer, none⟩,
          ⟨.peerDisconnected Fixed.peer, some ⟨Fixed.peer, 1⟩⟩], true, {Fixed.peer}) := by
    decide +kernel
  obtain ⟨system, hreach, hobserved⟩ := Machine.exists_reachableWhere hrun
  simp only [Prod.mk.injEq] at hobserved
  obtain ⟨htask, hkeeps, hunread, hreconnect, hdesired⟩ := hobserved
  refine ⟨system, hreach, (reconnect_supervisor_outlives_events hreach).2 1 0 .listening htask nofun
    hkeeps ⟨.peerDisconnected Fixed.peer, some ⟨Fixed.peer, 1⟩⟩ ?_ Fixed.peer rfl hreconnect ?_⟩
  · simp [hunread]
  · simp [hdesired]

/-- A peer connects and sends more messages to an actor than its mailbox takes, `burst` of them too many; then the supervisor polls. -/
def mailboxFullBurst (burst : Nat) : List Action :=
  let src := Fixed.peer.toFull
  let data : WireMessage := { WireMessage.heartbeat 2 src with kind := .data, dstActor := "x" }
  [.call (.registerActor "x" 0 false), .resume 2 .go, .resume 0 (.accepted 1), .resume 3 .go,
      .resume 3 (.read (.frames (.handshake 1 src :: List.replicate (burst + 1) data)))] ++
    List.replicate (6 + 7 * burst) (.resume 3 .go) ++ [.resume 1 .recv]

/-- Sixty-four dropped messages and the connection itself are one event more than the channel keeps: the supervisor is gone while the transport is still up. -/
theorem reconnect_supervisor_ends_on_burst :
    ∃ system, Machine.Reachable (step Fixed.externals) Fixed.start system ∧
      system.shared.stopped = false ∧ ¬ ∃ task ∈ system.tasks, task.Supervises system.shared := by
  have hrun : (Machine.runWhere (step Fixed.externals) (fun _ _ => True) Fixed.start
      (mailboxFullBurst 64)).map (fun system => (system.shared.stopped, system.tasks)) =
      some (false, [.acceptLoop .accepting, .reconnectSupervisor 1 .returned,
        .registerActor "x" 0 true,
        .readLoop ⟨1, false, some ⟨Fixed.peer, 1⟩, 0⟩ (.handling []),
        .heartbeatLoop Fixed.peer .spawned]) := by
    decide +kernel
  obtain ⟨system, hreach, hobserved⟩ := Machine.exists_reachableWhere hrun
  obtain ⟨hstopped, htasks⟩ := Prod.mk.inj hobserved
  refine ⟨system, hreach, hstopped, ?_⟩
  rw [htasks]
  simp [Task.Supervises]

end Transport

end LapinBeam
