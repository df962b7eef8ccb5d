import LapinBeam.Transport.Task

/-!
# What a stretch can do

`Stretch transport task move` lists the moves of every task by what they mean for the peers map,
the desired set and the disconnect events; whatever touches none of them is one case, `other`, or
is folded into a case that says only that its effect is `quiet`. Every invariant of the transport is
proved by cases on this relation, so a change to a task is a change to its cases here.
-/

namespace LapinBeam

/-- A change that leaves peers, desired set, connections and stop flag alone and announces no disconnect. -/
def Effect.quiet : Effect → Bool
  | .skip | .takeMsgId | .enqueue _ _ | .registerActor _ _ | .unregisterActor _
  | .setInbox _ _ => true
  | .emit (.peerDisconnected _) _ => false
  | .emit _ none => true
  | _ => false

/-- Tasks that neither dial, read, forget, shut down nor supervise. -/
def Task.bystander : Task → Bool
  | .acceptLoop _ | .heartbeatLoop _ _ | .sendData _ _ | .sendError _ _ | .registerActor _ _ _
  | .unregisterActor _ _ | .receive _ _ | .closeInbox _ _ => true
  | _ => false

/-- The connection a dial has registered and not yet handed to its read loop. -/
def Dial.registered : Dial → Option ConnectionId
  | .handshaking conn | .sending conn _ | .announcing conn | .spawning conn => some conn
  | _ => none

inductive Stretch (transport : Transport) : Task → Move → Prop
  | other {task move} (hbefore : task.bystander = true) (hafter : move.task.bystander = true)
      (hquiet : move.effect.quiet = true) (hspawned : move.spawned = []) :
      Stretch transport task move
  | accept {conn} (hfresh : conn ∉ transport.opened) :
      Stretch transport (.acceptLoop .accepting)
        ⟨.openConnection conn, .acceptLoop .accepting, [.readLoop ⟨conn, true, none, 0⟩ .spawned]⟩
  -- the reconnect supervisor
  | lag {cursor next} (hrecv : transport.events.recv cursor = .lagged next) :
      Stretch transport (.reconnectSupervisor cursor .listening)
        ⟨.skip, .reconnectSupervisor next .returned, []⟩
  | heed {cursor next emission peer} (hrecv : transport.events.recv cursor = .item emission next)
      (hevent : emission.event = .peerDisconnected peer) :
      Stretch transport (.reconnectSupervisor cursor .listening)
        ⟨.skip, .reconnectSupervisor next (.checkingDesired peer), []⟩
  | ignore {cursor next emission} (hrecv : transport.events.recv cursor = .item emission next)
      (hevent : ∀ peer, emission.event ≠ .peerDisconnected peer) :
      Stretch transport (.reconnectSupervisor cursor .listening)
        ⟨.skip, .reconnectSupervisor next .listening, []⟩
  | wanted {cursor peer} (hreconnect : transport.config.reconnect = true)
      (hdesired : peer ∈ transport.desired) :
      Stretch transport (.reconnectSupervisor cursor (.checkingDesired peer))
        ⟨.skip, .reconnectSupervisor cursor (.spawning peer), []⟩
  | unwanted {cursor peer}
      (hunwanted : transport.config.reconnect = true → peer ∉ transport.desired) :
      Stretch transport (.reconnectSupervisor cursor (.checkingDesired peer))
        ⟨.skip, .reconnectSupervisor cursor .listening, []⟩
  | restart {cursor peer} :
      Stretch transport (.reconnectSupervisor cursor (.spawning peer))
        ⟨.skip, .reconnectSupervisor cursor .listening, [.reconnectLoop peer 0 .sleeping]⟩
  -- dial
  | present {caller peer} (hpeer : transport.hasPeer peer = true) :
      Stretch transport (.dial caller peer .checkingPeer) ⟨.skip, .dialed caller peer true, []⟩
  | absent {caller peer} :
      Stretch transport (.dial caller peer .checkingPeer) ⟨.skip, .dial caller peer .desiring, []⟩
  | desire {caller peer} :
      Stretch transport (.dial caller peer .desiring)
        ⟨.desire peer, .dial caller peer .connecting, []⟩
  | connected {caller peer conn} (hfresh : conn ∉ transport.opened) :
      Stretch transport (.dial caller peer .connecting)
        ⟨.openConnection conn, .dial caller peer (.registering conn), []⟩
  | dialFailed {caller peer dial} (hcancellable : dial.cancellable = true) :
      Stretch transport (.dial caller peer dial) ⟨.skip, .dialed caller peer false, []⟩
  | yield {caller peer conn} (hrefuses : transport.refuses peer true = true) :
      Stretch transport (.dial caller peer (.registering conn))
        ⟨.skip, .dialed caller peer true, []⟩
  | dialRegister {caller peer conn} (hadmits : transport.refuses peer true = false) :
      Stretch transport (.dial caller peer (.registering conn))
        ⟨.insertPeer ⟨peer, conn⟩, .dial caller peer (.handshaking conn), []⟩
  | introduce {caller peer dial dial' conn effect} (hbefore : dial.registered = some conn)
      (hafter : dial'.registered = some conn) (hquiet : effect.quiet = true) :
      Stretch transport (.dial caller peer dial) ⟨effect, .dial caller peer dial', []⟩
  | handOver {caller peer conn} :
      Stretch transport (.dial caller peer (.spawning conn))
        ⟨.skip, .dialed caller peer true,
          [.readLoop ⟨conn, false, some ⟨peer, conn⟩, 0⟩ .spawned, .heartbeatLoop peer .spawned]⟩
  -- connect and the reconnect loop around it
  | retry {peer} (hreconnect : transport.config.reconnect = true) :
      Stretch transport (.dialed .connect peer false)
        ⟨.skip, .connect peer false, [.reconnectLoop peer 0 .sleeping]⟩
  | connectReturned {peer ok} (hreconnect : transport.config.reconnect = true → ok = true) :
      Stretch transport (.dialed .connect peer ok) ⟨.skip, .connect peer ok, []⟩
  | reconnected {peer attempts} :
      Stretch transport (.dialed (.reconnectLoop attempts) peer true)
        ⟨.skip, .reconnectLoop peer attempts .returned, []⟩
  | backOff {peer attempts} :
      Stretch transport (.dialed (.reconnectLoop attempts) peer false)
        ⟨.skip, .reconnectLoop peer (attempts + 1) .sleeping, []⟩
  | exhausted {peer attempts} :
      Stretch transport (.dialed (.reconnectLoop attempts) peer false)
        ⟨.skip, .reconnectLoop peer (attempts + 1) .givingUp, []⟩
  | wake {peer attempts} :
      Stretch transport (.reconnectLoop peer attempts .sleeping)
        ⟨.skip, .reconnectLoop peer attempts .checkingDesired, []⟩
  | stillDesired {peer attempts} (hdesired : peer ∈ transport.desired) :
      Stretch transport (.reconnectLoop peer attempts .checkingDesired)
        ⟨.skip, .reconnectLoop peer attempts .checkingPeer, []⟩
  | undesired {peer attempts} (hdesired : peer ∉ transport.desired) :
      Stretch transport (.reconnectLoop peer attempts .checkingDesired)
        ⟨.skip, .reconnectLoop peer attempts .returned, []⟩
  | backAlready {peer attempts} (hpeer : transport.hasPeer peer = true) :
      Stretch transport (.reconnectLoop peer attempts .checkingPeer)
        ⟨.skip, .reconnectLoop peer attempts .returned, []⟩
  | redial {peer attempts} :
      Stretch transport (.reconnectLoop peer attempts .checkingPeer)
        ⟨.skip, .dial (.reconnectLoop attempts) peer .checkingPeer, []⟩
  | abandon {peer attempts} :
      Stretch transport (.reconnectLoop peer attempts .givingUp)
        ⟨.undesire peer, .reconnectLoop peer attempts .announcing, []⟩
  | announceGiveUp {peer attempts} :
      Stretch transport (.reconnectLoop peer attempts .announcing)
        ⟨.emit (.reconnectGaveUp peer) none, .reconnectLoop peer attempts .returned, []⟩
  -- forget_peer and shutdown
  | forget {peer} :
      Stretch transport (.forgetPeer peer .undesiring)
        ⟨.undesire peer, .forgetPeer peer .removing, []⟩
  | forgetEntry {peer removed} (hpeer : transport.peers peer = some removed) :
      Stretch transport (.forgetPeer peer .removing)
        ⟨.removePeer peer removed, .forgetPeer peer (.emitting removed), []⟩
  | nothingToForget {peer} (hpeer : transport.peers peer = none) :
      Stretch transport (.forgetPeer peer .removing) ⟨.skip, .forgetPeer peer .returned, []⟩
  | announceForgotten {peer removed} :
      Stretch transport (.forgetPeer peer (.emitting removed))
        ⟨.emit (.peerDisconnected peer) (some removed), .forgetPeer peer .returned, []⟩
  | stop : Stretch transport (.shutdown .stopping) ⟨.stop, .shutdown .clearingDesired, []⟩
  | clearDesired :
      Stretch transport (.shutdown .clearingDesired) ⟨.clearDesired, .shutdown .takingPeers, []⟩
  | takePeers : Stretch transport (.shutdown .takingPeers) ⟨.takePeers, .shutdown .returned, []⟩
  -- read_loop
  | subscribe {connection} :
      Stretch transport (.readLoop connection .spawned)
        ⟨.skip, .readLoop { connection with cursor := transport.events.subscribe } .selecting, []⟩
  | read {connection frames} :
      Stretch transport (.readLoop connection .selecting)
        ⟨.skip, .readLoop connection (.handling frames), []⟩
  | lose {connection} :
      Stretch transport (.readLoop connection .selecting) ⟨.skip, .readLoop connection .closing, []⟩
  | overhear {connection handle next} (hregistered : connection.registered = some handle)
      (hrecv : (∃ emission, transport.events.recv connection.cursor = .item emission next) ∨
        transport.events.recv connection.cursor = .lagged next) :
      Stretch transport (.readLoop connection .selecting)
        ⟨.skip, .readLoop { connection with cursor := next } .selecting, []⟩
  | dismissed {connection handle emission next} (hregistered : connection.registered = some handle)
      (hrecv : transport.events.recv connection.cursor = .item emission next)
      (hevent : emission.event = .peerDisconnected handle.peerId) :
      Stretch transport (.readLoop connection .selecting)
        ⟨.skip, .readLoop { connection with cursor := next } .closing, []⟩
  | handled {connection} :
      Stretch transport (.readLoop connection (.handling []))
        ⟨.skip, .readLoop connection .selecting, []⟩
  | mismatch {connection msg frames} (hversion : msg.version ≠ protocolVersion) :
      Stretch transport (.readLoop connection (.handling (msg :: frames)))
        ⟨.skip, .readLoop connection .closing, []⟩
  | confirm {connection handle msg frames} (hregistered : connection.registered = some handle) :
      Stretch transport (.readLoop connection (.handling (msg :: frames)))
        ⟨.skip, .readLoop connection (.handling frames), []⟩
  | dispatch {connection handle msg frames} (hregistered : connection.registered = some handle) :
      Stretch transport (.readLoop connection (.handling (msg :: frames)))
        ⟨.skip, .readLoop connection (.routing handle.peerId (.dispatch msg) frames), []⟩
  | reject {connection msg frames} (hregistered : connection.registered = none) :
      Stretch transport (.readLoop connection (.handling (msg :: frames)))
        ⟨.skip, .readLoop connection .finished, []⟩
  | greet {connection peer msg frames} (hregistered : connection.registered = none)
      (hpeer : NodeId.parse msg.src = .ok peer) (hstopped : transport.stopped = false) :
      Stretch transport (.readLoop connection (.handling (msg :: frames)))
        ⟨.skip, .readLoop { connection with writeHalf := false } (.registering peer frames), []⟩
  | giveWay {connection peer frames} (hrefuses : transport.refuses peer false = true) :
      Stretch transport (.readLoop connection (.registering peer frames))
        ⟨.skip, .readLoop connection .finished, []⟩
  | register {connection peer frames} (hadmits : transport.refuses peer false = false) :
      Stretch transport (.readLoop connection (.registering peer frames))
        ⟨.insertPeer ⟨peer, connection.id⟩,
          .readLoop { connection with registered := some ⟨peer, connection.id⟩ }
            (.announcing peer frames), []⟩
  | announce {connection peer frames} :
      Stretch transport (.readLoop connection (.announcing peer frames))
        ⟨.emit (.peerConnected peer) none, .readLoop connection (.handling frames),
          [.heartbeatLoop peer .spawned]⟩
  | routeOn {connection peer route route' frames effect} (hquiet : effect.quiet = true) :
      Stretch transport (.readLoop connection (.routing peer route frames))
        ⟨effect, .readLoop connection (.routing peer route' frames), []⟩
  | routed {connection peer route frames effect} (hquiet : effect.quiet = true) :
      Stretch transport (.readLoop connection (.routing peer route frames))
        ⟨effect, .readLoop connection (.handling frames), []⟩
  | closeUnregistered {connection} (hregistered : connection.registered = none) :
      Stretch transport (.readLoop connection .closing) ⟨.skip, .readLoop connection .finished, []⟩
  | evict {connection myHandle current} (hregistered : connection.registered = some myHandle)
      (hpeer : transport.peers myHandle.peerId = some current)
      (hsame : current.isSameConnection myHandle = true) :
      Stretch transport (.readLoop connection .closing)
        ⟨.removePeer myHandle.peerId current,
          .readLoop connection (.emitting myHandle.peerId current), []⟩
  | superseded {connection myHandle} (hregistered : connection.registered = some myHandle)
      (hother : ∀ current, transport.peers myHandle.peerId = some current →
        current.isSameConnection myHandle = false) :
      Stretch transport (.readLoop connection .closing) ⟨.skip, .readLoop connection .finished, []⟩
  | announceLoss {connection peer removed} :
      Stretch transport (.readLoop connection (.emitting peer removed))
        ⟨.emit (.peerDisconnected peer) (some removed), .readLoop connection .finished, []⟩

structure Transport.Undisturbed (transport next : Transport) : Prop where
  config : next.config = transport.config
  peers : next.peers = transport.peers
  desired : next.desired = transport.desired
  stopped : next.stopped = transport.stopped
  opened : next.opened = transport.opened
  removed : next.removed = transport.removed
  capacity : next.events.capacity = transport.events.capacity
  log : ∃ sent, next.events.log = transport.events.log ++ sent ∧
    ∀ emission ∈ sent, emission.removed = none ∧ ∀ peer, emission.event ≠ .peerDisconnected peer

theorem Effect.undisturbed {effect : Effect} (hquiet : effect.quiet = true)
    (transport : Transport) : transport.Undisturbed (effect.apply transport) := by
  cases effect with
  | skip | takeMsgId | enqueue conn msg | registerActor name mailbox | unregisterActor name
  | setInbox mailbox inbox => exact ⟨rfl, rfl, rfl, rfl, rfl, rfl, rfl, [], by simp [apply]⟩
  | emit event removed =>
      have hkind : removed = none ∧ ∀ peer, event ≠ .peerDisconnected peer := by
        cases event <;> cases removed <;> simp_all [Effect.quiet]
      obtain ⟨rfl, hevent⟩ := hkind
      exact ⟨rfl, rfl, rfl, rfl, rfl, rfl, rfl, [⟨event, none⟩], rfl, by simpa using hevent⟩
  | openConnection conn | insertPeer handle | removePeer peer removed | takePeers | desire peer
  | undesire peer | clearDesired | stop => cases hquiet

section Inversion

variable {externals : Externals} {transport : Transport} {input : Input} {peer : NodeId}
  {move : Move} {task : Task}

theorem Sending.quiet_of_move {stage : Sending} {effect : Effect}
    {progress : Progress Sending (Except SendError Unit)}
    (hmove : stage.move transport peer input = some (effect, progress)) : effect.quiet = true := by
  revert hmove
  fun_cases Sending.move <;> rintro ⟨⟩ <;> rfl

theorem Route.quiet_of_move {stage : Route} {effect : Effect} {progress : Progress Route Unit}
    (hmove : stage.move externals transport peer input = some (effect, progress)) :
    effect.quiet = true := by
  revert hmove
  fun_cases Route.move <;> intro hmove <;> first
    | cases hmove; rfl
    | cases hmove; exact Sending.quiet_of_move ‹_›
    | cases hmove

theorem Dial.stretch_of_move {caller : Dialer} {stage : Dial}
    (hmove : stage.move externals transport caller peer input = some move) :
    Stretch transport (.dial caller peer stage) move := by
  revert hmove
  fun_cases Dial.move <;> rintro ⟨⟩
  · exact .present ‹_›
  · exact .absent
  · exact .desire
  · exact .connected ‹_›
  · exact .dialFailed rfl
  · exact .yield ‹_›
  · exact .dialRegister (Bool.eq_false_iff.mpr ‹_›)
  · exact .introduce rfl rfl rfl
  · exact .introduce rfl rfl rfl
  · exact .introduce rfl rfl rfl
  · exact .introduce rfl rfl rfl
  · exact .handOver

theorem Dialer.stretch_of_move {caller : Dialer} {ok : Bool}
    (hmove : caller.move transport peer ok = some move) :
    Stretch transport (.dialed caller peer ok) move := by
  revert hmove
  fun_cases Dialer.move <;> rintro ⟨⟩
  · rename_i hretry
    obtain ⟨hok, hreconnect⟩ := Bool.and_eq_true_iff.mp hretry
    obtain rfl : ok = false := by simpa using hok
    exact .retry hreconnect
  · exact .connectReturned fun hreconnect => by simp_all
  · rename_i hok
    subst hok
    exact .reconnected
  · rename_i hok _ _ _
    rw [Bool.eq_false_iff.mpr hok]
    exact .exhausted
  · rename_i hok _ _ _
    rw [Bool.eq_false_iff.mpr hok]
    exact .backOff
  · rename_i hok _
    rw [Bool.eq_false_iff.mpr hok]
    exact .backOff

theorem ReconnectLoop.stretch_of_move {attempts : Nat} {stage : ReconnectLoop}
    (hmove : stage.move transport peer attempts input = some move) :
    Stretch transport (.reconnectLoop peer attempts stage) move := by
  revert hmove
  fun_cases ReconnectLoop.move <;> rintro ⟨⟩
  · exact .wake
  · exact .stillDesired ‹_›
  · exact .undesired ‹_›
  · exact .backAlready ‹_›
  · exact .redial
  · exact .abandon
  · exact .announceGiveUp

theorem Supervision.stretch_of_move {cursor : Nat} {stage : Supervision}
    (hmove : stage.move transport cursor input = some move) :
    Stretch transport (.reconnectSupervisor cursor stage) move := by
  revert hmove
  fun_cases Supervision.move <;> rintro ⟨⟩
  · exact .lag ‹_›
  · exact .heed ‹_› ‹_›
  · exact .ignore ‹_› ‹_›
  · rename_i hwanted
    rw [Bool.and_eq_true, decide_eq_true_iff] at hwanted
    exact .wanted hwanted.1 hwanted.2
  · rename_i hwanted
    rw [Bool.and_eq_true, decide_eq_true_iff, not_and] at hwanted
    exact .unwanted hwanted
  · exact .restart

theorem ForgetPeer.stretch_of_move {stage : ForgetPeer}
    (hmove : stage.move transport peer input = some move) :
    Stretch transport (.forgetPeer peer stage) move := by
  revert hmove
  fun_cases ForgetPeer.move <;> rintro ⟨⟩
  · exact .forget
  · exact .forgetEntry ‹_›
  · exact .nothingToForget ‹_›
  · exact .announceForgotten

theorem Shutdown.stretch_of_move {stage : Shutdown} (hmove : stage.move input = some move) :
    Stretch transport (.shutdown stage) move := by
  revert hmove
  fun_cases Shutdown.move <;> rintro ⟨⟩
  · exact .stop
  · exact .clearDesired
  · exact .takePeers

theorem Connection.stretch_of_handle {connection next : Connection} {msg : WireMessage}
    {frames : List WireMessage} {stage : ReadLoop}
    (hhandle : connection.handle externals transport msg frames = (next, stage)) :
    Stretch transport (.readLoop connection (.handling (msg :: frames)))
      ⟨.skip, .readLoop next stage, []⟩ := by
  revert hhandle
  fun_cases Connection.handle <;> rintro ⟨⟩
  · exact .mismatch ‹_›
  · exact .confirm ‹_›
  · exact .reject ‹_›
  · exact .reject ‹_›
  · exact .reject ‹_›
  · exact .greet ‹_› ‹_› (Bool.eq_false_iff.mpr ‹_›)
  · exact .reject ‹_›
  · exact .dispatch ‹_›
  · exact .reject ‹_›

theorem ReadLoop.stretch_of_move {connection : Connection} {stage : ReadLoop}
    (hmove : stage.move externals transport connection input = some move) :
    Stretch transport (.readLoop connection stage) move := by
  revert hmove
  fun_cases ReadLoop.move <;> rintro ⟨⟩
  · exact .subscribe
  · exact .read
  · exact .lose
  · exact .overhear ‹_› (.inr ‹_›)
  · exact .dismissed ‹_› ‹_› ‹_›
  · exact .overhear ‹_› (.inl ⟨_, ‹_›⟩)
  · exact .handled
  · exact Connection.stretch_of_handle ‹_›
  · exact .giveWay ‹_›
  · exact .register (Bool.eq_false_iff.mpr ‹_›)
  · exact .announce
  · exact .routeOn (Route.quiet_of_move ‹_›)
  · exact .routed (Route.quiet_of_move ‹_›)
  · exact .closeUnregistered ‹_›
  · exact .evict ‹_› ‹_› ‹_›
  · rename_i hsame
    exact .superseded ‹_› fun current hcurrent => by
      simp_all
  · exact .superseded ‹_› fun current hcurrent => by
      simp_all
  · exact .announceLoss

theorem AcceptLoop.stretch_of_move {stage : AcceptLoop}
    (hmove : stage.move transport input = some move) :
    Stretch transport (.acceptLoop stage) move := by
  revert hmove
  fun_cases AcceptLoop.move <;> rintro ⟨⟩
  · exact .accept ‹_›
  · exact .other rfl rfl rfl rfl
  · exact .other rfl rfl rfl rfl

theorem HeartbeatLoop.stretch_of_move {stage : HeartbeatLoop}
    (hmove : stage.move transport peer input = some move) :
    Stretch transport (.heartbeatLoop peer stage) move := by
  revert hmove
  fun_cases HeartbeatLoop.move <;> rintro ⟨⟩ <;> exact .other rfl rfl rfl rfl

theorem SendData.stretch_of_move {stage : SendData}
    (hmove : stage.move transport peer input = some move) :
    Stretch transport (.sendData peer stage) move := by
  revert hmove
  fun_cases SendData.move <;> rintro ⟨⟩
  · exact .other rfl rfl rfl rfl
  · exact .other rfl rfl rfl rfl
  · exact .other rfl rfl (Sending.quiet_of_move ‹_›) rfl
  · exact .other rfl rfl (Sending.quiet_of_move ‹_›) rfl

theorem Task.stretch_of_move (hmove : task.move externals transport input = some move) :
    Stretch transport task move := by
  revert hmove
  fun_cases Task.move <;> intro hmove
  · exact AcceptLoop.stretch_of_move hmove
  · exact Supervision.stretch_of_move hmove
  · cases hmove
    exact .dialFailed ‹_›
  · cases hmove
  · exact Dial.stretch_of_move hmove
  · exact Dialer.stretch_of_move hmove
  · exact ReconnectLoop.stretch_of_move hmove
  · exact ForgetPeer.stretch_of_move hmove
  · exact Shutdown.stretch_of_move hmove
  · exact ReadLoop.stretch_of_move hmove
  · exact HeartbeatLoop.stretch_of_move hmove
  · exact SendData.stretch_of_move hmove
  · cases hmove
  · cases hmove
    exact .other rfl rfl (Route.quiet_of_move ‹_›) rfl
  · cases hmove
    exact .other rfl rfl (Route.quiet_of_move ‹_›) rfl
  · cases hmove
    exact .other rfl rfl rfl rfl
  · cases hmove
    exact .other rfl rfl rfl rfl
  · cases hmove
    exact .other rfl rfl rfl rfl
  · cases hmove
    exact .other rfl rfl rfl rfl
  · cases hmove

inductive Task.Entry : Task → Prop
  | connect (peer : NodeId) : Task.Entry (.dial .connect peer .checkingPeer)
  | forgetPeer (peer : NodeId) : Task.Entry (.forgetPeer peer .undesiring)
  | shutdown : Task.Entry (.shutdown .stopping)
  | sendData (peer : NodeId) (request) : Task.Entry (.sendData peer (.checking request))
  | sendError (peer : NodeId) (detail correlationId) :
      Task.Entry (.sendError peer (some (.sendError detail correlationId)))
  | registerActor (name mailbox) : Task.Entry (.registerActor name mailbox false)
  | unregisterActor (name) : Task.Entry (.unregisterActor name false)
  | receive (mailbox) : Task.Entry (.receive mailbox false)
  | closeInbox (mailbox) : Task.Entry (.closeInbox mailbox false)

theorem Task.entry_cases (hentry : task.entry = true) : task.Entry := by
  revert hentry
  fun_cases Task.entry <;> intro hentry <;> first | constructor | cases hentry

theorem Transport.perform_eq_some {out : TaskSystem.Outcome Transport Task}
    (hperform : (Transport.program externals).perform transport task input = some out) :
    ∃ move, Stretch transport task move ∧ out = move.outcome transport := by
  obtain ⟨move, hmove, rfl⟩ := Option.map_eq_some_iff.mp hperform
  exact ⟨move, Task.stretch_of_move hmove, rfl⟩

/-- A step of a transport is a call from outside or a stretch of one task. -/
theorem Transport.step_cases {system next : Transport.System} {action : Transport.Action}
    (hstep : Transport.step externals system action = some next) :
    (∃ task, action = .call task ∧ task.entry = true ∧ next = system.call task) ∨
    ∃ index input task move, action = .resume index input ∧
      system.tasks[index]? = some task ∧ Stretch system.shared task move ∧
      next = system.after index (move.outcome system.shared) := by
  cases action with
  | call task =>
      obtain ⟨hentry, rfl⟩ := TaskSystem.step_call_eq_some hstep
      exact .inl ⟨task, rfl, hentry, rfl⟩
  | resume index input =>
      obtain ⟨task, out, htask, hout, rfl⟩ := TaskSystem.step_resume_eq_some hstep
      obtain ⟨move, hstretch, rfl⟩ := Transport.perform_eq_some hout
      exact .inr ⟨index, input, task, move, rfl, htask, hstretch, rfl⟩

end Inversion

end LapinBeam
