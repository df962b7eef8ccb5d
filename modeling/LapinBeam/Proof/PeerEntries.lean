import LapinBeam.Transport.Stretch

/-!
# Entries of the peers map

Every entry is carried by exactly one task: the dial that put it there until it spawns the read
loop, then that read loop, which takes the entry out when it ends. A removal is owed one disconnect
event by the task that made it.
-/

namespace LapinBeam

open TaskSystem

def Dial.conn : Dial → Option ConnectionId
  | .registering conn | .handshaking conn | .sending conn _ | .announcing conn
  | .spawning conn => some conn
  | _ => none

def Task.conn : Task → Option ConnectionId
  | .dial _ _ stage => stage.conn
  | .readLoop connection _ => some connection.id
  | _ => none

def ReadLoop.live : ReadLoop → Bool
  | .emitting _ _ | .finished => false
  | _ => true

def Task.carried : Task → Option PeerHandle
  | .dial _ peer stage => stage.registered.map (⟨peer, ·⟩)
  | .readLoop connection stage => if stage.live then connection.registered else none
  | _ => none

def Task.owed : Task → Option PeerHandle
  | .forgetPeer _ (.emitting removed) => some removed
  | .readLoop _ (.emitting _ removed) => some removed
  | _ => none

theorem Dial.conn_of_registered {dial : Dial} {conn : ConnectionId}
    (hregistered : dial.registered = some conn) : dial.conn = some conn := by
  cases dial <;> simp_all [Dial.registered, Dial.conn]

theorem Dial.registered_of_cancellable {dial : Dial} (hcancellable : dial.cancellable = true) :
    dial.registered = none := by
  cases dial <;> first | rfl | cases hcancellable

theorem Task.idle_of_bystander {task : Task} (hbystander : task.bystander = true) :
    task.conn = none ∧ task.carried = none ∧ task.owed = none := by
  cases task <;> first | exact ⟨rfl, rfl, rfl⟩ | cases hbystander

def Emission.Coherent (emission : Emission) : Prop :=
  match emission.event with
  | .peerDisconnected peer => ∃ handle, emission.removed = some handle ∧ handle.peerId = peer
  | _ => emission.removed = none

structure Transport.Coherent (transport : Transport) : Prop where
  keyed : ∀ {peer handle}, transport.peers peer = some handle → handle.peerId = peer
  announced : ∀ emission ∈ transport.events.log, emission.Coherent

@[mk_iff]
structure Connection.Coherent (connection : Connection) (stage : ReadLoop) : Prop where
  own : ∀ handle, connection.registered = some handle → handle.tx = connection.id
  once : ∀ peer frames, stage = .registering peer frames → connection.registered = none
  owes : ∀ peer removed, stage = .emitting peer removed → removed.peerId = peer

def Task.Coherent : Task → Prop
  | .forgetPeer peer (.emitting removed) => removed.peerId = peer
  | .readLoop connection stage => connection.Coherent stage
  | _ => True

theorem Task.coherent_of_bystander {task : Task} (hbystander : task.bystander = true) :
    task.Coherent := by
  cases task <;> trivial

section Step

variable {transport : Transport} {task : Task} {move : Move} {peer : NodeId} {handle : PeerHandle}

theorem Stretch.conn_cases (hstretch : Stretch transport task move) :
    ∀ holder ∈ move.task :: move.spawned, ∀ conn, holder.conn = some conn →
      task.conn = some conn ∨ conn ∉ transport.opened ∧ move.effect = .openConnection conn := by
  cases hstretch with
  | other hbefore hafter hquiet hspawned =>
      simp [hspawned, (Task.idle_of_bystander hafter).1]
  | introduce hbefore hafter =>
      simp [Task.conn, Dial.conn_of_registered hbefore, Dial.conn_of_registered hafter]
  | _ => simp_all [Task.conn, Dial.conn]

theorem Stretch.coherent (hstretch : Stretch transport task move) (hkeyed : transport.Coherent)
    (htask : task.Coherent) : ∀ holder ∈ move.task :: move.spawned, holder.Coherent := by
  cases hstretch with
  | other hbefore hafter hquiet hspawned =>
      simpa [hspawned] using Task.coherent_of_bystander hafter
  | forgetEntry hpeer => simpa [Task.Coherent] using hkeyed.keyed hpeer
  | evict hregistered hpeer =>
      simp_all [Task.Coherent, Connection.coherent_iff, hkeyed.keyed hpeer]
  | _ => simp_all [Task.Coherent, Connection.coherent_iff]

theorem Effect.localId_apply (effect : Effect) :
    (effect.apply transport).localId = transport.localId := by
  cases effect <;> rfl

theorem Effect.config_apply (effect : Effect) :
    (effect.apply transport).config = transport.config := by
  cases effect <;> rfl

theorem Effect.opened_subset (effect : Effect) (transport : Transport) :
    transport.opened ⊆ (effect.apply transport).opened := by
  cases effect <;> simp [apply]

theorem Effect.peers_apply (effect : Effect)
    (hpeer : (effect.apply transport).peers peer = some handle) :
    transport.peers peer = some handle ∨ effect = .insertPeer handle ∧ handle.peerId = peer := by
  cases effect with
  | insertPeer inserted =>
      by_cases heq : peer = inserted.peerId <;> simp_all [Effect.apply]
  | removePeer gone removed =>
      by_cases heq : peer = gone <;> simp_all [Effect.apply]
  | takePeers => simp [Effect.apply] at hpeer
  | _ => exact .inl hpeer

theorem Effect.log_apply (effect : Effect) :
    (effect.apply transport).events.log =
      transport.events.log ++
        match effect with
        | .emit event removed => [⟨event, removed⟩]
        | _ => [] := by
  cases effect <;> simp [Effect.apply]

theorem Task.conn_of_carried (htask : task.Coherent) (hcarried : task.carried = some handle) :
    task.conn = some handle.tx := by
  cases task with
  | dial caller peer stage =>
      obtain ⟨conn, hregistered, rfl⟩ := Option.map_eq_some_iff.mp hcarried
      exact Dial.conn_of_registered hregistered
  | readLoop connection stage =>
      simp only [Task.carried] at hcarried
      split at hcarried
      · exact congrArg some (htask.own handle hcarried).symm
      · cases hcarried
  | _ => cases hcarried

theorem Stretch.emission_coherent (hstretch : Stretch transport task move) (htask : task.Coherent)
    {event : Event} {removed : Option PeerHandle} (heffect : move.effect = .emit event removed) :
    Emission.Coherent ⟨event, removed⟩ := by
  have hquiet : ∀ {effect : Effect}, effect.quiet = true → effect = .emit event removed →
      Emission.Coherent ⟨event, removed⟩ := by
    rintro _ hquiet rfl
    cases event <;> cases removed <;> simp_all [Effect.quiet, Emission.Coherent]
  cases hstretch with
  | other hbefore hafter hother | introduce hbefore hafter hother | routeOn hother =>
      exact hquiet hother heffect
  | routed hother => exact hquiet hother heffect
  | announceForgotten =>
      cases heffect
      exact ⟨_, rfl, htask⟩
  | announceLoss =>
      cases heffect
      exact ⟨_, rfl, htask.owes _ _ rfl⟩
  | _ => cases heffect <;> rfl

theorem Stretch.transport_coherent (hstretch : Stretch transport task move)
    (hcoherent : transport.Coherent) (htask : task.Coherent) :
    (move.effect.apply transport).Coherent where
  keyed hpeer := by
    rcases move.effect.peers_apply hpeer with hold | ⟨-, hkey⟩
    · exact hcoherent.keyed hold
    · exact hkey
  announced emission hmem := by
    rw [Effect.log_apply, List.mem_append] at hmem
    rcases hmem with hold | hnew
    · exact hcoherent.announced emission hold
    · split at hnew
      · obtain rfl := List.mem_singleton.mp hnew
        exact hstretch.emission_coherent htask ‹_›
      · cases hnew

/-! ### Carrying an entry -/

theorem Stretch.carried_of_insert (hstretch : Stretch transport task move)
    (heffect : move.effect = .insertPeer handle) : move.task.carried = some handle := by
  cases hstretch <;> simp_all [Effect.quiet, Task.carried, Dial.registered, ReadLoop.live]

theorem Stretch.carried_some (hstretch : Stretch transport task move) (htask : task.Coherent)
    (hcarried : task.carried = some handle)
    (hentry : (move.effect.apply transport).peers handle.peerId = some handle) :
    ∃ holder ∈ move.task :: move.spawned, holder.carried = some handle := by
  cases hstretch with
  | other hbefore => simp [(Task.idle_of_bystander hbefore).2.1] at hcarried
  | evict hregistered hpeer hsame =>
      obtain rfl : _ = handle := Option.some.inj (hregistered.symm.trans hcarried)
      simp [Effect.apply] at hentry
  | superseded hregistered hother =>
      obtain rfl : _ = handle := Option.some.inj (hregistered.symm.trans hcarried)
      simpa [PeerHandle.isSameConnection] using hother _ hentry
  | introduce hbefore hafter => simp_all [Task.carried]
  | dialFailed hcancellable =>
      simp [Task.carried, Dial.registered_of_cancellable hcancellable] at hcarried
  | _ =>
      simp_all [Task.carried, ReadLoop.live, Dial.registered, Task.Coherent,
        Connection.coherent_iff]

/-! ### Announcing a removal -/

def PeerHandle.loss (handle : PeerHandle) : Emission :=
  ⟨.peerDisconnected handle.peerId, some handle⟩

def Task.owes (handle : PeerHandle) (task : Task) : Bool :=
  task.owed = some handle

theorem PeerHandle.loss_injective : Function.Injective PeerHandle.loss :=
  fun _ _ heq => Option.some.inj (congrArg Emission.removed heq)

theorem Effect.count_loss_emit (transport : Transport) (removed handle : PeerHandle) :
    ((Effect.emit (.peerDisconnected removed.peerId) (some removed)).apply
        transport).events.log.count handle.loss =
      transport.events.log.count handle.loss + (decide (removed = handle)).toNat := by
  change (transport.events.log ++ [removed.loss]).count handle.loss = _
  rw [List.count_append]
  by_cases heq : removed = handle
  · simp [heq]
  · have hne : removed.loss ≠ handle.loss := PeerHandle.loss_injective.ne heq
    simp [heq, hne]

theorem Effect.ledger_of_quiet (transport : Transport) {effect : Effect}
    (hquiet : effect.quiet = true) (handle : PeerHandle) :
    (effect.apply transport).removed = transport.removed ∧
      (effect.apply transport).events.log.count handle.loss =
        transport.events.log.count handle.loss := by
  obtain ⟨sent, hlog, hsent⟩ := (effect.undisturbed hquiet transport).log
  refine ⟨(effect.undisturbed hquiet transport).removed, ?_⟩
  have hnone : sent.count handle.loss = 0 :=
    List.count_eq_zero.mpr fun hmem => by simpa [PeerHandle.loss] using (hsent _ hmem).1
  rw [hlog, List.count_append, hnone, Nat.add_zero]

theorem Stretch.ledger (hstretch : Stretch transport task move) (htask : task.Coherent)
    (handle : PeerHandle) :
    (move.effect.apply transport).removed.count handle + transport.events.log.count handle.loss +
        (task.owes handle).toNat =
      transport.removed.count handle + (move.effect.apply transport).events.log.count handle.loss +
        (move.task.owes handle).toNat + move.spawned.countP (Task.owes handle) := by
  cases hstretch with
  | other hbefore hafter hquiet hspawned =>
      obtain ⟨hremoved, hlog⟩ := Effect.ledger_of_quiet transport hquiet handle
      simp [hremoved, hlog, hspawned, Task.owes, (Task.idle_of_bystander hbefore).2.2,
        (Task.idle_of_bystander hafter).2.2]
  | introduce hbefore hafter hquiet | routeOn hquiet | routed hquiet =>
      obtain ⟨hremoved, hlog⟩ := Effect.ledger_of_quiet transport hquiet handle
      simp [hremoved, hlog, Task.owes, Task.owed]
  | @forgetEntry peer removed _ =>
      by_cases heq : removed = handle <;>
        simp [Effect.apply, Task.owes, Task.owed, heq, Nat.add_right_comm]
  | @evict connection myHandle current _ _ _ =>
      by_cases heq : current = handle <;>
        simp [Effect.apply, Task.owes, Task.owed, heq, Nat.add_right_comm]
  | @announceForgotten peer removed =>
      obtain rfl : removed.peerId = peer := htask
      dsimp only
      rw [Effect.count_loss_emit]
      simp [Effect.apply, Task.owes, Task.owed, Nat.add_assoc]
  | @announceLoss connection peer removed =>
      obtain rfl : removed.peerId = peer := htask.owes _ _ rfl
      dsimp only
      rw [Effect.count_loss_emit]
      simp [Effect.apply, Task.owes, Task.owed, Nat.add_assoc]
  | _ => simp [Effect.apply, Task.owes, Task.owed, PeerHandle.loss]

theorem Stretch.finish {connection connection' : Connection} {stage stage' : ReadLoop}
    (hstretch : Stretch transport (.readLoop connection stage) move)
    (hconnection : connection.Coherent stage) (hlive : stage.live = true)
    (hafter : move.task = .readLoop connection' stage') (hlive' : stage'.live = false) :
    (move.effect = .skip ∧ ∀ handle, connection.registered = some handle →
      ∀ current, transport.peers handle.peerId = some current → current.tx ≠ handle.tx) ∨
    ∃ handle current, connection.registered = some handle ∧
      transport.peers handle.peerId = some current ∧ current.tx = handle.tx ∧
      move.effect = .removePeer handle.peerId current := by
  cases hstretch with
  | other hbefore => cases hbefore
  | evict hregistered hpeer hsame =>
      exact .inr ⟨_, _, hregistered, hpeer, by simpa [PeerHandle.isSameConnection] using hsame, rfl⟩
  | superseded hregistered hother =>
      refine .inl ⟨rfl, fun handle hhandle current hcurrent => ?_⟩
      obtain rfl : _ = handle := Option.some.inj (hregistered.symm.trans hhandle)
      simpa [PeerHandle.isSameConnection] using hother current hcurrent
  | giveWay => simp [hconnection.once _ _ rfl]
  | reject hregistered | closeUnregistered hregistered => simp [hregistered]
  | announceLoss => cases hlive
  | _ =>
      cases hafter
      cases hlive'

theorem Stretch.conn_split (hstretch : Stretch transport task move) :
    Exclusive (fun task conn => task.conn = some conn) (move.task :: move.spawned) := by
  refine exclusive_of_pairwise ?_
  cases hstretch with
  | other hbefore hafter hquiet hspawned => simp [hspawned]
  | _ => simp [Task.conn]

theorem Stretch.peers_of_removePeer (hstretch : Stretch transport task move) {removed : PeerHandle}
    (heffect : move.effect = .removePeer peer removed) : transport.peers peer = some removed := by
  cases hstretch <;> simp_all [Effect.quiet]

theorem Effect.removed_of_peers_none (effect : Effect) (hpeer : transport.peers peer = some handle)
    (hgone : (effect.apply transport).peers peer = none) :
    effect = .takePeers ∨ ∃ removed, effect = .removePeer peer removed := by
  cases effect with
  | insertPeer inserted =>
      by_cases heq : peer = inserted.peerId <;> simp_all [Effect.apply]
  | removePeer gone removed =>
      by_cases heq : peer = gone <;> simp_all [Effect.apply]
  | _ => simp_all [Effect.apply]

end Step

theorem Task.idle_of_entry {task : Task} (hentry : task.entry = true) :
    task.Coherent ∧ task.conn = none ∧ task.carried = none ∧ task.owed = none := by
  cases Task.entry_cases hentry <;> exact ⟨trivial, rfl, rfl, rfl⟩

namespace Transport

variable {externals : Externals} {system next : System} {action : Action}

structure Accounted (system : System) : Prop where
  coherent : system.shared.Coherent
  tasks : ∀ task ∈ system.tasks, task.Coherent
  opened : ∀ task ∈ system.tasks, ∀ conn, task.conn = some conn → conn ∈ system.shared.opened
  exclusive : Exclusive (fun task conn => task.conn = some conn) system.tasks
  carried : ∀ {peer handle}, system.shared.peers peer = some handle →
    Held (fun _ task handle => task.carried = some handle) system handle
  ledger : ∀ handle, system.shared.removed.count handle =
    system.shared.events.log.count handle.loss + system.tasks.countP (Task.owes handle)

theorem accounted_start (localId : NodeId) (config : TransportConfig) (inboxes : Mailbox → Inbox) :
    Accounted (start localId config inboxes) where
  coherent := ⟨nofun, nofun⟩
  tasks task hmem := by
    rcases List.mem_pair.mp hmem with rfl | rfl <;> trivial
  opened task hmem conn hconn := by
    rcases List.mem_pair.mp hmem with rfl | rfl <;> cases hconn
  exclusive := exclusive_of_pairwise (by simp [start, Task.conn])
  carried := nofun
  ledger handle := rfl

theorem Accounted.call {task : Task} (haccounted : Accounted system)
    (hentry : task.entry = true) : Accounted (system.call task) where
  coherent := haccounted.coherent
  tasks other hmem := by
    rcases mem_call hmem with hold | rfl
    · exact haccounted.tasks other hold
    · exact (Task.idle_of_entry hentry).1
  opened other hmem conn hconn := by
    rcases mem_call hmem with hold | rfl
    · exact haccounted.opened other hold conn hconn
    · simp [(Task.idle_of_entry hentry).2.1] at hconn
  exclusive := exclusive_call haccounted.exclusive (by simp [(Task.idle_of_entry hentry).2.1])
  carried hpeer := held_call (haccounted.carried hpeer)
  ledger handle := by
    rw [State.call, List.countP_append, haccounted.ledger handle]
    simp [Task.owes, (Task.idle_of_entry hentry).2.2.2]

theorem Accounted.resume {index : Nat} {task : Task} {move : Move}
    (haccounted : Accounted system) (htask : system.tasks[index]? = some task)
    (hstretch : Stretch system.shared task move) :
    Accounted (system.after index (move.outcome system.shared)) :=
  have hself : task.Coherent := haccounted.tasks task (List.mem_of_getElem? htask)
  { coherent := hstretch.transport_coherent haccounted.coherent hself
    tasks := fun other hmem => by
      rcases mem_after hmem with ⟨position, -, hold⟩ | hnew
      · exact haccounted.tasks other (List.mem_of_getElem? hold)
      · exact hstretch.coherent haccounted.coherent hself _ hnew
    opened := fun other hmem conn hconn => by
      have hkept : ∀ {holder}, holder ∈ system.tasks → holder.conn = some conn →
          conn ∈ (move.effect.apply system.shared).opened := fun hold hconn =>
        move.effect.opened_subset system.shared (haccounted.opened _ hold conn hconn)
      rcases mem_after hmem with ⟨position, -, hold⟩ | hnew
      · exact hkept (List.mem_of_getElem? hold) hconn
      · rcases hstretch.conn_cases other hnew conn hconn with hbefore | ⟨-, heffect⟩
        · exact hkept (List.mem_of_getElem? htask) hbefore
        · simp [Move.outcome, State.after, heffect, Effect.apply]
    exclusive := by
      refine exclusive_resume htask haccounted.exclusive ?_ hstretch.conn_split
      intro holder hmem conn hconn
      rcases hstretch.conn_cases holder hmem conn hconn with hold | ⟨hfresh, -⟩
      · exact .inl hold
      · exact .inr fun position other _ hlookup hother =>
          hfresh (haccounted.opened other (List.mem_of_getElem? hlookup) conn hother)
    carried := fun {peer handle} hpeer => by
      have hkey : handle.peerId = peer :=
        (hstretch.transport_coherent haccounted.coherent hself).keyed hpeer
      rcases move.effect.peers_apply hpeer with hold | ⟨hinsert, -⟩
      · refine held_resume htask (fun hcarried => ?_) (fun _ => id) (haccounted.carried hold)
        exact hstretch.carried_some hself hcarried (hkey.symm ▸ hpeer)
      · exact held_after htask ⟨_, List.mem_cons_self, hstretch.carried_of_insert hinsert⟩
    ledger := fun handle => by
      have hcount := count_resume (Task.owes handle) (move.outcome system.shared) htask
      have hledger := hstretch.ledger hself handle
      have hbefore := haccounted.ledger handle
      simp only [Move.outcome, State.after] at hcount ⊢
      omega }

theorem Accounted.step (haccounted : Accounted system)
    (hstep : Transport.step externals system action = some next) : Accounted next := by
  obtain ⟨task, rfl, hentry, rfl⟩ | ⟨index, input, task, move, rfl, htask, hstretch, rfl⟩ :=
    step_cases hstep
  · exact haccounted.call hentry
  · exact haccounted.resume htask hstretch

theorem accounted_of_reachable {localId : NodeId} {config : TransportConfig}
    {inboxes : Mailbox → Inbox} {allowed : System → Action → Prop}
    (hreach : Machine.ReachableWhere (Transport.step externals) allowed
      (start localId config inboxes) system) : Accounted system :=
  hreach.invariant (accounted_start localId config inboxes) fun _ _ _ haccounted _ hstep =>
    haccounted.step hstep

/-- Every entry stands under its own peer and belongs to a task that will take it out. -/
def EntriesHeld (system : System) : Prop :=
  ∀ peer handle, system.shared.peers peer = some handle →
    handle.peerId = peer ∧ ∃ task ∈ system.tasks, task.carried = some handle

/-- The step by which a read loop finishes takes out the entry of its own connection and no other. -/
def FinishesClean (externals : Externals) (system : System) : Prop :=
  ∀ (index : Nat) (connection connection' : Connection) (stage stage' : ReadLoop) (input : Input)
    (next : System),
    system.tasks[index]? = some (.readLoop connection stage) → stage.live = true →
    step externals system (.resume index input) = some next →
    next.tasks[index]? = some (.readLoop connection' stage') → stage'.live = false →
    ∀ peer handle, system.shared.peers peer = some handle →
      next.shared.peers peer = if handle.tx = connection.id then none else some handle

/-- Entries leave the map recorded, `shutdown` apart, and each removal recorded has one disconnect event for its peer, sent or about to be sent; there is no other disconnect event. -/
def RemovalsAnnounced (externals : Externals) (system : System) : Prop :=
  (∀ action next, step externals system action = some next → ∀ peer handle,
    system.shared.peers peer = some handle → next.shared.peers peer = none →
      next.shared.removed = handle :: system.shared.removed ∨ next.shared.peers = fun _ => none) ∧
  (∀ handle, system.shared.removed.count handle =
    system.shared.events.log.count handle.loss + system.tasks.countP (Task.owes handle)) ∧
  ∀ emission ∈ system.shared.events.log, ∀ peer, emission.event = .peerDisconnected peer →
    ∃ handle ∈ system.shared.removed, handle.peerId = peer ∧ emission = handle.loss

theorem Accounted.entriesHeld (haccounted : Accounted system) : EntriesHeld system := by
  intro peer handle hpeer
  obtain ⟨position, task, hlookup, hcarried⟩ := haccounted.carried hpeer
  exact ⟨haccounted.coherent.keyed hpeer, task, List.mem_of_getElem? hlookup, hcarried⟩

theorem Accounted.registered_of_tx {index : Nat} {connection : Connection} {stage : ReadLoop}
    {peer : NodeId} {handle : PeerHandle} (haccounted : Accounted system)
    (htask : system.tasks[index]? = some (.readLoop connection stage))
    (hpeer : system.shared.peers peer = some handle) (htx : handle.tx = connection.id) :
    connection.registered = some handle := by
  obtain ⟨position, holder, hlookup, hcarried⟩ := haccounted.carried hpeer
  have hconn : holder.conn = some connection.id := by
    rw [← htx]
    exact Task.conn_of_carried (haccounted.tasks holder (List.mem_of_getElem? hlookup)) hcarried
  obtain rfl : position = index :=
    haccounted.exclusive position index holder _ connection.id hlookup htask hconn rfl
  obtain rfl : holder = .readLoop connection stage := Option.some.inj (hlookup.symm.trans htask)
  simp only [Task.carried] at hcarried
  split at hcarried
  · exact hcarried
  · cases hcarried

theorem Accounted.finishesClean (haccounted : Accounted system) :
    FinishesClean externals system := by
  intro index connection connection' stage stage' input next htask hlive hstep htask' hlive' peer
    handle hpeer
  obtain ⟨task, out, htask₁, hout, rfl⟩ := step_resume_eq_some hstep
  obtain rfl : task = .readLoop connection stage := Option.some.inj (htask₁.symm.trans htask)
  obtain ⟨move, hstretch, rfl⟩ := perform_eq_some hout
  have hself := haccounted.tasks _ (List.mem_of_getElem? htask)
  have hafter : move.task = .readLoop connection' stage' :=
    Option.some.inj ((lookup_self htask).symm.trans htask')
  have hkey := haccounted.coherent.keyed hpeer
  have hown := haccounted.registered_of_tx htask hpeer
  change (move.effect.apply system.shared).peers peer = _
  rcases hstretch.finish hself hlive hafter hlive' with
    ⟨heffect, hother⟩ | ⟨mine, current, hregistered, hcurrent, hsame, heffect⟩
  · have hne : handle.tx ≠ connection.id := fun htx =>
      hother handle (hown htx) handle (hkey.symm ▸ hpeer) rfl
    rw [heffect, if_neg hne]
    exact hpeer
  · have hmine : mine.tx = connection.id := hself.own mine hregistered
    rw [heffect]
    by_cases htx : handle.tx = connection.id
    · obtain rfl : mine = handle := Option.some.inj (hregistered.symm.trans (hown htx))
      simp [Effect.apply, htx, hkey]
    · have hpeer' : peer ≠ mine.peerId := by
        rintro rfl
        obtain rfl : current = handle := Option.some.inj (hcurrent.symm.trans hpeer)
        exact htx (hsame.trans hmine)
      simpa [Effect.apply, htx, hpeer'] using hpeer

theorem Accounted.removalsAnnounced (haccounted : Accounted system) :
    RemovalsAnnounced externals system := by
  refine ⟨?_, haccounted.ledger, ?_⟩
  · intro action next hstep peer handle hpeer hgone
    obtain ⟨task, rfl, hentry, rfl⟩ | ⟨index, input, task, move, rfl, htask, hstretch, rfl⟩ :=
      step_cases hstep
    · cases hpeer.symm.trans hgone
    · rcases move.effect.removed_of_peers_none hpeer hgone with htake | ⟨removed, hremove⟩
      · exact .inr (by simp [Move.outcome, State.after, htake, Effect.apply])
      · obtain rfl : handle = removed :=
          Option.some.inj (hpeer.symm.trans (hstretch.peers_of_removePeer hremove))
        exact .inl (by simp [Move.outcome, State.after, hremove, Effect.apply])
  · intro emission hmem peer hevent
    have hcoherent := haccounted.coherent.announced emission hmem
    simp only [Emission.Coherent, hevent] at hcoherent
    obtain ⟨handle, hremoved, hkey⟩ := hcoherent
    have hloss : emission = handle.loss := by
      cases emission
      simp_all [PeerHandle.loss]
    refine ⟨handle, ?_, hkey, hloss⟩
    have hsent : 0 < system.shared.events.log.count handle.loss :=
      List.count_pos_iff.mpr (hloss ▸ hmem)
    have hledger := haccounted.ledger handle
    exact List.count_pos_iff.mp (by omega)

theorem no_zombie_or_stolen_entries {localId : NodeId} {config : TransportConfig}
    {inboxes : Mailbox → Inbox}
    (hreach : Machine.Reachable (step externals) (start localId config inboxes) system) :
    EntriesHeld system ∧ FinishesClean externals system ∧ RemovalsAnnounced externals system :=
  have haccounted := accounted_of_reachable hreach
  ⟨haccounted.entriesHeld, haccounted.finishesClean, haccounted.removalsAnnounced⟩

theorem no_zombie_or_stolen_entries_dialed :
    ∃ system, Machine.Reachable (step Fixed.externals) Fixed.start system ∧
      system.shared.peers Fixed.peer = some ⟨Fixed.peer, 1⟩ ∧
      EntriesHeld system ∧ FinishesClean Fixed.externals system ∧
        RemovalsAnnounced Fixed.externals system := by
  have hrun : (Machine.runWhere (step Fixed.externals) (fun _ _ => True) Fixed.start
      (Fixed.dialed ++ [.resume 3 (.read .eof)])).map
        (fun system => system.shared.peers Fixed.peer) = some (some ⟨Fixed.peer, 1⟩) := by
    decide +kernel
  obtain ⟨system, hreach, hpeer⟩ := Machine.exists_reachableWhere hrun
  exact ⟨system, hreach, hpeer, no_zombie_or_stolen_entries hreach⟩

/-- No two peers are filed under one connection. -/
theorem connections_apart {localId : NodeId} {config : TransportConfig}
    {inboxes : Mailbox → Inbox} {peer other : NodeId} {mine theirs : PeerHandle}
    (hreach : Machine.Reachable (step externals) (start localId config inboxes) system)
    (hmine : system.shared.peers peer = some mine)
    (htheirs : system.shared.peers other = some theirs) (htx : mine.tx = theirs.tx) :
    peer = other := by
  have haccounted := accounted_of_reachable hreach
  obtain ⟨index, holder, hheld, hcarried⟩ := haccounted.carried hmine
  obtain ⟨index', holder', hheld', hcarried'⟩ := haccounted.carried htheirs
  have hconn := Task.conn_of_carried (haccounted.tasks _ (List.mem_of_getElem? hheld)) hcarried
  have hconn' := Task.conn_of_carried (haccounted.tasks _ (List.mem_of_getElem? hheld')) hcarried'
  -- A connection has one task, and a task carries one entry.
  obtain rfl := haccounted.exclusive _ _ _ _ _ hheld hheld' hconn (htx ▸ hconn')
  obtain rfl := Option.some.inj (hheld.symm.trans hheld')
  obtain rfl := Option.some.inj (hcarried.symm.trans hcarried')
  exact (haccounted.coherent.keyed hmine).symm.trans (haccounted.coherent.keyed htheirs)

theorem connections_apart_dialed :
    ∃ system, Machine.Reachable (step Fixed.externals) Fixed.start system ∧
      system.shared.peers Fixed.peer = some ⟨Fixed.peer, 1⟩ ∧
      ∀ peer handle, system.shared.peers peer = some handle → handle.tx = 1 → peer = Fixed.peer := by
  have hrun : (Machine.runWhere (step Fixed.externals) (fun _ _ => True) Fixed.start
      Fixed.dialed).map (fun system => system.shared.peers Fixed.peer) =
      some (some ⟨Fixed.peer, 1⟩) := by
    decide +kernel
  obtain ⟨system, hreach, hpeer⟩ := Machine.exists_reachableWhere hrun
  exact ⟨system, hreach, hpeer, fun _ _ hother htx => connections_apart hreach hother hpeer htx⟩

end Transport

end LapinBeam
