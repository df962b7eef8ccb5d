import LapinBeam.Proof.DesiredPeers

/-!
# Disconnect events and the connection they are about

A disconnect event names a peer, not a connection, and every read loop registered for that peer
closes on it. It closes only the connection it is about as long as two things are kept apart: no
connection is registered for a peer while a disconnect of the peer is still on its way to it, and no
entry is taken out while another connection to the same peer still watches events. Otherwise the
event of an earlier or losing connection reaches the loop of another one.
-/

namespace LapinBeam

open TaskSystem

def ReadLoop.watching : ReadLoop → Bool
  | .closing | .emitting _ _ | .finished => false
  | _ => true

def ReadLoop.subscribed : ReadLoop → Bool
  | .spawned => false
  | _ => true

/-- The registered connection a disconnect event can close through this task: that of a read loop that watches events, or of a dial about to spawn one. -/
def Task.attached : Task → Option PeerHandle
  | .dial _ peer stage => stage.registered.map (⟨peer, ·⟩)
  | .readLoop connection stage => if stage.watching then connection.registered else none
  | _ => none

def Task.registers (transport : Transport) : Task → Option NodeId
  | .dial _ peer (.registering _) => if transport.refuses peer true then none else some peer
  | .readLoop _ (.registering peer _) => if transport.refuses peer false then none else some peer
  | _ => none

def Task.removes (transport : Transport) : Task → Option (NodeId × PeerHandle)
  | .forgetPeer peer .removing => (transport.peers peer).map (peer, ·)
  | .readLoop connection .closing =>
      match connection.registered with
      | none => none
      | some mine =>
          match transport.peers mine.peerId with
          | none => none
          | some current =>
              if current.isSameConnection mine then some (mine.peerId, current) else none
  | _ => none

def Task.unread (transport : Transport) : Task → List Emission
  | .readLoop connection _ => transport.events.unread connection.cursor
  | _ => []

def Task.HearsOwn (transport : Transport) : Task → Prop
  | .readLoop connection stage =>
      stage.watching = true → stage.subscribed = true → ∀ handle,
        connection.registered = some handle →
        ∀ emission ∈ transport.events.unread connection.cursor,
          emission.event = .peerDisconnected handle.peerId → emission.removed = some handle
  | _ => True

theorem Task.unattached_of_bystander {task : Task} (hbystander : task.bystander = true) :
    task.attached = none ∧ task.announces = none ∧ ∀ transport, task.HearsOwn transport := by
  cases task <;> first | exact ⟨rfl, rfl, fun _ => trivial⟩ | cases hbystander

section Step

variable {transport : Transport} {task : Task} {move : Move}

theorem Stretch.attached_cases (hstretch : Stretch transport task move) :
    ∀ holder ∈ move.task :: move.spawned, ∀ handle, holder.attached = some handle →
      task.attached = some handle ∨ task.registers transport = some handle.peerId := by
  cases hstretch with
  | other hbefore hafter hquiet hspawned =>
      simp [hspawned, (Task.unattached_of_bystander hafter).1]
  | introduce hbefore hafter => simp [Task.attached, hbefore, hafter]
  | _ => simp_all [Task.attached, Task.registers, ReadLoop.watching, Dial.registered]

theorem Stretch.announces_cases (hstretch : Stretch transport task move) :
    ∀ holder ∈ move.task :: move.spawned, ∀ peer, holder.announces = some peer →
      ∃ removed, holder.owed = some removed ∧ task.removes transport = some (peer, removed) := by
  cases hstretch with
  | other hbefore hafter hquiet hspawned =>
      simp [hspawned, (Task.unattached_of_bystander hafter).2.1]
  | forgetEntry hpeer => simp [Task.announces, Task.owed, Task.removes, hpeer]
  | evict hregistered hpeer hsame =>
      simp [Task.announces, Task.owed, Task.removes, hregistered, hpeer, hsame]
  | _ => simp [Task.announces, Task.owed]

theorem Task.removes_of_registers {peer peer' : NodeId} {removed : PeerHandle}
    (hregisters : task.registers transport = some peer) :
    task.removes transport ≠ some (peer', removed) := by
  revert hregisters
  fun_cases Task.registers <;> simp [Task.removes]

theorem Stretch.announces_of_emit (hstretch : Stretch transport task move) {peer : NodeId}
    {removed : Option PeerHandle} (heffect : move.effect = .emit (.peerDisconnected peer) removed) :
    task.announces = some peer ∧ task.owed = removed := by
  cases hstretch <;> simp_all [Effect.quiet, Task.announces, Task.owed]

theorem Task.HearsOwn.apply (effect : Effect) (hhears : task.HearsOwn transport)
    (hsent : ∀ handle, task.attached = some handle → ∀ removed,
      effect = .emit (.peerDisconnected handle.peerId) removed → removed = some handle) :
    task.HearsOwn (effect.apply transport) := by
  cases task with
  | readLoop connection stage =>
      intro hwatching hsubscribed handle hregistered emission hmem hevent
      rw [Broadcast.Channel.unread, Effect.log_apply, List.drop_append] at hmem
      rcases List.mem_append.mp hmem with hold | hnew
      · exact hhears hwatching hsubscribed handle hregistered emission hold hevent
      · have hnew' := List.mem_of_mem_drop hnew
        split at hnew'
        · obtain rfl := List.mem_singleton.mp hnew'
          obtain rfl := hevent
          exact hsent handle (by simp [Task.attached, hwatching, hregistered]) _ rfl
        · cases hnew'
  | _ => trivial

theorem Stretch.hearsOwn (hstretch : Stretch transport task move)
    (hhears : task.HearsOwn transport)
    (hclear : ∀ peer ∈ task.registers transport, ∀ emission ∈ task.unread transport,
      emission.event ≠ .peerDisconnected peer) :
    ∀ holder ∈ move.task :: move.spawned, holder.HearsOwn transport := by
  cases hstretch with
  | other hbefore hafter hquiet hspawned =>
      simpa [hspawned] using (Task.unattached_of_bystander hafter).2.2 transport
  | subscribe => simp [Task.HearsOwn]
  | @overhear connection handle next hregistered hrecv =>
      simp only [List.mem_singleton, forall_eq]
      intro _ _ mine hmine emission hmem hevent
      exact hhears rfl rfl mine hmine emission
        (Broadcast.Channel.unread_subset_of_recv hrecv hmem) hevent
  | @register connection peer frames hadmits =>
      simp only [List.mem_singleton, forall_eq]
      intro _ _ mine hmine emission hmem hevent
      obtain rfl := Option.some.inj hmine
      exact absurd hevent (hclear peer (by simp [Task.registers, hadmits]) emission hmem)
  | _ => simp_all [Task.HearsOwn, ReadLoop.watching, ReadLoop.subscribed]

end Step

theorem Task.unattached_of_entry {task : Task} (hentry : task.entry = true) :
    task.attached = none ∧ task.announces = none ∧ ∀ transport, task.HearsOwn transport := by
  cases Task.entry_cases hentry <;> exact ⟨rfl, rfl, fun _ => trivial⟩

namespace Transport

variable {externals : Externals} {localId : NodeId} {config : TransportConfig}
  {inboxes : Mailbox → Inbox} {system next : System} {action : Action}

/-- A connection is registered for a peer only when no task is about to announce a disconnect of the peer and the connection's own receiver holds none; an entry is taken out only when no other connection to its peer watches events. -/
def KeptApart (system : System) (action : Action) : Prop :=
  ∀ task ∈ resumed system action,
    (∀ peer ∈ task.registers system.shared,
      (∀ other ∈ system.tasks, other.announces ≠ some peer) ∧
        ∀ emission ∈ task.unread system.shared, emission.event ≠ .peerDisconnected peer) ∧
    ∀ entry ∈ task.removes system.shared, ∀ other ∈ system.tasks, ∀ handle ∈ other.attached,
      handle.peerId = entry.1 → handle = entry.2

instance (system : System) (action : Action) : Decidable (KeptApart system action) :=
  inferInstanceAs (Decidable (∀ task ∈ resumed system action,
    (∀ peer ∈ task.registers system.shared,
      (∀ other ∈ system.tasks, other.announces ≠ some peer) ∧
        ∀ emission ∈ task.unread system.shared, emission.event ≠ .peerDisconnected peer) ∧
    ∀ entry ∈ task.removes system.shared, ∀ other ∈ system.tasks, ∀ handle ∈ other.attached,
      handle.peerId = entry.1 → handle = entry.2))

structure Addressed (system : System) : Prop where
  pending : ∀ task ∈ system.tasks, ∀ handle, task.attached = some handle →
    ∀ other ∈ system.tasks, other.announces = some handle.peerId → other.owed = some handle
  hears : ∀ task ∈ system.tasks, task.HearsOwn system.shared

theorem addressed_start : Addressed (start localId config inboxes) where
  pending task hmem handle hattached := by
    rcases List.mem_pair.mp hmem with rfl | rfl <;> cases hattached
  hears task hmem := by
    rcases List.mem_pair.mp hmem with rfl | rfl <;> trivial

theorem Addressed.call {task : Task} (haddressed : Addressed system)
    (hentry : task.entry = true) : Addressed (system.call task) := by
  obtain ⟨hattached, hannounces, hhears⟩ := Task.unattached_of_entry hentry
  refine ⟨?_, ?_⟩
  · intro other hmem handle hother announcer hmem' hannouncer
    rcases mem_call hmem with hold | rfl
    · rcases mem_call hmem' with hold' | rfl
      · exact haddressed.pending other hold handle hother announcer hold' hannouncer
      · simp [hannounces] at hannouncer
    · simp [hattached] at hother
  · intro other hmem
    rcases mem_call hmem with hold | rfl
    · exact haddressed.hears other hold
    · exact hhears _

section Resume

variable {index : Nat} {input : Input} {task holder : Task} {move : Move}
  (haddressed : Addressed system) (happart : KeptApart system (.resume index input))
  (htask : system.tasks[index]? = some task) (hstretch : Stretch system.shared task move)

include htask hstretch

theorem attached_after {handle : PeerHandle}
    (hmem : holder ∈ (system.after index (move.outcome system.shared)).tasks)
    (hattached : holder.attached = some handle) :
    (∃ before ∈ system.tasks, before.attached = some handle) ∨
      task.registers system.shared = some handle.peerId := by
  rcases mem_after hmem with ⟨position, -, hlookup⟩ | hnew
  · exact .inl ⟨holder, List.mem_of_getElem? hlookup, hattached⟩
  · exact (hstretch.attached_cases holder hnew handle hattached).imp_left fun hbefore =>
      ⟨task, List.mem_of_getElem? htask, hbefore⟩

include haddressed happart

theorem Addressed.pending_resume {other : Task} {handle : PeerHandle}
    (hmem : holder ∈ (system.after index (move.outcome system.shared)).tasks)
    (hattached : holder.attached = some handle)
    (hmem' : other ∈ (system.after index (move.outcome system.shared)).tasks)
    (hannounces : other.announces = some handle.peerId) : other.owed = some handle := by
  obtain ⟨hregistration, hremoval⟩ := happart task htask
  rcases attached_after htask hstretch hmem hattached with ⟨before, hbefore, hheld⟩ | hregisters
  · rcases mem_after hmem' with ⟨position, -, hlookup⟩ | hnew
    · exact haddressed.pending before hbefore handle hheld other (List.mem_of_getElem? hlookup)
        hannounces
    · obtain ⟨removed, howed, hremoves⟩ := hstretch.announces_cases other hnew _ hannounces
      rw [howed, hremoval _ hremoves before hbefore handle hheld rfl]
  · rcases mem_after hmem' with ⟨position, -, hlookup⟩ | hnew
    · exact absurd hannounces ((hregistration _ hregisters).1 other (List.mem_of_getElem? hlookup))
    · obtain ⟨removed, -, hremoves⟩ := hstretch.announces_cases other hnew _ hannounces
      exact absurd hremoves (Task.removes_of_registers hregisters)

theorem Addressed.hears_resume
    (hmem : holder ∈ (system.after index (move.outcome system.shared)).tasks) :
    holder.HearsOwn (move.effect.apply system.shared) := by
  have hself : task ∈ system.tasks := List.mem_of_getElem? htask
  obtain ⟨hregistration, -⟩ := happart task htask
  have hsent : ∀ handle, holder.attached = some handle → ∀ removed,
      move.effect = .emit (.peerDisconnected handle.peerId) removed → removed = some handle := by
    intro handle hattached removed heffect
    obtain ⟨hannounces, rfl⟩ := hstretch.announces_of_emit heffect
    rcases attached_after htask hstretch hmem hattached with ⟨before, hbefore, hheld⟩ | hregisters
    · exact haddressed.pending before hbefore handle hheld task hself hannounces
    · exact absurd hannounces ((hregistration _ hregisters).1 task hself)
  rcases mem_after hmem with ⟨position, -, hlookup⟩ | hnew
  · exact (haddressed.hears holder (List.mem_of_getElem? hlookup)).apply move.effect hsent
  · exact (hstretch.hearsOwn (haddressed.hears task hself)
      (fun peer hregisters => (hregistration peer hregisters).2) holder hnew).apply move.effect hsent

theorem Addressed.resume : Addressed (system.after index (move.outcome system.shared)) where
  pending _ hmem _ hattached _ hmem' hannounces :=
    haddressed.pending_resume happart htask hstretch hmem hattached hmem' hannounces
  hears _ hmem := haddressed.hears_resume happart htask hstretch hmem

end Resume

theorem addressed_of_reachable
    (hreach : Machine.ReachableWhere (step externals) KeptApart (start localId config inboxes)
      system) : Addressed system := by
  refine hreach.invariant addressed_start ?_
  intro state action next haddressed happart hstep
  obtain ⟨task, rfl, hentry, rfl⟩ | ⟨index, input, task, move, rfl, htask, hstretch, rfl⟩ :=
    step_cases hstep
  · exact haddressed.call hentry
  · exact haddressed.resume happart htask hstretch

/-- In every run in which the two are kept apart, a read loop that closes on a disconnect event of its peer closes on the removal of its own connection. -/
theorem disconnect_closes_own_connection {index next : Nat} {connection : Connection}
    {handle : PeerHandle} {emission : Emission}
    (hreach : Machine.ReachableWhere (step externals) KeptApart (start localId config inboxes)
      system)
    (htask : system.tasks[index]? = some (.readLoop connection .selecting))
    (hregistered : connection.registered = some handle)
    (hrecv : system.shared.events.recv connection.cursor = .item emission next)
    (hevent : emission.event = .peerDisconnected handle.peerId) :
    handle.tx = connection.id ∧ emission.removed = some handle := by
  have hmem := List.mem_of_getElem? htask
  have hunread : emission ∈ system.shared.events.unread connection.cursor := by
    rw [(Broadcast.Channel.recv_eq_item hrecv).1]
    exact List.mem_cons_self
  refine ⟨((accounted_of_reachable hreach).tasks _ hmem).own handle hregistered, ?_⟩
  exact (addressed_of_reachable hreach).hears _ hmem rfl rfl handle hregistered emission hunread
    hevent

theorem disconnect_closes_forgotten_connection :
    ∃ system emission,
      Machine.ReachableWhere (step Fixed.externals) KeptApart Fixed.start system ∧
      system.shared.events.recv 1 = .item emission 2 ∧ emission.removed = some ⟨Fixed.peer, 1⟩ := by
  have hrun : (Machine.runWhere (step Fixed.externals) KeptApart Fixed.start
      (Fixed.dialed ++ [.call (.forgetPeer Fixed.peer .undesiring), .resume 5 .go, .resume 5 .go,
        .resume 5 .go])).map
        (fun system => (system.tasks[3]?, system.shared.events.recv 1)) =
      some (some (.readLoop ⟨1, false, some ⟨Fixed.peer, 1⟩, 1⟩ .selecting),
        .item ⟨.peerDisconnected Fixed.peer, some ⟨Fixed.peer, 1⟩⟩ 2) := by
    decide +kernel
  obtain ⟨system, hreach, hobserved⟩ := Machine.exists_reachableWhere hrun
  obtain ⟨htask, hrecv⟩ := Prod.mk.inj hobserved
  exact ⟨system, _, hreach, hrecv,
    (disconnect_closes_own_connection hreach htask rfl hrecv rfl).2⟩

def lostWhileAccepting : List Action :=
  Fixed.dialed ++
    [.resume 0 (.accepted 2), .resume 5 .go,
      -- connection 1 ends and its entry is taken out
      .resume 3 (.read .eof), .resume 3 .go,
      -- the handshake on connection 2 finds the map empty and registers
      .resume 5 (.read (.frames [.handshake 1 Fixed.peer.toFull])), .resume 5 .go, .resume 5 .go,
      .resume 5 .go, .resume 5 .go,
      -- only now is the disconnect of connection 1 sent
      .resume 3 .go, .resume 5 .recv]

/-- The next event of connection 2's read loop is the disconnect of its peer, for the removal of connection 1. -/
theorem disconnect_closes_later_connection :
    ∃ system connection handle emission,
      Machine.Reachable (step Fixed.externals) Fixed.start system ∧
      system.tasks[5]? = some (.readLoop connection .selecting) ∧
      connection.registered = some handle ∧
      system.shared.events.recv connection.cursor = .item emission 3 ∧
      emission.event = .peerDisconnected handle.peerId ∧ emission.removed ≠ some handle := by
  have hrun : (Machine.runWhere (step Fixed.externals) (fun _ _ => True) Fixed.start
      lostWhileAccepting).map
        (fun system => (system.tasks[5]?, system.shared.events.recv 2)) =
      some (some (.readLoop ⟨2, false, some ⟨Fixed.peer, 2⟩, 2⟩ .selecting),
        .item ⟨.peerDisconnected Fixed.peer, some ⟨Fixed.peer, 1⟩⟩ 3) := by
    decide +kernel
  obtain ⟨system, hreach, hobserved⟩ := Machine.exists_reachableWhere hrun
  obtain ⟨htask, hrecv⟩ := Prod.mk.inj hobserved
  exact ⟨system, _, _, _, hreach, htask, rfl, hrecv, rfl, by decide⟩

end Transport

end LapinBeam
