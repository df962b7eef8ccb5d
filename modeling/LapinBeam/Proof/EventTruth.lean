import LapinBeam.Proof.DisconnectEvents

/-!
# Events and the peers map

Every change of the peers map calls for an event, and the task that made the change sends it one or
more stretches later, with the lock long released. In between another task can change the same
entry and send its own event first; the last event about the peer then contradicts the map for good.
It never does when an entry is changed only while no task owes an event about its peer.
-/

namespace LapinBeam

open TaskSystem

def Event.subject : Event → Option NodeId
  | .peerConnected peer | .peerDisconnected peer => some peer
  | _ => none

def Effect.callsFor : Effect → Option Event
  | .insertPeer handle => some (.peerConnected handle.peerId)
  | .removePeer peer _ => some (.peerDisconnected peer)
  | _ => none

def Effect.tells : Effect → Option Event
  | .emit (.peerConnected peer) _ => some (.peerConnected peer)
  | .emit (.peerDisconnected peer) _ => some (.peerDisconnected peer)
  | _ => none

def Task.unsent : Task → Option Event
  | .dial _ peer (.handshaking _) | .dial _ peer (.sending _ _) | .dial _ peer (.announcing _) =>
      some (.peerConnected peer)
  | .readLoop _ (.announcing peer _) => some (.peerConnected peer)
  | .readLoop _ (.emitting peer _) | .forgetPeer peer (.emitting _) =>
      some (.peerDisconnected peer)
  | _ => none

structure Booked (task : Task) (move : Move) : Prop where
  changes : ∀ event, move.effect.callsFor = some event →
    task.unsent = none ∧ move.task.unsent = some event
  tells : ∀ event, move.effect.tells = some event →
    task.unsent = some event ∧ move.task.unsent = none
  keeps : move.effect.callsFor = none → move.effect.tells = none → move.task.unsent = task.unsent
  spawned : ∀ holder ∈ move.spawned, holder.unsent = none

section Inversion

variable {externals : Externals} {transport : Transport} {input : Input} {peer : NodeId}
  {move : Move}

theorem Booked.of_silent {task : Task} (hbefore : task.unsent = none)
    (hafter : move.task.unsent = none) (hchange : move.effect.callsFor = none)
    (htells : move.effect.tells = none) (hspawned : ∀ holder ∈ move.spawned, holder.unsent = none) :
    Booked task move where
  changes event hevent := by simp [hchange] at hevent
  tells event hevent := by simp [htells] at hevent
  keeps _ _ := hafter.trans hbefore.symm
  spawned := hspawned

theorem Sending.silent_of_move {stage : Sending} {effect : Effect}
    {progress : Progress Sending (Except SendError Unit)}
    (hmove : stage.move transport peer input = some (effect, progress)) :
    effect.callsFor = none ∧ effect.tells = none := by
  revert hmove
  fun_cases Sending.move <;> rintro ⟨⟩ <;> exact ⟨rfl, rfl⟩

theorem Route.silent_of_move {stage : Route} {effect : Effect} {progress : Progress Route Unit}
    (hmove : stage.move externals transport peer input = some (effect, progress)) :
    effect.callsFor = none ∧ effect.tells = none := by
  revert hmove
  fun_cases Route.move <;> intro hmove <;> first
    | cases hmove; exact ⟨rfl, rfl⟩
    | cases hmove; exact Sending.silent_of_move ‹_›
    | cases hmove

theorem Dial.booked_of_move {caller : Dialer} {stage : Dial}
    (hmove : stage.move externals transport caller peer input = some move) :
    Booked (.dial caller peer stage) move := by
  revert hmove
  fun_cases Dial.move <;> rintro ⟨⟩ <;>
    constructor <;> simp [Effect.callsFor, Effect.tells, Task.unsent]

theorem Connection.unsent_handle {connection next : Connection} {msg : WireMessage}
    {frames : List WireMessage} {stage : ReadLoop}
    (hhandle : connection.handle externals transport msg frames = (next, stage)) :
    (Task.readLoop next stage).unsent = none := by
  revert hhandle
  fun_cases Connection.handle <;> rintro ⟨⟩ <;> rfl

theorem ReadLoop.booked_of_move {connection : Connection} {stage : ReadLoop}
    (hmove : stage.move externals transport connection input = some move) :
    Booked (.readLoop connection stage) move := by
  revert hmove
  fun_cases ReadLoop.move <;> rintro ⟨⟩
  case case10 hhandle =>
      have hsilent : (Task.readLoop _ _).unsent = none := Connection.unsent_handle hhandle
      exact .of_silent rfl hsilent rfl rfl (by simp)
  case case15 hroute | case16 hroute =>
      obtain ⟨hchange, htells⟩ := Route.silent_of_move hroute
      exact .of_silent rfl rfl hchange htells (by simp)
  all_goals constructor <;> simp +zetaDelta [Effect.callsFor, Effect.tells, Task.unsent]

theorem SendData.booked_of_move {stage : SendData}
    (hmove : stage.move transport peer input = some move) : Booked (.sendData peer stage) move := by
  revert hmove
  fun_cases SendData.move <;> rintro ⟨⟩
  case case4 hsending | case5 hsending =>
      obtain ⟨hchange, htells⟩ := Sending.silent_of_move hsending
      exact .of_silent rfl rfl hchange htells (by simp)
  all_goals exact .of_silent rfl rfl rfl rfl (by simp)

theorem Task.booked_of_move {task : Task}
    (hmove : task.move externals transport input = some move) :
    Booked task move := by
  revert hmove
  fun_cases Task.move <;> intro hmove
  case case1 =>
      revert hmove
      fun_cases AcceptLoop.move <;> rintro ⟨⟩ <;>
        exact .of_silent rfl rfl rfl rfl (by simp [Task.unsent])
  case case2 =>
      revert hmove
      fun_cases Supervision.move <;> rintro ⟨⟩ <;>
        exact .of_silent rfl rfl rfl rfl (by simp [Task.unsent])
  case case3 stage hcancellable =>
      cases hmove
      refine .of_silent ?_ rfl rfl rfl (by simp)
      cases stage <;> first | rfl | cases hcancellable
  case case5 => exact Dial.booked_of_move hmove
  case case6 =>
      revert hmove
      fun_cases Dialer.move <;> rintro ⟨⟩ <;>
        exact .of_silent rfl rfl rfl rfl (by simp [Task.unsent])
  case case7 =>
      revert hmove
      fun_cases ReconnectLoop.move <;> rintro ⟨⟩ <;> exact .of_silent rfl rfl rfl rfl (by simp)
  case case8 =>
      revert hmove
      fun_cases ForgetPeer.move <;> rintro ⟨⟩ <;> constructor <;>
        simp [Effect.callsFor, Effect.tells, Task.unsent]
  case case9 =>
      revert hmove
      fun_cases Shutdown.move <;> rintro ⟨⟩ <;> exact .of_silent rfl rfl rfl rfl (by simp)
  case case10 => exact ReadLoop.booked_of_move hmove
  case case11 =>
      revert hmove
      fun_cases HeartbeatLoop.move <;> rintro ⟨⟩ <;> exact .of_silent rfl rfl rfl rfl (by simp)
  case case12 => exact SendData.booked_of_move hmove
  case case14 hroute | case15 hroute =>
      cases hmove
      obtain ⟨hchange, htells⟩ := Route.silent_of_move hroute
      exact .of_silent rfl rfl hchange htells (by simp)
  all_goals
    cases hmove
  all_goals exact .of_silent rfl rfl rfl rfl (by simp)

end Inversion

def Task.Owes (peer : NodeId) (task : Task) : Prop := task.unsent.bind Event.subject = some peer

instance (peer : NodeId) (task : Task) : Decidable (task.Owes peer) :=
  inferInstanceAs (Decidable (_ = _))

namespace Transport

def lastEvent (transport : Transport) (peer : NodeId) : Option Event :=
  ((transport.events.log.map (·.event)).filter (·.subject = some peer)).getLast?

def standing (transport : Transport) (peer : NodeId) : Event :=
  if transport.hasPeer peer then .peerConnected peer else .peerDisconnected peer

/-- An entry of the peers map is changed only while no task has an event about its peer to send, and `shutdown` does not take the map away. -/
def Unhurried (system : System) (action : Action) : Prop :=
  ∀ task ∈ resumed system action, task ≠ .shutdown .takingPeers ∧
    (∀ peer ∈ task.registers system.shared, ∀ other ∈ system.tasks, ¬ other.Owes peer) ∧
    ∀ entry ∈ task.removes system.shared, ∀ other ∈ system.tasks, ¬ other.Owes entry.1

instance (system : System) (action : Action) : Decidable (Unhurried system action) :=
  inferInstanceAs (Decidable (∀ task ∈ resumed system action, task ≠ .shutdown .takingPeers ∧
    (∀ peer ∈ task.registers system.shared, ∀ other ∈ system.tasks, ¬ other.Owes peer) ∧
    ∀ entry ∈ task.removes system.shared, ∀ other ∈ system.tasks, ¬ other.Owes entry.1))

/-- Either the last event about the peer says how the map stands, or one task alone has to send the event that does. -/
inductive Truthful (peer : NodeId) (system : System) : Prop
  | told (hnone : ∀ task ∈ system.tasks, ¬ task.Owes peer)
      (hlast : system.shared.lastEvent peer = some (.peerConnected peer) ↔
        system.shared.hasPeer peer = true)
  | owed {index : Nat} {task : Task} (htask : system.tasks[index]? = some task)
      (hunsent : task.unsent = some (system.shared.standing peer))
      (hothers : ∀ position other, position ≠ index → system.tasks[position]? = some other →
        ¬ other.Owes peer)

section Changes

variable {transport : Transport} {effect : Effect} {event : Event} {peer : NodeId}

theorem peers_of_silent (hchange : effect.callsFor = none) (htake : effect ≠ .takePeers) :
    (effect.apply transport).peers = transport.peers := by
  cases effect with
  | insertPeer | removePeer => cases hchange
  | takePeers => exact absurd rfl htake
  | _ => rfl

theorem hasPeer_of_callsFor (hchange : effect.callsFor = some event) (peer : NodeId) :
    (effect.apply transport).hasPeer peer =
      if event.subject = some peer then decide (event = .peerConnected peer)
      else transport.hasPeer peer := by
  cases effect with
  | insertPeer handle =>
      obtain rfl := Option.some.inj hchange
      by_cases hpeer : peer = handle.peerId <;>
        simp [hasPeer, Effect.apply, Event.subject, hpeer, eq_comm]
  | removePeer gone removed =>
      obtain rfl := Option.some.inj hchange
      by_cases hpeer : peer = gone <;>
        simp [hasPeer, Effect.apply, Event.subject, hpeer, eq_comm]
  | _ => cases hchange

theorem tells_of_callsFor (hchange : effect.callsFor = some event) : effect.tells = none := by
  cases effect <;> first | rfl | cases hchange

theorem peers_of_tells (htells : effect.tells = some event) :
    (effect.apply transport).peers = transport.peers := by
  cases effect <;> first | rfl | cases htells

theorem lastEvent_of_silent (htells : effect.tells = none) (peer : NodeId) :
    (effect.apply transport).lastEvent peer = transport.lastEvent peer := by
  cases effect with
  | emit event removed =>
      cases event with
      | peerConnected | peerDisconnected => cases htells
      | _ => simp [lastEvent, Effect.apply, Event.subject]
  | _ => rfl

theorem lastEvent_of_tells (htells : effect.tells = some event) (peer : NodeId) :
    (effect.apply transport).lastEvent peer =
      if event.subject = some peer then some event else transport.lastEvent peer := by
  cases effect with
  | emit sent removed =>
      cases sent with
      | peerConnected other | peerDisconnected other =>
          obtain rfl := Option.some.inj htells
          by_cases hpeer : other = peer <;> simp [lastEvent, Effect.apply, Event.subject, hpeer]
      | _ => cases htells
  | _ => cases htells

end Changes

theorem callsFor_of_quiet {effect : Effect} (hquiet : effect.quiet = true) :
    effect.callsFor = none := by
  cases effect <;> first | rfl | cases hquiet

theorem ne_takePeers_of_quiet {effect : Effect} (hquiet : effect.quiet = true) :
    effect ≠ .takePeers := by
  rintro rfl
  cases hquiet

theorem changes_of_stretch {transport : Transport} {task : Task} {move : Move} {event : Event}
    {peer : NodeId} (hstretch : Stretch transport task move)
    (hchange : move.effect.callsFor = some event) (hsubject : event.subject = some peer) :
    task.registers transport = some peer ∨
      ∃ removed, task.removes transport = some (peer, removed) := by
  cases hstretch with
  | other _ _ hquiet | introduce _ _ hquiet | routeOn hquiet | routed hquiet =>
      cases (callsFor_of_quiet hquiet).symm.trans hchange
  | dialRegister hadmits | register hadmits =>
      cases hchange
      cases hsubject
      exact .inl (by simp [Task.registers, hadmits])
  | @forgetEntry _ removed hpeer =>
      cases hchange
      cases hsubject
      exact .inr ⟨removed, by simp [Task.removes, hpeer]⟩
  | @evict _ _ current hregistered hpeer hsame =>
      cases hchange
      cases hsubject
      exact .inr ⟨current, by simp [Task.removes, hregistered, hpeer, hsame]⟩
  | _ => cases hchange

theorem takePeers_of_stretch {transport : Transport} {task : Task} {move : Move}
    (hstretch : Stretch transport task move) (htake : move.effect = .takePeers) :
    task = .shutdown .takingPeers := by
  cases hstretch with
  | other _ _ hquiet | introduce _ _ hquiet | routeOn hquiet | routed hquiet =>
      exact absurd htake (ne_takePeers_of_quiet hquiet)
  | takePeers => rfl
  | _ => cases htake

section Run

variable {externals : Externals} {localId : NodeId} {config : TransportConfig}
  {inboxes : Mailbox → Inbox} {system later : System} {action : Action} {peer : NodeId}
  {index : Nat} {task : Task} {move : Move}

theorem subject_standing (transport : Transport) (peer : NodeId) :
    (transport.standing peer).subject = some peer := by
  rw [standing]
  split <;> rfl

theorem owes_of_unsent {event : Event} (hunsent : task.unsent = some event) :
    task.Owes peer ↔ event.subject = some peer := by
  rw [Task.Owes, hunsent, Option.bind_some]

theorem Truthful.transfer (htruthful : Truthful peer system)
    (htask : system.tasks[index]? = some task)
    (hspawned : ∀ holder ∈ move.spawned, ¬ holder.Owes peer)
    (hown : move.task.unsent = task.unsent ∨ ¬ task.Owes peer ∧ ¬ move.task.Owes peer)
    (hpeer : (move.effect.apply system.shared).hasPeer peer = system.shared.hasPeer peer)
    (hlast : (move.effect.apply system.shared).lastEvent peer = system.shared.lastEvent peer) :
    Truthful peer (system.after index (move.outcome system.shared)) := by
  have howes : move.task.Owes peer → task.Owes peer := by
    rcases hown with hsame | ⟨-, hafter⟩
    · rw [Task.Owes, hsame]
      exact id
    · exact fun howes => absurd howes hafter
  have hchild : ∀ {offset : Nat} {holder : Task}, move.spawned[offset]? = some holder →
      ¬ holder.Owes peer := fun hholder => hspawned _ (List.mem_of_getElem? hholder)
  cases htruthful with
  | told hnone htold =>
      refine .told (fun holder hmem => ?_) ?_
      · rcases mem_after hmem with ⟨position, -, hold⟩ | hnew
        · exact hnone holder (List.mem_of_getElem? hold)
        · rcases List.mem_cons.mp hnew with rfl | hnew
          · exact fun hholder => hnone task (List.mem_of_getElem? htask) (howes hholder)
          · exact hspawned holder hnew
      · show (move.effect.apply system.shared).lastEvent peer = _ ↔
          (move.effect.apply system.shared).hasPeer peer = true
        rw [hlast, hpeer]
        exact htold
  | @owed ower holder hholder hunsent hothers =>
      have hstanding : (move.effect.apply system.shared).standing peer =
          system.shared.standing peer := by rw [standing, hpeer, standing]
      by_cases hindex : ower = index
      · subst hindex
        obtain rfl := Option.some.inj (htask.symm.trans hholder)
        have hsame : move.task.unsent = task.unsent := by
          refine hown.resolve_right fun hneither => hneither.1 ?_
          exact (owes_of_unsent hunsent).mpr (subject_standing _ _)
        refine .owed (lookup_self htask) ((hsame.trans hunsent).trans ?_) ?_
        · exact congrArg some hstanding.symm
        · intro position other hne hother
          rcases lookup_after hother with ⟨rfl, -⟩ | ⟨-, hold⟩ | ⟨-, hnew⟩
          · exact absurd rfl hne
          · exact hothers position other hne hold
          · exact hchild hnew
      · refine .owed (lookup_other hindex hholder) (hunsent.trans ?_) ?_
        · exact congrArg some hstanding.symm
        · intro position other hne hother
          rcases lookup_after hother with ⟨rfl, rfl⟩ | ⟨-, hold⟩ | ⟨-, hnew⟩
          · exact fun hmove => hothers position task hne htask (howes hmove)
          · exact hothers position other hne hold
          · exact hchild hnew

theorem eq_or_eq_of_subject {event : Event} (hsubject : event.subject = some peer) :
    event = .peerConnected peer ∨ event = .peerDisconnected peer := by
  cases event <;> simp_all [Event.subject]

theorem Truthful.changed {event : Event} (htask : system.tasks[index]? = some task)
    (hbooked : Booked task move) (hchange : move.effect.callsFor = some event)
    (hsubject : event.subject = some peer) (hnone : ∀ other ∈ system.tasks, ¬ other.Owes peer) :
    Truthful peer (system.after index (move.outcome system.shared)) := by
  have hstanding : (move.effect.apply system.shared).standing peer = event := by
    rw [standing, hasPeer_of_callsFor hchange, if_pos hsubject]
    rcases eq_or_eq_of_subject hsubject with rfl | rfl <;> simp
  refine .owed (lookup_self htask) ((hbooked.changes event hchange).2.trans ?_) ?_
  · exact congrArg some hstanding.symm
  · intro position other hne hother
    rcases lookup_after hother with ⟨rfl, -⟩ | ⟨-, hold⟩ | ⟨-, hnew⟩
    · exact absurd rfl hne
    · exact hnone other (List.mem_of_getElem? hold)
    · rw [Task.Owes, hbooked.spawned other (List.mem_of_getElem? hnew)]
      nofun

theorem Truthful.sent {event : Event} (htruthful : Truthful peer system)
    (htask : system.tasks[index]? = some task) (hbooked : Booked task move)
    (htells : move.effect.tells = some event) (hsubject : event.subject = some peer) :
    Truthful peer (system.after index (move.outcome system.shared)) := by
  obtain ⟨hunsent, hsent⟩ := hbooked.tells event htells
  have howes : task.Owes peer := (owes_of_unsent hunsent).mpr hsubject
  cases htruthful with
  | told hnone => exact absurd howes (hnone task (List.mem_of_getElem? htask))
  | @owed ower holder hholder hstanding hothers =>
      have hindex : index = ower := by
        by_contra hne
        exact hothers index task hne htask howes
      subst hindex
      obtain rfl := Option.some.inj (htask.symm.trans hholder)
      obtain rfl := Option.some.inj (hunsent.symm.trans hstanding)
      refine .told (fun other hmem => ?_) ?_
      · rcases mem_after hmem with ⟨position, hne, hold⟩ | hnew
        · exact hothers position other hne hold
        · rcases List.mem_cons.mp hnew with rfl | hnew
          · rw [Task.Owes, show (move.outcome system.shared).task.unsent = none from hsent]
            nofun
          · rw [Task.Owes, hbooked.spawned other hnew]
            nofun
      · show (move.effect.apply system.shared).lastEvent peer = _ ↔
          (move.effect.apply system.shared).hasPeer peer = true
        rw [lastEvent_of_tells htells, if_pos hsubject, hasPeer, peers_of_tells htells, standing]
        cases hpeer : system.shared.hasPeer peer <;> simp_all [hasPeer]

theorem not_owes_of_unsent (hunsent : task.unsent = none) : ¬ task.Owes peer := by
  rw [Task.Owes, hunsent]
  nofun

theorem Truthful.call (htruthful : Truthful peer system) (hentry : task.entry = true) :
    Truthful peer (system.call task) := by
  have hcalled : ¬ task.Owes peer := by
    cases Task.entry_cases hentry <;> exact not_owes_of_unsent rfl
  cases htruthful with
  | told hnone hlast =>
      refine .told (fun other hmem => ?_) hlast
      rcases mem_call hmem with hold | rfl
      · exact hnone other hold
      · exact hcalled
  | owed hholder hunsent hothers =>
      refine .owed (lookup_call hholder) hunsent fun position other hne hother => ?_
      rcases Nat.lt_or_ge position system.tasks.length with hlt | hge
      · exact hothers position other hne
          ((List.getElem?_append_left hlt).symm.trans hother)
      · rw [State.call, List.getElem?_append_right hge] at hother
        obtain rfl := List.mem_singleton.mp (List.mem_of_getElem? hother)
        exact hcalled

theorem Truthful.resume (htruthful : Truthful peer system)
    (htask : system.tasks[index]? = some task) (hstretch : Stretch system.shared task move)
    (hbooked : Booked task move) (hshutdown : task ≠ .shutdown .takingPeers)
    (hclear : task.registers system.shared = some peer ∨
        (∃ removed, task.removes system.shared = some (peer, removed)) →
      ∀ other ∈ system.tasks, ¬ other.Owes peer) :
    Truthful peer (system.after index (move.outcome system.shared)) := by
  have hspawned : ∀ holder ∈ move.spawned, ¬ holder.Owes peer :=
    fun holder hmem => not_owes_of_unsent (hbooked.spawned holder hmem)
  have htake : move.effect ≠ .takePeers :=
    fun htake => hshutdown (takePeers_of_stretch hstretch htake)
  cases hchange : move.effect.callsFor with
  | some event =>
      by_cases hsubject : event.subject = some peer
      · exact .changed htask hbooked hchange hsubject
          (hclear (changes_of_stretch hstretch hchange hsubject))
      · obtain ⟨hbefore, hafter⟩ := hbooked.changes event hchange
        refine htruthful.transfer htask hspawned (.inr ⟨not_owes_of_unsent hbefore, ?_⟩) ?_ ?_
        · rwa [owes_of_unsent hafter]
        · rw [hasPeer_of_callsFor hchange, if_neg hsubject]
        · exact lastEvent_of_silent (tells_of_callsFor hchange) peer
  | none =>
      have hpeer : (move.effect.apply system.shared).hasPeer peer = system.shared.hasPeer peer := by
        rw [hasPeer, peers_of_silent hchange htake, hasPeer]
      cases htells : move.effect.tells with
      | some event =>
          by_cases hsubject : event.subject = some peer
          · exact htruthful.sent htask hbooked htells hsubject
          · obtain ⟨hbefore, hafter⟩ := hbooked.tells event htells
            refine htruthful.transfer htask hspawned (.inr ⟨?_, not_owes_of_unsent hafter⟩) hpeer ?_
            · rwa [owes_of_unsent hbefore]
            · rw [lastEvent_of_tells htells, if_neg hsubject]
      | none =>
          exact htruthful.transfer htask hspawned (.inl (hbooked.keeps hchange htells)) hpeer
            (lastEvent_of_silent htells peer)

theorem Truthful.next (htruthful : Truthful peer system) (hunhurried : Unhurried system action)
    (hstep : step externals system action = some later) : Truthful peer later := by
  cases action with
  | call task =>
      obtain ⟨hentry, rfl⟩ := step_call_eq_some hstep
      exact htruthful.call hentry
  | resume index input =>
      obtain ⟨task, out, htask, hout, rfl⟩ := step_resume_eq_some hstep
      obtain ⟨move, hmove, rfl⟩ := Option.map_eq_some_iff.mp hout
      obtain ⟨hshutdown, hregisters, hremoves⟩ := hunhurried task (by simpa [resumed] using htask)
      refine htruthful.resume htask (Task.stretch_of_move hmove) (Task.booked_of_move hmove)
        hshutdown ?_
      rintro (hpeer | ⟨removed, hpeer⟩)
      · exact hregisters peer hpeer
      · exact hremoves (peer, removed) hpeer

end Run

/-- **Events tell the truth** when entries are changed only while no event about their peer is to be sent: the last one about a peer then says `PeerConnected` exactly if the peer is in the map. -/
theorem events_tell_truth {externals : Externals} {localId : NodeId} {config : TransportConfig}
    {inboxes : Mailbox → Inbox} {system : System}
    (hreach : Machine.ReachableWhere (step externals) Unhurried (start localId config inboxes)
      system) {peer : NodeId} (hsettled : ∀ task ∈ system.tasks, ¬ task.Owes peer) :
    system.shared.lastEvent peer = some (.peerConnected peer) ↔
      system.shared.hasPeer peer = true := by
  have htruthful : Truthful peer system := by
    refine hreach.invariant (.told ?_ ?_) ?_
    · simp [start, Task.Owes, Task.unsent]
    · simp [start, listen, lastEvent, hasPeer]
    · intro system action later htruthful hunhurried hstep
      exact htruthful.next hunhurried hstep
  cases htruthful with
  | told _ hlast => exact hlast
  | owed htask hunsent =>
      have howes := (owes_of_unsent hunsent).mpr (subject_standing _ _)
      exact absurd howes (hsettled _ (List.mem_of_getElem? htask))

theorem events_tell_truth_dialed :
    ∃ system, Machine.ReachableWhere (step Fixed.externals) Unhurried Fixed.start system ∧
      (∀ task ∈ system.tasks, ¬ task.Owes Fixed.peer) ∧
      system.shared.hasPeer Fixed.peer = true ∧
      system.shared.lastEvent Fixed.peer = some (.peerConnected Fixed.peer) := by
  have hrun : (Machine.runWhere (step Fixed.externals) Unhurried Fixed.start Fixed.dialed).map
      (fun system => decide ((∀ task ∈ system.tasks, ¬ task.Owes Fixed.peer) ∧
        system.shared.hasPeer Fixed.peer = true)) = some true := by
    decide +kernel
  obtain ⟨system, hreach, hobserved⟩ := Machine.exists_reachableWhere hrun
  obtain ⟨hsettled, hpeer⟩ := of_decide_eq_true hobserved
  exact ⟨system, hreach, hsettled, hpeer, (events_tell_truth hreach hsettled).mpr hpeer⟩

/-- `connect` has put the peer in the map and still sends its handshake when `forget_peer` takes the peer out again and says so; the `PeerConnected` of the dial comes last. -/
theorem events_contradict_map :
    ∃ system, Machine.ReachableWhere (step Fixed.externals)
        (fun system action => ∀ task ∈ resumed system action, task ≠ .shutdown .takingPeers)
        Fixed.start system ∧
      (∀ task ∈ system.tasks, ¬ task.Owes Fixed.peer) ∧
      ¬ (system.shared.lastEvent Fixed.peer = some (.peerConnected Fixed.peer) ↔
        system.shared.hasPeer Fixed.peer = true) := by
  have hrun : (Machine.runWhere (step Fixed.externals)
      (fun system action => ∀ task ∈ resumed system action, task ≠ .shutdown .takingPeers)
      Fixed.start (Fixed.dialed.take 5 ++ [.call (.forgetPeer Fixed.peer .undesiring),
        .resume 3 .go, .resume 3 .go, .resume 3 .go, .resume 2 (.nonce []), .resume 2 .go,
        .resume 2 .go, .resume 2 .go, .resume 2 .go, .resume 1 .recv, .resume 1 .go,
        .resume 1 .recv, .resume 4 .go, .resume 5 .go, .resume 5 .go, .resume 5 .go])).map
      (fun system => decide ((∀ task ∈ system.tasks, ¬ task.Owes Fixed.peer) ∧
        ¬ (system.shared.lastEvent Fixed.peer = some (.peerConnected Fixed.peer) ↔
          system.shared.hasPeer Fixed.peer = true))) = some true := by
    decide +kernel
  obtain ⟨system, hreach, hobserved⟩ := Machine.exists_reachableWhere hrun
  exact ⟨system, hreach, of_decide_eq_true hobserved⟩

end Transport

end LapinBeam
