import LapinBeam.Proof.FrameStorm
import LapinBeam.Proof.PeerEntries
import LapinBeam.Transport.Pair

/-!
# Answering the sender of a message

A message carries the id its sender listens under, and `reply` looks that id up in the peers map.
The accepting end of a connection has filed it under the same id, which the handshake announced.
The dialing end has filed it under whatever id was dialed, and nothing tells it the other's own.
-/

namespace LapinBeam

open TaskSystem

/-! ### Every message names its sender -/

def Route.outgoing : Route → Option WireMessage
  | .sending stage => some stage.msg
  | _ => none

def Task.outgoing : Task → Option WireMessage
  | .dial _ _ (.sending _ hs) => some hs
  | .readLoop _ (.routing _ route _) => route.outgoing
  | .heartbeatLoop _ (.sending _ _ hb) => some hb
  | .sendData _ (.sending stage) => some stage.msg
  | .sendError _ (some route) => route.outgoing
  | _ => none

def Progress.outgoing {Stage Result : Type} (f : Stage → Option WireMessage) :
    Progress Stage Result → Option WireMessage
  | .next stage => f stage
  | .done _ => none

structure Signs (transport : Transport) (before : Option WireMessage) (effect : Effect)
    (after : Option WireMessage) : Prop where
  sends : ∀ {conn msg}, effect = .enqueue conn msg → before = some msg
  keeps : ∀ {msg}, after = some msg → before = some msg ∨ msg.src = transport.localId.toFull

section Step

variable {externals : Externals} {transport : Transport} {peer : NodeId} {input : Input}
  {before : Option WireMessage} {effect : Effect} {move : Move}

theorem Signs.idle (heffect : ∀ {conn msg}, effect ≠ .enqueue conn msg) :
    Signs transport before effect none :=
  ⟨fun heq => absurd heq heffect, by simp⟩

theorem Sending.signs {stage : Sending} {progress : Progress Sending (Except SendError Unit)}
    (hmove : stage.move transport peer input = some (effect, progress)) :
    Signs transport (some stage.msg) effect (progress.outgoing (some ·.msg)) := by
  revert hmove
  fun_cases Sending.move <;> rintro ⟨⟩ <;> constructor <;> simp [Sending.msg, Progress.outgoing]

theorem Route.signs {route : Route} {progress : Progress Route Unit}
    (hmove : route.move externals transport peer input = some (effect, progress)) :
    Signs transport route.outgoing effect (progress.outgoing Route.outgoing) := by
  revert hmove
  fun_cases Route.move <;> rintro ⟨⟩
  case case10 detail correlationId msg => exact ⟨by simp, fun heq => by cases heq; exact .inr rfl⟩
  case case12 hsending => exact Sending.signs hsending
  case case13 hsending => exact ⟨(Sending.signs hsending).sends, by simp [Progress.outgoing]⟩
  all_goals exact .idle (by simp)

theorem Transport.src_handshake (nonce : Bytes) :
    (transport.handshake externals nonce).src = transport.localId.toFull := by
  rw [Transport.handshake]
  split <;> rfl

theorem Signs.idle_of_mem {tasks : List Task} (heffect : ∀ {conn msg}, effect ≠ .enqueue conn msg)
    (hidle : ∀ task ∈ tasks, task.outgoing = none) :
    ∀ task ∈ tasks, Signs transport before effect task.outgoing := by
  intro task hmem
  rw [hidle task hmem]
  exact .idle heffect

theorem Dial.signs {caller : Dialer} {stage : Dial}
    (hmove : stage.move externals transport caller peer input = some move) :
    ∀ holder ∈ move.task :: move.spawned,
      Signs transport (Task.dial caller peer stage).outgoing move.effect holder.outgoing := by
  revert hmove
  fun_cases Dial.move <;> rintro ⟨⟩
  case case9 conn nonce hs =>
    have hsrc : hs.src = transport.localId.toFull := Transport.src_handshake nonce
    exact List.forall_mem_singleton.mpr ⟨by simp, by simp [Task.outgoing, hsrc]⟩
  case case10 => exact List.forall_mem_singleton.mpr ⟨by simp [Task.outgoing], by simp [Task.outgoing]⟩
  all_goals exact .idle_of_mem (by simp) (by simp [Task.outgoing])

theorem Connection.outgoing_handle {connection next : Connection} {msg : WireMessage}
    {rest : List WireMessage} {stage : ReadLoop}
    (hhandle : connection.handle externals transport msg rest = (next, stage)) :
    (Task.readLoop next stage).outgoing = none := by
  revert hhandle
  fun_cases Connection.handle <;> rintro ⟨⟩ <;> rfl

theorem ReadLoop.signs {connection : Connection} {stage : ReadLoop}
    (hmove : stage.move externals transport connection input = some move) :
    ∀ holder ∈ move.task :: move.spawned,
      Signs transport (Task.readLoop connection stage).outgoing move.effect holder.outgoing := by
  revert hmove
  fun_cases ReadLoop.move <;> rintro ⟨⟩
  case case10 hhandle =>
    refine .idle_of_mem (by simp) (List.forall_mem_singleton.mpr ?_)
    exact Connection.outgoing_handle hhandle
  case case15 hroute | case16 hroute => exact List.forall_mem_singleton.mpr (Route.signs hroute)
  all_goals exact .idle_of_mem (by simp) (by simp [Task.outgoing])

theorem HeartbeatLoop.signs {stage : HeartbeatLoop}
    (hmove : stage.move transport peer input = some move) :
    ∀ holder ∈ move.task :: move.spawned,
      Signs transport (Task.heartbeatLoop peer stage).outgoing move.effect holder.outgoing := by
  revert hmove
  fun_cases HeartbeatLoop.move <;> rintro ⟨⟩
  case case9 cursor handle hb =>
    have hsrc : hb.src = transport.localId.toFull := rfl
    exact List.forall_mem_singleton.mpr ⟨by simp, by simp [Task.outgoing, hsrc]⟩
  case case10 => exact List.forall_mem_singleton.mpr ⟨by simp [Task.outgoing], by simp [Task.outgoing]⟩
  all_goals exact .idle_of_mem (by simp) (by simp [Task.outgoing])

theorem SendData.signs {stage : SendData} (hmove : stage.move transport peer input = some move) :
    ∀ holder ∈ move.task :: move.spawned,
      Signs transport (Task.sendData peer stage).outgoing move.effect holder.outgoing := by
  revert hmove
  fun_cases SendData.move <;> rintro ⟨⟩
  case case2 request msg hmsg =>
    have hsrc : msg.src = transport.localId.toFull := by
      simp only [Transport.checkData] at hmsg
      split at hmsg <;> cases hmsg
      rfl
    exact List.forall_mem_singleton.mpr ⟨by simp, by simp [Task.outgoing, Sending.msg, hsrc]⟩
  case case4 hsending | case5 hsending =>
    exact List.forall_mem_singleton.mpr (Sending.signs hsending)
  all_goals exact .idle_of_mem (by simp) (by simp [Task.outgoing])

structure Move.Mute (move : Move) : Prop where
  sends : ∀ {conn msg}, move.effect ≠ .enqueue conn msg
  builds : ∀ task ∈ move.task :: move.spawned, task.outgoing = none

theorem Move.Mute.signs (hmute : move.Mute) :
    ∀ holder ∈ move.task :: move.spawned, Signs transport before move.effect holder.outgoing :=
  .idle_of_mem hmute.sends hmute.builds

theorem Task.signs {task : Task} (hmove : task.move externals transport input = some move) :
    ∀ holder ∈ move.task :: move.spawned,
      Signs transport task.outgoing move.effect holder.outgoing := by
  revert hmove
  fun_cases Task.move <;> intro hmove
  case case1 =>
    refine Move.Mute.signs ?_
    revert hmove
    fun_cases AcceptLoop.move <;> rintro ⟨⟩ <;> constructor <;> simp [Task.outgoing]
  case case2 =>
    refine Move.Mute.signs ?_
    revert hmove
    fun_cases Supervision.move <;> rintro ⟨⟩ <;> constructor <;> simp [Task.outgoing]
  case case5 => exact Dial.signs hmove
  case case6 =>
    refine Move.Mute.signs ?_
    revert hmove
    fun_cases Dialer.move <;> rintro ⟨⟩ <;> constructor <;> simp [Task.outgoing]
  case case7 =>
    refine Move.Mute.signs ?_
    revert hmove
    fun_cases ReconnectLoop.move <;> rintro ⟨⟩ <;> constructor <;> simp [Task.outgoing]
  case case8 =>
    refine Move.Mute.signs ?_
    revert hmove
    fun_cases ForgetPeer.move <;> rintro ⟨⟩ <;> constructor <;> simp [Task.outgoing]
  case case9 =>
    refine Move.Mute.signs ?_
    revert hmove
    fun_cases Shutdown.move <;> rintro ⟨⟩ <;> constructor <;> simp [Task.outgoing]
  case case10 => exact ReadLoop.signs hmove
  case case11 => exact HeartbeatLoop.signs hmove
  case case12 => exact SendData.signs hmove
  case case14 hroute | case15 hroute =>
    cases hmove
    exact List.forall_mem_singleton.mpr (Route.signs hroute)
  all_goals
    cases hmove
    try exact .idle_of_mem (by simp) (by simp [Task.outgoing])

theorem Effect.outbound_apply (effect : Effect) {conn : ConnectionId} {msg : WireMessage}
    (hmsg : msg ∈ (effect.apply transport).outbound conn) :
    msg ∈ transport.outbound conn ∨ effect = .enqueue conn msg := by
  cases effect with
  | enqueue conn' msg' =>
      by_cases hconn : conn = conn'
      · subst hconn
        simpa [Effect.apply, eq_comm] using hmsg
      · exact .inl (by simpa [Effect.apply, hconn] using hmsg)
  | _ => exact .inl hmsg

end Step

namespace Transport

structure Signed (owner : NodeId) (transport : Transport) : Prop where
  localId : transport.localId = owner
  outbound : ∀ conn, ∀ msg ∈ transport.outbound conn, msg.src = owner.toFull

theorem signed_of_reachable {externals : Externals} {localId : NodeId} {config : TransportConfig}
    {inboxes : Mailbox → Inbox} {allowed : System → Action → Prop} {system : System}
    (hreach : Machine.ReachableWhere (step externals) allowed (start localId config inboxes) system) :
    system.shared.Signed localId := by
  have heach : Each (Signed localId) (fun _ task =>
      ∀ msg, task.outgoing = some msg → msg.src = localId.toFull) system := by
    refine invariant_each ?_ ?_ ?_ (fun _ _ _ _ _ _ _ _ hother => hother) hreach
    · refine ⟨⟨rfl, by simp [start, listen]⟩, fun task hmem => ?_⟩
      rcases List.mem_pair.mp hmem with rfl | rfl <;> simp [Task.outgoing]
    · intro shared task _ hentry
      cases Task.entry_cases hentry <;> simp [Task.outgoing, Route.outgoing]
    · rintro shared task input out ⟨hlocal, houtbound⟩ htask hperform
      obtain ⟨move, hmove, rfl⟩ := Option.map_eq_some_iff.mp hperform
      have hsigns := Task.signs hmove
      refine ⟨⟨(move.effect.localId_apply).trans hlocal, fun conn msg hmsg => ?_⟩, ?_⟩
      · rcases move.effect.outbound_apply hmsg with hold | hsent
        · exact houtbound conn msg hold
        · exact htask msg ((hsigns _ List.mem_cons_self).sends hsent)
      · intro holder hmem msg hmsg
        rcases (hsigns holder hmem).keeps hmsg with hold | hsrc
        · exact htask msg hold
        · rw [hsrc, hlocal]
  exact heach.1

end Transport

/-! ### Where a connection is filed -/

section Inputs

variable {externals : Externals} {transport : Transport} {input : Input} {move : Move}
  {conn : ConnectionId}

theorem ReadLoop.input_of_read {connection connection' : Connection} {stage : ReadLoop}
    {frames : List WireMessage}
    (hmove : stage.move externals transport connection input = some move) (hstage : stage = .selecting)
    (hafter : move.task = .readLoop connection' (.handling frames)) :
    input = .read (.frames frames) := by
  revert hmove
  fun_cases ReadLoop.move <;> rintro ⟨⟩ <;> cases hstage <;> cases hafter
  rfl

theorem AcceptLoop.input_of_open {stage : AcceptLoop}
    (hmove : stage.move transport input = some move) (heffect : move.effect = .openConnection conn)
    :
    input = .accepted conn := by
  revert hmove
  fun_cases AcceptLoop.move <;> rintro ⟨⟩ <;> cases heffect
  rfl

theorem Dial.input_of_open {caller : Dialer} {peer : NodeId} {stage : Dial}
    (hmove : stage.move externals transport caller peer input = some move)
    (heffect : move.effect = .openConnection conn) : input = .connected conn := by
  revert hmove
  fun_cases Dial.move <;> rintro ⟨⟩ <;> cases heffect
  rfl

theorem Task.input_of_dial {task : Task} {caller : Dialer} {peer : NodeId} {stage : Dial}
    (hmove : task.move externals transport input = some move)
    (htask : task = .dial caller peer stage) (heffect : move.effect = .openConnection conn) :
    input = .connected conn := by
  revert hmove
  fun_cases Task.move <;> intro hmove <;> cases htask
  · cases hmove
    cases heffect
  · cases hmove
  · exact Dial.input_of_open hmove heffect
  · cases hmove

end Inputs

def ReadLoop.inHand : ReadLoop → List WireMessage
  | .handling frames | .registering _ frames | .announcing _ frames | .routing _ _ frames => frames
  | _ => []

@[mk_iff]
structure Connection.Filed (key other : NodeId) (connection : Connection) (stage : ReadLoop) : Prop where
  registered : ∀ handle, connection.registered = some handle → handle.peerId = key
  unregistered : connection.registered = none → key = other
  registering : ∀ peer frames, stage = .registering peer frames → peer = key
  frames : ∀ msg ∈ stage.inHand, msg.src = other.toFull

def Task.Filed (conn : ConnectionId) (key other : NodeId) : Task → Prop
  | .dial _ peer stage => stage.conn = some conn → peer = key
  | .readLoop connection stage => connection.id = conn → connection.Filed key other stage
  | _ => True

theorem Task.filed_of_bystander {conn : ConnectionId} {key other : NodeId} {task : Task}
    (hbystander : task.bystander = true) : task.Filed conn key other := by
  cases task <;> trivial

theorem Stretch.filed {transport : Transport} {task : Task} {move : Move} {conn : ConnectionId}
    {key other : NodeId} (hstretch : Stretch transport task move) (hvalid : other.Valid)
    (htask : task.Filed conn key other)
    (hread : ∀ connection frames, task = .readLoop connection .selecting →
      move.task = .readLoop connection (.handling frames) → connection.id = conn →
        ∀ msg ∈ frames, msg.src = other.toFull)
    (hopens : move.effect = .openConnection conn →
      (∀ caller peer, task = .dial caller peer .connecting → peer = key) ∧
      (task = .acceptLoop .accepting → key = other)) :
    ∀ holder ∈ move.task :: move.spawned, holder.Filed conn key other := by
  cases hstretch with
  | other _ hafter _ hspawned => simpa [hspawned] using Task.filed_of_bystander hafter
  | @accept accepted hfresh =>
      simp only [List.forall_mem_cons]
      refine ⟨trivial, fun hconn => ?_, by simp⟩
      obtain rfl : accepted = conn := hconn
      have hkey : key = other := (hopens rfl).2 rfl
      simp [Connection.filed_iff, ReadLoop.inHand, hkey]
  | introduce hbefore hafter =>
      simpa [Task.Filed, Dial.conn_of_registered hbefore, Dial.conn_of_registered hafter] using htask
  | @connected caller peer opened hfresh =>
      refine List.forall_mem_singleton.mpr fun hconn => ?_
      obtain rfl : opened = conn := Option.some.inj hconn
      exact (hopens rfl).1 caller peer rfl
  | @handOver caller peer spawned =>
      simp only [List.forall_mem_cons]
      refine ⟨trivial, fun hconn => ?_, trivial, by simp⟩
      obtain rfl : peer = key := htask (congrArg some hconn)
      simp [Connection.filed_iff, ReadLoop.inHand]
  | @read connection frames =>
      refine List.forall_mem_singleton.mpr fun hconn => ?_
      obtain ⟨hregistered, hunregistered, -, -⟩ := htask hconn
      exact ⟨hregistered, hunregistered, by simp, hread connection frames rfl rfl hconn⟩
  | @greet connection peer msg frames hregistered hpeer hstopped =>
      refine List.forall_mem_singleton.mpr fun hconn => ?_
      obtain ⟨-, hunregistered, -, hframes⟩ := htask hconn
      have hsrc : msg.src = other.toFull := hframes msg List.mem_cons_self
      have hother : peer = other := by
        rw [hsrc, NodeId.parse_toFull hvalid] at hpeer
        exact (Except.ok.inj hpeer).symm
      refine ⟨by simp [hregistered], hunregistered, ?_, fun msg hmem =>
        hframes msg (List.mem_cons_of_mem _ hmem)⟩
      rintro _ _ ⟨⟩
      rw [hother, hunregistered hregistered]
  | _ => simp_all [Task.Filed, Connection.filed_iff, ReadLoop.inHand, Dial.conn]

namespace Transport

/-- The handle `send_data` and `send_error` find for an id given as a string. -/
def peerNamed (transport : Transport) (id : String) : Option PeerHandle :=
  match NodeId.parse id with
  | .ok peer => transport.peers peer
  | .error _ => none

/-- The handle a reply to a message from `src` is sent to. A message of the node itself is answered locally. -/
def replyPeer (transport : Transport) (src : String) : Option PeerHandle :=
  if src = transport.localId.toFull then none else transport.peerNamed src

end Transport

namespace Pair

def apart (ids : Side → NodeId) (configs : Side → TransportConfig) (inboxes : Side → Mailbox → Inbox) :
    Pair where
  node side := Transport.start (ids side) (configs side) (inboxes side)
  taken _ _ := 0

/-- `conn` is the connection the left node gets when it dials the right one as `dialed`. On all other
connections anything can happen. -/
def joins (conn : ConnectionId) (dialed : NodeId) (pair : Pair) : Action → Bool
  | (side, .resume index input) =>
      match input, (pair.tasks side)[index]? with
      | .connected opened, some (.dial _ peer _) => opened ≠ conn || side = .left && peer = dialed
      | .accepted opened, _ => opened ≠ conn || side = .right
      | .read (.frames frames), some (.readLoop connection _) =>
          connection.id ≠ conn || frames.isPrefixOf (pair.unread side conn)
      | _, _ => true
  | _ => true

def filedUnder (ids : Side → NodeId) (dialed : NodeId) : Side → NodeId
  | .left => dialed
  | .right => ids .left

variable {ids : Side → NodeId} {configs : Side → TransportConfig} {inboxes : Side → Mailbox → Inbox}
  {externals : Externals} {conn : ConnectionId} {dialed : NodeId} {pair next : Pair} {action : Action}

theorem node_reachable {allowed : Pair → Action → Prop}
    (hreach : Machine.ReachableWhere (fun pair action => pair.step externals action) allowed
      (apart ids configs inboxes) pair) (side : Side) :
    Machine.Reachable (Transport.step externals)
      (Transport.start (ids side) (configs side) (inboxes side)) (pair.node side) := by
  induction hreach with
  | start => exact .start
  | @step pair next action _ _ hstep ih =>
      obtain ⟨node, hnode, rfl⟩ := Option.map_eq_some_iff.mp hstep
      by_cases hside : side = action.1
      · subst hside
        simp only [Function.update_self]
        exact .step action.2 ih trivial hnode
      · simpa only [Function.update_of_ne hside] using ih

def Filed (ids : Side → NodeId) (conn : ConnectionId) (dialed : NodeId) (pair : Pair) : Prop :=
  ∀ side, ∀ task ∈ pair.tasks side, task.Filed conn (filedUnder ids dialed side) (ids side.other)

section Step

variable {side : Side} {index : Nat} {input : Input} {task : Task} {move : Move}

theorem src_of_read {connection : Connection} {frames : List WireMessage}
    (hsigned : (pair.transport side.other).Signed (ids side.other))
    (htask : (pair.tasks side)[index]? = some (.readLoop connection .selecting))
    (hmove : Task.move externals (pair.transport side) (.readLoop connection .selecting) input = some move)
    (hafter : move.task = .readLoop connection (.handling frames))
    (hjoins : pair.joins connection.id dialed (side, .resume index input) = true) :
    ∀ msg ∈ frames, msg.src = (ids side.other).toFull := by
  obtain rfl := ReadLoop.input_of_read hmove rfl hafter
  have hunread : frames <+: pair.unread side connection.id := by
    simpa [joins, htask] using hjoins
  exact fun msg hmem => hsigned.outbound connection.id msg
    (List.mem_of_mem_drop (hunread.subset hmem))

theorem filed_of_open (htask : (pair.tasks side)[index]? = some task)
    (hmove : task.move externals (pair.transport side) input = some move)
    (heffect : move.effect = .openConnection conn)
    (hjoins : pair.joins conn dialed (side, .resume index input) = true) :
    (∀ caller peer, task = .dial caller peer .connecting → peer = filedUnder ids dialed side) ∧
      (task = .acceptLoop .accepting → filedUnder ids dialed side = ids side.other) := by
  constructor
  · rintro caller peer rfl
    obtain rfl := Task.input_of_dial hmove rfl heffect
    have hleft : side = .left ∧ peer = dialed := by simpa [joins, htask] using hjoins
    rw [hleft.1, hleft.2]
    rfl
  · rintro rfl
    obtain rfl := AcceptLoop.input_of_open hmove heffect
    have hright : side = .right := by simpa [joins, htask] using hjoins
    rw [hright]
    rfl

end Step

theorem Filed.step (hfiled : pair.Filed ids conn dialed) (hvalid : ∀ side, (ids side).Valid)
    (hsigned : ∀ side, (pair.transport side).Signed (ids side))
    (hjoins : pair.joins conn dialed action = true)
    (hstep : pair.step externals action = some next) : next.Filed ids conn dialed := by
  obtain ⟨node, hnode, rfl⟩ := Option.map_eq_some_iff.mp hstep
  obtain ⟨side, action⟩ := action
  intro side' task hmem
  by_cases hside : side' = side
  case neg =>
    simp only [tasks, Function.update_of_ne hside] at hmem
    exact hfiled side' task hmem
  subst hside
  simp only [tasks, Function.update_self] at hmem
  cases action with
  | call called =>
      obtain ⟨hentry, rfl⟩ := step_call_eq_some hnode
      rcases mem_call hmem with hold | rfl
      · exact hfiled _ task hold
      · cases Task.entry_cases hentry <;> simp [Task.Filed, Dial.conn]
  | resume index input =>
      obtain ⟨resumed, out, hresumed, hout, rfl⟩ := step_resume_eq_some hnode
      obtain ⟨move, hmove, rfl⟩ := Option.map_eq_some_iff.mp hout
      rcases mem_after hmem with ⟨position, -, hold⟩ | hnew
      · exact hfiled _ task (List.mem_of_getElem? hold)
      · refine (Task.stretch_of_move hmove).filed (hvalid _)
          (hfiled _ resumed (List.mem_of_getElem? hresumed)) ?_ ?_ task hnew
        · rintro connection frames rfl htask rfl msg hmsg
          exact src_of_read (hsigned _) hresumed hmove htask hjoins msg hmsg
        · exact fun heffect => filed_of_open hresumed hmove heffect hjoins

theorem filed_of_reachable (hvalid : ∀ side, (ids side).Valid)
    (hreach : Machine.ReachableWhere (fun pair action => pair.step externals action)
      (fun pair action => pair.joins conn dialed action = true) (apart ids configs inboxes) pair) :
    pair.Filed ids conn dialed := by
  refine hreach.invariant_of_reachable ?_ ?_
  · intro side task hmem
    rcases List.mem_pair.mp hmem with rfl | rfl <;> trivial
  · exact fun pair action next hreach hfiled hjoins hstep => hfiled.step hvalid
      (fun side => Transport.signed_of_reachable (node_reachable hreach side)) hjoins hstep

theorem Filed.peer_eq {side : Side} {peer : NodeId} {handle : PeerHandle}
    (hfiled : pair.Filed ids conn dialed) (haccounted : Transport.Accounted (pair.node side))
    (hpeer : (pair.transport side).peers peer = some handle) (htx : handle.tx = conn) :
    peer = filedUnder ids dialed side := by
  obtain ⟨position, task, hlookup, hcarried⟩ := haccounted.carried hpeer
  have hmem := List.mem_of_getElem? hlookup
  have hconn := Task.conn_of_carried (haccounted.tasks task hmem) hcarried
  have htask := hfiled side task hmem
  rw [← haccounted.coherent.keyed hpeer]
  cases task with
  | dial caller key stage =>
      obtain ⟨opened, -, rfl⟩ := Option.map_eq_some_iff.mp hcarried
      exact htask (htx ▸ hconn)
  | readLoop connection stage =>
      simp only [Task.carried, Option.ite_none_right_eq_some] at hcarried
      exact (htask (Option.some.inj (htx ▸ hconn))).registered handle hcarried.2
  | _ => cases hcarried

/-- What one end sends on the connection can be answered over it by the other end iff that end is not
the dialer, or has dialed the sender under its own id. -/
theorem sender_answerable_iff (hvalid : ∀ side, (ids side).Valid) (hdistinct : ids .left ≠ ids .right)
    (hreach : Machine.ReachableWhere (fun pair action => pair.step externals action)
      (fun pair action => pair.joins conn dialed action = true) (apart ids configs inboxes) pair)
    {side : Side} {msg : WireMessage} (hsent : msg ∈ (pair.transport side.other).outbound conn)
    (hlasts : ∃ peer handle, (pair.transport side).peers peer = some handle ∧ handle.tx = conn) :
    (∃ handle, (pair.transport side).replyPeer msg.src = some handle ∧ handle.tx = conn) ↔
      (side = .left → dialed = ids .right) := by
  have hsigned := fun side => Transport.signed_of_reachable (node_reachable hreach side)
  have haccounted := Transport.accounted_of_reachable (node_reachable hreach side)
  have hfiled := filed_of_reachable hvalid hreach
  have hreply : (pair.transport side).replyPeer msg.src = (pair.transport side).peers (ids side.other) := by
    have hforeign : ids side.other ≠ ids side := by
      cases side
      · exact hdistinct.symm
      · exact hdistinct
    rw [(hsigned side.other).outbound conn msg hsent, Transport.replyPeer, (hsigned side).localId,
      if_neg (mt (NodeId.toFull_injective (hvalid _) (hvalid _)) hforeign), Transport.peerNamed,
      NodeId.parse_toFull (hvalid _)]
  have hkey : filedUnder ids dialed side = ids side.other ↔ (side = .left → dialed = ids .right) := by
    cases side <;> simp [filedUnder, Side.other]
  obtain ⟨peer, handle, hpeer, htx⟩ := hlasts
  rw [hreply, ← hkey]
  constructor
  · rintro ⟨found, hfound, hfoundTx⟩
    exact (hfiled.peer_eq haccounted hfound hfoundTx).symm
  · intro hkey
    rw [← hkey, ← hfiled.peer_eq haccounted hpeer htx]
    exact ⟨handle, hpeer, htx⟩

def dialing (dialed : NodeId) : List Transport.Action :=
  [.call (.dial .connect dialed .checkingPeer), .resume 2 .go, .resume 2 .go,
    .resume 2 (.connected 1), .resume 2 .go, .resume 2 (.nonce []), .resume 2 .go]

def answering : List Transport.Action :=
  [.resume 0 (.accepted 1), .resume 2 .go,
    .resume 2 (.read (.frames [.handshake 1 "m@h:1"])), .resume 2 .go, .resume 2 .go, .resume 2 .go,
    .call (.sendData (Fixed.ids .left) (.checking ⟨"x", [], none, none⟩)),
    .resume 4 .go, .resume 4 .go, .resume 4 .go]

def conversation (dialed : NodeId) : List Action :=
  (dialing dialed).map (Side.left, ·) ++ answering.map (Side.right, ·)

def seen (dialed : NodeId) (pair : Pair) : List WireMessage × Option PeerHandle × Option PeerHandle :=
  ((pair.transport .right).outbound 1, (pair.transport .left).peers dialed,
    (pair.transport .left).replyPeer (Fixed.ids .right).toFull)

theorem sender_answerable_dialed :
    ∃ pair : Pair, Machine.ReachableWhere (fun pair action => pair.step Fixed.externals action)
        (fun pair action => pair.joins 1 (Fixed.ids .right) action = true)
        (apart Fixed.ids (fun _ => {}) fun _ _ => { capacity := 1 }) pair ∧
      ∃ msg ∈ (pair.transport .right).outbound 1, msg.kind = .data ∧
        ((∃ handle, (pair.transport .left).replyPeer msg.src = some handle ∧ handle.tx = 1) ↔
          (Side.left = .left → Fixed.ids .right = Fixed.ids .right)) := by
  have hrun : (Machine.runWhere (fun pair action => Pair.step pair Fixed.externals action)
      (fun pair action => pair.joins 1 (Fixed.ids .right) action = true)
      (apart Fixed.ids (fun _ => {}) fun _ _ => { capacity := 1 })
      (conversation (Fixed.ids .right))).map (seen (Fixed.ids .right)) =
        some ([Fixed.stray .right], some ⟨Fixed.ids .right, 1⟩, some ⟨Fixed.ids .right, 1⟩) := by
    decide +kernel
  obtain ⟨pair, hreach, hseen⟩ := Machine.exists_reachableWhere hrun
  obtain ⟨hsent, hentry, -⟩ := Prod.mk.inj hseen |>.imp_right Prod.mk.inj
  have hmem : Fixed.stray .right ∈ (pair.transport .right).outbound 1 := by simp [hsent]
  refine ⟨pair, hreach, Fixed.stray .right, hmem, rfl, ?_⟩
  refine sender_answerable_iff ?_ (by decide) hreach hmem ⟨_, _, hentry, rfl⟩
  intro side
  cases side <;> exact ⟨by decide, by decide, by decide⟩

/-- The left node has dialed the right one as `x@h:2`. The connection stands under that id, and no
peer is known under the id its messages carry. -/
theorem sender_not_answerable :
    ∃ pair : Pair, Machine.ReachableWhere (fun pair action => pair.step Fixed.externals action)
        (fun pair action => pair.joins 1 ⟨"x", "h", 2⟩ action = true)
        (apart Fixed.ids (fun _ => {}) fun _ _ => { capacity := 1 }) pair ∧
      (pair.transport .left).peers ⟨"x", "h", 2⟩ = some ⟨⟨"x", "h", 2⟩, 1⟩ ∧
      ∃ msg ∈ (pair.transport .right).outbound 1, msg.kind = .data ∧
        (pair.transport .left).replyPeer msg.src = none := by
  have hrun : (Machine.runWhere (fun pair action => Pair.step pair Fixed.externals action)
      (fun pair action => pair.joins 1 ⟨"x", "h", 2⟩ action = true)
      (apart Fixed.ids (fun _ => {}) fun _ _ => { capacity := 1 })
      (conversation ⟨"x", "h", 2⟩)).map (seen ⟨"x", "h", 2⟩) =
        some ([Fixed.stray .right], some ⟨⟨"x", "h", 2⟩, 1⟩, none) := by
    decide +kernel
  obtain ⟨pair, hreach, hseen⟩ := Machine.exists_reachableWhere hrun
  obtain ⟨hsent, hentry, hreply⟩ := Prod.mk.inj hseen |>.imp_right Prod.mk.inj
  exact ⟨pair, hreach, hentry, Fixed.stray .right, by simp [hsent], rfl, hreply⟩

end Pair

end LapinBeam
