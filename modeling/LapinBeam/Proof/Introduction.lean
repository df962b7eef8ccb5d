import LapinBeam.Proof.PeerEntries
import LapinBeam.Transport.Pair

/-!
# How two nodes introduce themselves

What `dial` and `read_loop` do while handshakes are all that is sent, at either of two nodes and
whoever dials: `Dials` says what a step of a dial can do, `Reads` what one of a read loop can. A
dial has said what `Greets` asks, and the read loop of the connection it was accepted on is at one
of the points of `Answers`, whatever becomes of the other connections.
-/

namespace LapinBeam

open TaskSystem

namespace TwoNodes

variable (nodes : TwoNodes)

theorem lt_iff_smaller (side : Side) :
    (nodes.ids side).toFull < (nodes.ids side.other).toFull ↔ nodes.smaller = side := by
  have hne : (nodes.ids .left).toFull ≠ (nodes.ids .right).toFull := fun heq =>
    nodes.distinct .left (NodeId.toFull_injective (nodes.valid _) (nodes.valid _) heq)
  rw [smaller]
  rcases lt_or_gt_of_ne hne with hlt | hlt <;> cases side <;>
    simp [Side.other, hlt, not_lt_of_gt hlt]

structure Greeting (side : Side) (msg : WireMessage) : Prop where
  version : msg.version = protocolVersion
  kind : msg.kind = .handshake
  src : msg.src = (nodes.ids side).toFull
  proof : ∀ key, (nodes.configs side.other).clusterSecret = some key →
    Auth.verifyProof nodes.externals.hmac key msg.payload = true

variable {nodes} {transport : Transport} {side : Side}

theorem greeting_handshake (hlocal : transport.localId = nodes.ids side)
    (hconfig : transport.config = nodes.configs side) {nonce : Bytes}
    (hnonce : nonce.length = Auth.nonceLen) :
    nodes.Greeting side (transport.handshake nodes.externals nonce) := by
  have hsecret := nodes.secret side
  rw [Transport.handshake, hconfig]
  split
  · rename_i key hkey
    refine ⟨rfl, rfl, congrArg NodeId.toFull hlocal, fun key' hkey' => ?_⟩
    obtain rfl : key = key' := Option.some.inj (by rw [← hkey, hsecret, hkey'])
    exact Auth.verifyProof_buildProof hnonce (nodes.proofLen _ _)
  · rename_i hnone
    refine ⟨rfl, rfl, congrArg NodeId.toFull hlocal, fun key hkey => ?_⟩
    rw [← hsecret, hnone] at hkey
    cases hkey

theorem Greeting.handle {conn : ConnectionId} {cursor : Nat} {msg : WireMessage}
    {frames : List WireMessage} (hgreeting : nodes.Greeting side.other msg)
    (hconfig : transport.config = nodes.configs side) (hrunning : transport.stopped = false) :
    Connection.handle nodes.externals transport ⟨conn, true, none, cursor⟩ msg frames =
      (⟨conn, false, none, cursor⟩, .registering (nodes.ids side.other) frames) := by
  have hparse : NodeId.parse msg.src = .ok (nodes.ids side.other) := by
    rw [hgreeting.src]
    exact NodeId.parse_toFull (nodes.valid _)
  have hproof := hgreeting.proof
  rw [Side.other_other, ← hconfig] at hproof
  cases hsecret : transport.config.clusterSecret with
  | none =>
      simp [Connection.handle, hgreeting.version, hgreeting.kind, hrunning, hparse, hsecret]
  | some key =>
      simp [Connection.handle, hgreeting.version, hgreeting.kind, hrunning, hparse, hsecret,
        hproof key hsecret]

end TwoNodes

def Task.background : Task → Bool
  | .acceptLoop .accepting | .reconnectSupervisor _ .listening | .heartbeatLoop _ .spawned => true
  | _ => false

/-- A read loop reads in its `select!` only. -/
theorem ReadLoop.selecting_of_read {externals : Externals} {transport : Transport}
    {connection : Connection} {stage : ReadLoop} {result : ReadResult} {move : Move}
    (hmove : stage.move externals transport connection (.read result) = some move) :
    stage = .selecting := by
  cases stage with
  | selecting => rfl
  | handling frames => cases frames <;> cases hmove
  | routing peer route frames =>
      cases route with
      | sending stage => cases stage <;> cases hmove
      | _ => cases hmove
  | _ => cases hmove

theorem Task.conn_of_background {task : Task} (hbackground : task.background = true) :
    task.conn = none := by
  cases task <;> first | rfl | cases hbackground

theorem Task.conn_of_keepsOpen {task : Task} {conn : ConnectionId}
    (hopen : task.keepsOpen = some conn) : task.conn = some conn := by
  revert hopen
  fun_cases Task.keepsOpen <;> intro hopen <;> first | exact hopen | cases hopen

namespace Pair

variable (pair : Pair) (nodes : TwoNodes)

structure Undisturbed : Prop where
  localId : ∀ side, (pair.transport side).localId = nodes.ids side
  config : ∀ side, (pair.transport side).config = nodes.configs side
  running : ∀ side, (pair.transport side).stopped = false

variable (side : Side)

def Holds (conn : ConnectionId) : Prop :=
  (pair.transport side).peers (nodes.ids side.other) = some ⟨nodes.ids side.other, conn⟩

def Greets : Dial → Prop
  | .sending _ hs => nodes.Greeting side hs
  | .announcing conn | .spawning conn => (pair.transport side).outbound conn ≠ []
  | _ => True

/-- The connection a read loop has read from, as far as it shows. -/
def heardFrom : Task → Option ConnectionId
  | .readLoop connection .spawned | .readLoop connection .selecting =>
      connection.registered.map PeerHandle.tx
  | .readLoop connection _ => some connection.id
  | _ => none

inductive Dials (caller : Dialer) : Dial → Move → Prop
  | present (hpeer : (pair.transport side).hasPeer (nodes.ids side.other) = true) :
      Dials caller .checkingPeer ⟨.skip, .dialed caller (nodes.ids side.other) true, []⟩
  | absent : Dials caller .checkingPeer ⟨.skip, .dial caller (nodes.ids side.other) .desiring, []⟩
  | desire :
      Dials caller .desiring
        ⟨.desire (nodes.ids side.other), .dial caller (nodes.ids side.other) .connecting, []⟩
  | connected {conn} (hfresh : conn ∉ (pair.transport side).opened) :
      Dials caller .connecting
        ⟨.openConnection conn, .dial caller (nodes.ids side.other) (.registering conn), []⟩
  | refused : Dials caller .connecting ⟨.skip, .dialed caller (nodes.ids side.other) false, []⟩
  | yield {conn} (hrefuses : (pair.transport side).refuses (nodes.ids side.other) true = true) :
      Dials caller (.registering conn) ⟨.skip, .dialed caller (nodes.ids side.other) true, []⟩
  | register {conn} (hadmits : (pair.transport side).refuses (nodes.ids side.other) true = false) :
      Dials caller (.registering conn)
        ⟨.insertPeer ⟨nodes.ids side.other, conn⟩,
          .dial caller (nodes.ids side.other) (.handshaking conn), []⟩
  | draw {conn hs} (hgreeting : nodes.Greeting side hs) :
      Dials caller (.handshaking conn)
        ⟨.takeMsgId, .dial caller (nodes.ids side.other) (.sending conn hs), []⟩
  | send {conn hs} :
      Dials caller (.sending conn hs)
        ⟨.enqueue conn hs, .dial caller (nodes.ids side.other) (.announcing conn), []⟩
  | announce {conn} :
      Dials caller (.announcing conn)
        ⟨.emit (.peerConnected (nodes.ids side.other)) none,
          .dial caller (nodes.ids side.other) (.spawning conn), []⟩
  | handOver {conn} :
      Dials caller (.spawning conn)
        ⟨.skip, .dialed caller (nodes.ids side.other) true,
          [.readLoop ⟨conn, false, some ⟨nodes.ids side.other, conn⟩, 0⟩ .spawned,
            .heartbeatLoop (nodes.ids side.other) .spawned]⟩

/-- The read loop of a connection the other side dialed, until it leaves. -/
inductive Answers : Connection → ReadLoop → Prop
  | waiting {conn cursor stage} (hstage : stage = .spawned ∨ stage = .selecting) :
      Answers ⟨conn, true, none, cursor⟩ stage
  | greeted {conn cursor frames} (hne : frames ≠ [])
      (hframes : ∀ msg ∈ frames, nodes.Greeting side.other msg)
      (hspoke : (pair.transport side.other).outbound conn ≠ []) :
      Answers ⟨conn, true, none, cursor⟩ (.handling frames)
  | admitting {conn cursor frames} (hframes : ∀ msg ∈ frames, nodes.Greeting side.other msg)
      (hspoke : (pair.transport side.other).outbound conn ≠ []) :
      Answers ⟨conn, false, none, cursor⟩ (.registering (nodes.ids side.other) frames)
  | admitted {conn cursor frames stage}
      (hstage : stage = .announcing (nodes.ids side.other) frames ∨ stage = .handling frames ∨
        stage = .selecting)
      (hframes : ∀ msg ∈ frames, nodes.Greeting side.other msg)
      (hspoke : (pair.transport side.other).outbound conn ≠ []) :
      Answers ⟨conn, false, some ⟨nodes.ids side.other, conn⟩, cursor⟩ stage

inductive Reads : Connection → ReadLoop → Move → Prop
  | subscribe {connection cursor} :
      Reads connection .spawned ⟨.skip, .readLoop { connection with cursor } .selecting, []⟩
  | read {connection frames} (hne : frames ≠ [])
      (hframes : ∀ msg ∈ frames, nodes.Greeting side.other msg)
      (hspoke : (pair.transport side.other).outbound connection.id ≠ []) :
      Reads connection .selecting ⟨.skip, .readLoop connection (.handling frames), []⟩
  | lose {connection} (hdropped : pair.Dropped side.other connection.id) :
      Reads connection .selecting ⟨.skip, .readLoop connection .closing, []⟩
  | handled {connection} :
      Reads connection (.handling []) ⟨.skip, .readLoop connection .selecting, []⟩
  | confirm {connection handle msg frames} (hregistered : connection.registered = some handle) :
      Reads connection (.handling (msg :: frames))
        ⟨.skip, .readLoop connection (.handling frames), []⟩
  | meet {connection msg frames} (hregistered : connection.registered = none) :
      Reads connection (.handling (msg :: frames))
        ⟨.skip, .readLoop { connection with writeHalf := false }
          (.registering (nodes.ids side.other) frames), []⟩
  | giveWay {connection frames}
      (hrefuses : (pair.transport side).refuses (nodes.ids side.other) false = true) :
      Reads connection (.registering (nodes.ids side.other) frames)
        ⟨.skip, .readLoop connection .finished, []⟩
  | register {connection frames}
      (hadmits : (pair.transport side).refuses (nodes.ids side.other) false = false) :
      Reads connection (.registering (nodes.ids side.other) frames)
        ⟨.insertPeer ⟨nodes.ids side.other, connection.id⟩,
          .readLoop { connection with registered := some ⟨nodes.ids side.other, connection.id⟩ }
            (.announcing (nodes.ids side.other) frames), []⟩
  | announce {connection frames} :
      Reads connection (.announcing (nodes.ids side.other) frames)
        ⟨.emit (.peerConnected (nodes.ids side.other)) none,
          .readLoop connection (.handling frames),
          [.heartbeatLoop (nodes.ids side.other) .spawned]⟩
  | depart {connection} : Reads connection .closing ⟨.skip, .readLoop connection .finished, []⟩
  | evict {connection current}
      (hcurrent : (pair.transport side).peers (nodes.ids side.other) = some current)
      (hsame : current.tx = connection.id) :
      Reads connection .closing
        ⟨.removePeer (nodes.ids side.other) current,
          .readLoop connection (.emitting (nodes.ids side.other) current), []⟩
  | announceLoss {connection removed} :
      Reads connection (.emitting (nodes.ids side.other) removed)
        ⟨.emit (.peerDisconnected (nodes.ids side.other)) (some removed),
          .readLoop connection .finished, []⟩

/-- Where the read loop of an accepted connection gets in one step. -/
inductive Answered (later : Pair) (connection : Connection) : Move → Prop
  | goesOn {effect next stage spawned} (hid : next.id = connection.id)
      (hanswers : later.Answers nodes side next stage)
      (hspawned : ∀ holder ∈ spawned, holder = .heartbeatLoop (nodes.ids side.other) .spawned)
      (hregistered : next.registered.isSome = true → connection.registered.isSome = true ∨
        effect = .insertPeer ⟨nodes.ids side.other, connection.id⟩)
      : Answered later connection ⟨effect, .readLoop next stage, spawned⟩
  | lost (hdropped : pair.Dropped side.other connection.id) :
      Answered later connection ⟨.skip, .readLoop connection .closing, []⟩
  | refused (hrefuses : (pair.transport side).refuses (nodes.ids side.other) false = true)
      (hregistered : connection.registered = none)
      (hspoke : (pair.transport side.other).outbound connection.id ≠ []) :
      Answered later connection ⟨.skip, .readLoop connection .finished, []⟩

variable {pair nodes side} {input : Input} {move : Move}

section Moves

theorem readLoop_of_awaits {connection : Connection} {stage : ReadLoop}
    (hawaits : pair.awaits side (.readLoop connection stage) input = true) :
    input = .go ∨
      (∃ frames, input = .read (.frames frames) ∧ frames ≠ [] ∧
        frames <+: pair.unread side connection.id) ∨
      input = .read .eof ∧ pair.Dropped side.other connection.id := by
  cases input with
  | read result => cases result <;> simp_all [awaits]
  | go => exact .inl rfl
  | _ => cases hawaits

theorem Undisturbed.dials (hundisturbed : pair.Undisturbed nodes) {caller : Dialer} {stage : Dial}
    (hawaits : pair.awaits side (.dial caller (nodes.ids side.other) stage) input = true)
    (hmove : stage.move nodes.externals (pair.transport side) caller (nodes.ids side.other) input =
      some move) : pair.Dials nodes side caller stage move := by
  revert hmove
  fun_cases Dial.move <;> rintro ⟨⟩
  · exact .present ‹_›
  · exact .absent
  · exact .desire
  · exact .connected ‹_›
  · exact .refused
  · exact .yield ‹_›
  · exact .register (Bool.eq_false_iff.mpr ‹_›)
  · exact .draw (TwoNodes.greeting_handshake (hundisturbed.localId _) (hundisturbed.config _)
      (of_decide_eq_true hawaits))
  · exact .send
  · cases hawaits
  · exact .announce
  · exact .handOver

theorem reads_selecting {connection : Connection}
    (hgreets : ∀ msg ∈ (pair.transport side.other).outbound connection.id,
      nodes.Greeting side.other msg)
    (hawaits : pair.awaits side (.readLoop connection .selecting) input = true)
    (hmove : ReadLoop.move nodes.externals (pair.transport side) connection .selecting input =
      some move) :
    pair.Reads nodes side connection .selecting move := by
  rcases readLoop_of_awaits hawaits with rfl | ⟨frames, rfl, hne, hread⟩ | ⟨rfl, hdropped⟩ <;>
    cases hmove
  · have hsent : ∀ msg ∈ frames, msg ∈ (pair.transport side.other).outbound connection.id :=
      fun msg hmsg => List.mem_of_mem_drop (hread.mem hmsg)
    obtain ⟨first, hfirst⟩ := List.exists_mem_of_ne_nil frames hne
    exact .read hne (fun msg hmsg => hgreets msg (hsent msg hmsg))
      (List.ne_nil_of_mem (hsent first hfirst))
  · exact .lose hdropped

theorem go_of_move {connection : Connection} {stage : ReadLoop}
    (hawaits : pair.awaits side (.readLoop connection stage) input = true)
    (hstage : stage ≠ .selecting)
    (hmove : stage.move nodes.externals (pair.transport side) connection input = some move) :
    stage.move nodes.externals (pair.transport side) connection .go = some move := by
  rcases readLoop_of_awaits hawaits with rfl | ⟨frames, rfl, -⟩ | ⟨rfl, -⟩
  · exact hmove
  · exact absurd (ReadLoop.selecting_of_read hmove) hstage
  · exact absurd (ReadLoop.selecting_of_read hmove) hstage

theorem Answers.reads {connection : Connection} {stage : ReadLoop}
    (hanswers : pair.Answers nodes side connection stage) (hundisturbed : pair.Undisturbed nodes)
    (hgreets : ∀ msg ∈ (pair.transport side.other).outbound connection.id,
      nodes.Greeting side.other msg)
    (hawaits : pair.awaits side (.readLoop connection stage) input = true)
    (hmove : stage.move nodes.externals (pair.transport side) connection input = some move) :
    pair.Reads nodes side connection stage move := by
  by_cases hstage : stage = .selecting
  · subst hstage
    exact reads_selecting hgreets hawaits hmove
  have hgo := go_of_move hawaits hstage hmove
  cases hanswers with
  | waiting hphase =>
      obtain rfl := hphase.resolve_right hstage
      cases hgo
      exact .subscribe
  | greeted hne hframes hspoke =>
      obtain ⟨msg, rest, rfl⟩ := List.exists_cons_of_ne_nil hne
      rw [ReadLoop.move, (hframes msg List.mem_cons_self).handle (hundisturbed.config side)
        (hundisturbed.running side)] at hgo
      cases hgo
      exact .meet rfl
  | admitting hframes hspoke =>
      simp only [ReadLoop.move] at hgo
      split at hgo <;> cases hgo
      · exact .giveWay ‹_›
      · exact .register (Bool.eq_false_iff.mpr ‹_›)
  | @admitted conn cursor frames stage hphase hframes hspoke =>
      rcases hphase with rfl | rfl | rfl
      · cases hgo
        exact .announce
      · cases frames with
        | nil =>
            cases hgo
            exact .handled
        | cons msg frames =>
            have hgreeting := hframes msg List.mem_cons_self
            simp [ReadLoop.move, Connection.handle, hgreeting.version, hgreeting.kind] at hgo
            subst hgo
            exact .confirm rfl
      · exact absurd rfl hstage

theorem reads_leaving {connection : Connection} {stage : ReadLoop}
    (hstage : stage = .closing ∨ stage = .finished ∨
      ∃ removed, stage = .emitting (nodes.ids side.other) removed)
    (hregistered : ∀ handle, connection.registered = some handle →
      handle = ⟨nodes.ids side.other, connection.id⟩)
    (hawaits : pair.awaits side (.readLoop connection stage) input = true)
    (hmove : stage.move nodes.externals (pair.transport side) connection input = some move) :
    pair.Reads nodes side connection stage move := by
  have hgo : stage.move nodes.externals (pair.transport side) connection .go = some move :=
    go_of_move hawaits (by rcases hstage with rfl | rfl | ⟨_, rfl⟩ <;> simp) hmove
  rcases hstage with rfl | rfl | ⟨removed, rfl⟩
  · simp only [ReadLoop.move] at hgo
    split at hgo
    · cases hgo
      exact .depart
    · rename_i handle hhandle
      obtain rfl := hregistered handle hhandle
      split at hgo
      · rename_i current hcurrent
        split at hgo <;> cases hgo
        · rename_i hsame
          exact .evict hcurrent (by simpa [PeerHandle.isSameConnection] using hsame)
        · exact .depart
      · cases hgo
        exact .depart
  · cases hgo
  · cases hgo
    exact .announceLoss

theorem takes_cases {index : Nat} {task : Task} (htask : (pair.tasks side)[index]? = some task)
    (hmove : task.move nodes.externals (pair.transport side) input = some move)
    (conn : ConnectionId) :
    pair.takes side (.resume index input) conn = pair.taken side conn ∨
      ∃ connection frames, task = .readLoop connection .selecting ∧ connection.id = conn ∧
        move.task = .readLoop connection (.handling frames) := by
  cases input with
  | read result =>
      cases result with
      | frames frames =>
          simp only [takes, htask]
          cases task with
          | readLoop connection stage =>
              by_cases heq : conn = connection.id
              · obtain rfl := ReadLoop.selecting_of_read hmove
                cases hmove
                exact .inr ⟨connection, frames, rfl, heq.symm, rfl⟩
              · exact .inl (Function.update_of_ne heq _ _)
          | _ => exact .inl rfl
      | _ => exact .inl rfl
  | _ => exact .inl rfl

end Moves

/-! ### What a step of a dial or of a read loop changes -/

section Effects

variable {caller : Dialer} {dial : Dial} {connection : Connection} {stage : ReadLoop}

theorem Dials.peers_cases (hdials : pair.Dials nodes side caller dial move) :
    (move.effect.apply (pair.transport side)).peers = (pair.transport side).peers ∨
      ∃ conn, move.effect = .insertPeer ⟨nodes.ids side.other, conn⟩ ∧ dial = .registering conn ∧
        (pair.transport side).refuses (nodes.ids side.other) true = false := by
  cases hdials with
  | register hadmits => exact .inr ⟨_, rfl, rfl, hadmits⟩
  | _ => exact .inl rfl

theorem Dials.outbound_cases (hdials : pair.Dials nodes side caller dial move)
    (conn : ConnectionId) :
    (move.effect.apply (pair.transport side)).outbound conn = (pair.transport side).outbound conn ∨
      ∃ hs, dial = .sending conn hs ∧
        move.task = .dial caller (nodes.ids side.other) (.announcing conn) ∧
        (move.effect.apply (pair.transport side)).outbound conn =
          (pair.transport side).outbound conn ++ [hs] := by
  cases hdials with
  | @send sent hs =>
      by_cases heq : conn = sent
      · subst heq
        exact .inr ⟨hs, rfl, rfl, by simp [Effect.apply]⟩
      · exact .inl (by simp [Effect.apply, heq])
  | _ => exact .inl rfl

theorem Dials.stopped (hdials : pair.Dials nodes side caller dial move) :
    (move.effect.apply (pair.transport side)).stopped = (pair.transport side).stopped := by
  cases hdials <;> rfl

theorem Reads.peers_cases (hreads : pair.Reads nodes side connection stage move) :
    (move.effect.apply (pair.transport side)).peers = (pair.transport side).peers ∨
      (move.effect = .insertPeer ⟨nodes.ids side.other, connection.id⟩ ∧
        (∃ frames, stage = .registering (nodes.ids side.other) frames) ∧
        (pair.transport side).refuses (nodes.ids side.other) false = false) ∨
      ∃ current, move.effect = .removePeer (nodes.ids side.other) current ∧ stage = .closing ∧
        (pair.transport side).peers (nodes.ids side.other) = some current ∧
        current.tx = connection.id := by
  cases hreads with
  | register hadmits => exact .inr (.inl ⟨rfl, ⟨_, rfl⟩, hadmits⟩)
  | evict hcurrent hsame => exact .inr (.inr ⟨_, rfl, rfl, hcurrent, hsame⟩)
  | _ => exact .inl rfl

/-- A read loop touches the peers map and the events only. -/
theorem Reads.unchanged (hreads : pair.Reads nodes side connection stage move) :
    (move.effect.apply (pair.transport side)).opened = (pair.transport side).opened ∧
      (move.effect.apply (pair.transport side)).desired = (pair.transport side).desired ∧
      (move.effect.apply (pair.transport side)).outbound = (pair.transport side).outbound ∧
      (move.effect.apply (pair.transport side)).stopped = (pair.transport side).stopped := by
  cases hreads <;> exact ⟨rfl, rfl, rfl, rfl⟩

theorem conn_of_heardFrom {task : Task} {conn : ConnectionId} (hcoherent : task.Coherent)
    (hheard : heardFrom task = some conn) : task.conn = some conn := by
  cases task with
  | readLoop connection stage =>
      cases stage with
      | spawned | selecting =>
          obtain ⟨handle, hhandle, rfl⟩ := Option.map_eq_some_iff.mp hheard
          rw [hcoherent.own handle hhandle]
          rfl
      | _ => exact hheard
  | _ => cases hheard

theorem Reads.conn (hreads : pair.Reads nodes side connection stage move) :
    move.task.conn = some connection.id := by
  cases hreads <;> rfl

end Effects

section Answers

variable {later : Pair} {connection : Connection} {stage : ReadLoop}

theorem Greets.mono {dial : Dial} (hgreets : pair.Greets nodes side dial)
    (hspoke : ∀ {conn}, (pair.transport side).outbound conn ≠ [] →
      (later.transport side).outbound conn ≠ []) : later.Greets nodes side dial := by
  cases dial with
  | announcing | spawning => exact hspoke hgreets
  | _ => exact hgreets

section

variable (hanswers : pair.Answers nodes side connection stage)

include hanswers

theorem Answers.mono (hspoke : ∀ {conn}, (pair.transport side.other).outbound conn ≠ [] →
      (later.transport side.other).outbound conn ≠ []) :
    later.Answers nodes side connection stage := by
  cases hanswers with
  | waiting hstage => exact .waiting hstage
  | greeted hne hframes hsaid => exact .greeted hne hframes (hspoke hsaid)
  | admitting hframes hsaid => exact .admitting hframes (hspoke hsaid)
  | admitted hstage hframes hsaid => exact .admitted hstage hframes (hspoke hsaid)

theorem Answers.engaged : stage ≠ .closing ∧ ∀ peer removed, stage ≠ .emitting peer removed := by
  cases hanswers with
  | waiting hstage => rcases hstage with rfl | rfl <;> simp
  | admitted hstage => rcases hstage with rfl | rfl | rfl <;> simp
  | _ => simp

theorem Answers.keepsOpen : (Task.readLoop connection stage).keepsOpen = some connection.id := by
  cases hanswers with
  | waiting hstage => rcases hstage with rfl | rfl <;> rfl
  | admitted hstage => rcases hstage with rfl | rfl | rfl <;> rfl
  | _ => rfl

theorem Answers.registered {handle : PeerHandle}
    (hregistered : connection.registered = some handle) :
    handle = ⟨nodes.ids side.other, connection.id⟩ ∧
      (pair.transport side.other).outbound connection.id ≠ [] := by
  cases hanswers with
  | admitted hstage hframes hspoke => exact ⟨(Option.some.inj hregistered).symm, hspoke⟩
  | _ => cases hregistered

end

theorem Answers.registering {peer : NodeId} {frames : List WireMessage}
    (hanswers : pair.Answers nodes side connection (.registering peer frames)) :
    connection.registered = none ∧ (pair.transport side.other).outbound connection.id ≠ [] := by
  cases hanswers with
  | admitting hframes hspoke => exact ⟨rfl, hspoke⟩
  | waiting hstage | admitted hstage => simp at hstage

section

variable (hanswers : pair.Answers nodes side connection stage)

include hanswers

theorem Answers.answered (hreads : pair.Reads nodes side connection stage move)
    (hspoke : ∀ {conn}, (pair.transport side.other).outbound conn ≠ [] →
      (later.transport side.other).outbound conn ≠ []) :
    pair.Answered nodes side later connection move := by
  have hnone : ∀ holder ∈ ([] : List Task),
      holder = .heartbeatLoop (nodes.ids side.other) .spawned := nofun
  cases hreads with
  | subscribe =>
      cases hanswers with
      | waiting => exact .goesOn rfl (.waiting (.inr rfl)) hnone nofun
      | admitted hstage => simp at hstage
  | read hne hframes hsaid =>
      cases hanswers with
      | waiting => exact .goesOn rfl (.greeted hne hframes (hspoke hsaid)) hnone nofun
      | admitted =>
          exact .goesOn rfl (.admitted (.inr (.inl rfl)) hframes (hspoke hsaid)) hnone .inl
  | lose hdropped => exact .lost hdropped
  | handled =>
      cases hanswers with
      | waiting hstage => simp at hstage
      | greeted hne => exact absurd rfl hne
      | admitted hstage hframes hsaid =>
          exact .goesOn rfl (.admitted (.inr (.inr rfl)) hframes (hspoke hsaid)) hnone .inl
  | confirm hregistered =>
      cases hanswers with
      | waiting hstage => simp at hstage
      | greeted => cases hregistered
      | admitted hstage hframes hsaid =>
          simp only [reduceCtorEq, false_or, or_false, ReadLoop.handling.injEq] at hstage
          subst hstage
          exact .goesOn rfl (.admitted (.inr (.inl rfl))
            (fun msg hmsg => hframes msg (List.mem_cons_of_mem _ hmsg)) (hspoke hsaid)) hnone .inl
  | meet hregistered =>
      cases hanswers with
      | waiting hstage => simp at hstage
      | greeted hne hframes hsaid =>
          exact .goesOn rfl (.admitting
            (fun msg hmsg => hframes msg (List.mem_cons_of_mem _ hmsg)) (hspoke hsaid)) hnone nofun
      | admitted => cases hregistered
  | giveWay hrefuses =>
      cases hanswers with
      | waiting hstage | admitted hstage => simp at hstage
      | admitting hframes hsaid => exact .refused hrefuses rfl hsaid
  | register hadmits =>
      cases hanswers with
      | waiting hstage | admitted hstage => simp at hstage
      | admitting hframes hsaid =>
          exact .goesOn rfl (.admitted (.inl rfl) hframes (hspoke hsaid)) hnone fun _ => .inr rfl
  | announce =>
      cases hanswers with
      | waiting hstage => simp at hstage
      | admitted hstage hframes hsaid =>
          simp only [reduceCtorEq, or_false, ReadLoop.announcing.injEq, true_and] at hstage
          subst hstage
          exact .goesOn rfl (.admitted (.inr (.inl rfl)) hframes (hspoke hsaid))
            (fun _ => List.mem_singleton.mp) .inl
  | depart | evict => exact absurd rfl hanswers.engaged.1
  | announceLoss => exact absurd rfl (hanswers.engaged.2 _ _)

/-- What has been read from a connection stays visible. -/
theorem Answers.heardFrom (hreads : pair.Reads nodes side connection stage move)
    {conn : ConnectionId} (hheard : heardFrom (.readLoop connection stage) = some conn) :
    Pair.heardFrom move.task = some conn := by
  cases hreads with
  | handled =>
      cases hanswers with
      | waiting hstage => simp at hstage
      | greeted hne => exact absurd rfl hne
      | admitted => exact hheard
  | read | lose =>
      obtain ⟨handle, hhandle, rfl⟩ := Option.map_eq_some_iff.mp hheard
      rw [(hanswers.registered hhandle).1]
      rfl
  | _ => exact hheard

/-- Once nothing is in flight, the read loop of a connection on which something has been said has admitted its peer. -/
theorem Answers.admitted_of_stuck
    (hstuck : ∀ input, pair.awaits side (.readLoop connection stage) input = true →
      getsThrough side input = true →
      stage.move nodes.externals (pair.transport side) connection input = none)
    (hspoke : (pair.transport side.other).outbound connection.id ≠ [])
    (hunread : Pair.heardFrom (.readLoop connection stage) = none →
      pair.taken side connection.id = 0) : connection.registered.isSome = true := by
  have hgo := hstuck .go rfl rfl
  cases hanswers with
  | @waiting conn cursor stage hstage =>
      rcases hstage with rfl | rfl
      · cases hgo
      · -- the handshake has not been read
        have hread := hstuck (.read (.frames (pair.unread side conn)))
          (by simpa [awaits, unread, hunread rfl] using hspoke) rfl
        cases hread
  | greeted hne =>
      obtain ⟨msg, rest, rfl⟩ := List.exists_cons_of_ne_nil hne
      cases hgo
  | admitting =>
      simp only [ReadLoop.move] at hgo
      split at hgo <;> cases hgo
  | admitted => rfl

end

end Answers

/-! ### The steps of a pair -/

def called (pair : Pair) (side : Side) (task : Task) : Pair :=
  { pair with node := Function.update pair.node side ((pair.node side).call task) }

def moved (pair : Pair) (side : Side) (index : Nat) (move : Move)
    (taken : ConnectionId → Nat) : Pair where
  node := Function.update pair.node side
    ((pair.node side).after index (move.outcome (pair.transport side)))
  taken := Function.update pair.taken side taken

theorem step_cases {action : Transport.Action} {next : Pair}
    (hstep : pair.step nodes.externals (side, action) = some next) :
    (∃ task, action = .call task ∧ next = pair.called side task) ∨
    ∃ index input task move, action = .resume index input ∧
      (pair.tasks side)[index]? = some task ∧
      task.move nodes.externals (pair.transport side) input = some move ∧
      next = pair.moved side index move (pair.takes side action) := by
  obtain ⟨system, hsystem, rfl⟩ := Option.map_eq_some_iff.mp hstep
  cases action with
  | call task =>
      obtain ⟨-, rfl⟩ := step_call_eq_some hsystem
      exact .inl ⟨task, rfl, congrArg (Pair.mk _) (Function.update_eq_self _ _)⟩
  | resume index input =>
      obtain ⟨task, out, htask, hout, rfl⟩ := step_resume_eq_some hsystem
      obtain ⟨move, hmove, rfl⟩ := Option.map_eq_some_iff.mp hout
      exact .inr ⟨index, input, task, move, rfl, htask, hmove, rfl⟩

theorem step_eq_none {index : Nat} (hnone : ∀ task, (pair.tasks side)[index]? = some task →
      task.move nodes.externals (pair.transport side) input = none) :
    pair.step nodes.externals (side, .resume index input) = none := by
  rw [Pair.step, Option.map_eq_none_iff, Transport.step, TaskSystem.step]
  split
  · rfl
  · rename_i task htask
    simp [Transport.program, hnone task htask]

theorem move_eq_none {index : Nat} {task : Task}
    (hstuck : pair.step nodes.externals (side, .resume index input) = none)
    (htask : (pair.tasks side)[index]? = some task) :
    task.move nodes.externals (pair.transport side) input = none := by
  have hlookup : (pair.node side).tasks[index]? = some task := htask
  simpa [Pair.step, Transport.step, TaskSystem.step, hlookup, Transport.program] using hstuck

section Called

variable {task : Task}

@[simp]
theorem transport_called (side' : Side) :
    (pair.called side task).transport side' = pair.transport side' := by
  rcases side.eq_or_eq_other side' with rfl | rfl <;> simp [called, Pair.transport, State.call]

theorem mem_called {side' : Side} {other : Task}
    (hmem : other ∈ (pair.called side task).tasks side') :
    other ∈ pair.tasks side' ∨ side' = side ∧ other = task := by
  rcases side.eq_or_eq_other side' with rfl | rfl
  · exact (mem_call (by simpa [called, Pair.tasks] using hmem)).imp_right fun heq => ⟨rfl, heq⟩
  · exact .inl (by simpa [called, Pair.tasks] using hmem)

theorem tasks_subset_called (side' : Side) :
    pair.tasks side' ⊆ (pair.called side task).tasks side' := by
  rcases side.eq_or_eq_other side' with rfl | rfl <;> intro other hother
  · simpa [called, Pair.tasks, State.call] using .inl hother
  · simpa [called, Pair.tasks] using hother

end Called

section Moved

variable {index : Nat} {task : Task} {taken : ConnectionId → Nat}

@[simp]
theorem transport_moved :
    (pair.moved side index move taken).transport side =
      move.effect.apply (pair.transport side) := by
  simp [moved, Pair.transport, State.after, Move.outcome]

@[simp]
theorem node_moved_other :
    (pair.moved side index move taken).node side.other = pair.node side.other := by
  simp [moved]

theorem transport_moved_other :
    (pair.moved side index move taken).transport side.other = pair.transport side.other := by
  rw [Pair.transport, node_moved_other]

theorem tasks_moved_other :
    (pair.moved side index move taken).tasks side.other = pair.tasks side.other := by
  rw [Pair.tasks, node_moved_other]

theorem mem_moved {other : Task} (hmem : other ∈ (pair.moved side index move taken).tasks side) :
    other ∈ pair.tasks side ∨ other ∈ move.task :: move.spawned := by
  simp only [Pair.tasks, moved, Function.update_self] at hmem
  rcases mem_after hmem with ⟨position, -, hold⟩ | hnew
  · exact .inl (List.mem_of_getElem? hold)
  · exact .inr hnew

theorem mem_moved_of_mem {holder : Task} (htask : (pair.tasks side)[index]? = some task)
    (hholder : holder ∈ move.task :: move.spawned) :
    holder ∈ (pair.moved side index move taken).tasks side := by
  have hheld : Held (fun _ task (_ : Unit) => task = holder)
      ((pair.node side).after index (move.outcome (pair.transport side))) () :=
    held_after htask ⟨holder, hholder, rfl⟩
  obtain ⟨position, found, hlookup, rfl⟩ := hheld
  simp only [Pair.tasks, moved, Function.update_self]
  exact List.mem_of_getElem? hlookup

theorem exists_moved {P : Task → Prop} (htask : (pair.tasks side)[index]? = some task)
    (hown : P task → ∃ holder ∈ move.task :: move.spawned, P holder)
    (hold : ∃ holder ∈ pair.tasks side, P holder) :
    ∃ holder ∈ (pair.moved side index move taken).tasks side, P holder := by
  obtain ⟨holder, hmem, hholder⟩ := hold
  obtain ⟨position, hlookup⟩ := List.mem_iff_getElem?.mp hmem
  have hheld : Held (fun _ task (_ : Unit) => P task)
      ((pair.node side).after index (move.outcome (pair.transport side))) () :=
    held_resume htask hown (fun _ => id) ⟨position, holder, hlookup, hholder⟩
  obtain ⟨position', holder', hlookup', hholder'⟩ := hheld
  refine ⟨holder', ?_, hholder'⟩
  simp only [Pair.tasks, moved, Function.update_self]
  exact List.mem_of_getElem? hlookup'

theorem stays_moved {holder : Task} (htask : (pair.tasks side)[index]? = some task)
    (hown : task = holder → holder ∈ move.task :: move.spawned) (hold : holder ∈ pair.tasks side) :
    holder ∈ (pair.moved side index move taken).tasks side := by
  obtain ⟨_, hmem, rfl⟩ := exists_moved (P := (· = holder)) htask
    (fun heq => ⟨holder, hown heq, rfl⟩) ⟨holder, hold, rfl⟩
  exact hmem

theorem holds_moved {conn : ConnectionId} :
    (pair.moved side index move taken).Holds nodes side conn ↔
      (move.effect.apply (pair.transport side)).peers (nodes.ids side.other) =
        some ⟨nodes.ids side.other, conn⟩ := by
  rw [Holds, transport_moved]

theorem holds_moved_other {conn : ConnectionId} :
    (pair.moved side index move taken).Holds nodes side.other conn ↔
      pair.Holds nodes side.other conn := by
  rw [Holds, Holds, transport_moved_other]

theorem Undisturbed.moved (hundisturbed : pair.Undisturbed nodes)
    (hstopped : (move.effect.apply (pair.transport side)).stopped =
      (pair.transport side).stopped) :
    (pair.moved side index move taken).Undisturbed nodes := by
  constructor <;> intro side' <;> rcases side.eq_or_eq_other side' with rfl | rfl
  · rw [transport_moved, Effect.localId_apply, hundisturbed.localId]
  · rw [transport_moved_other, hundisturbed.localId]
  · rw [transport_moved, Effect.config_apply, hundisturbed.config]
  · rw [transport_moved_other, hundisturbed.config]
  · rw [transport_moved, hstopped, hundisturbed.running]
  · rw [transport_moved_other, hundisturbed.running]

end Moved

theorem Undisturbed.called (hundisturbed : pair.Undisturbed nodes) {task : Task} :
    (pair.called side task).Undisturbed nodes :=
  ⟨by simpa using hundisturbed.localId, by simpa using hundisturbed.config,
    by simpa using hundisturbed.running⟩

section Tiebreak

variable (hundisturbed : pair.Undisturbed nodes)

include hundisturbed

theorem Undisturbed.wins_dialed (side : Side) :
    (pair.transport side).connectionWinsTiebreak (nodes.ids side.other) true = true ↔
      nodes.smaller = side := by
  simp [Transport.connectionWinsTiebreak, hundisturbed.localId side, nodes.lt_iff_smaller]

theorem Undisturbed.wins_accepted (side : Side) :
    (pair.transport side).connectionWinsTiebreak (nodes.ids side.other) false = true ↔
      nodes.smaller = side.other := by
  have hlt := nodes.lt_iff_smaller side.other
  rw [Side.other_other] at hlt
  simp [Transport.connectionWinsTiebreak, hundisturbed.localId side, hlt]

end Tiebreak

theorem unregistered (haccounted : Transport.Accounted (pair.node side)) {index : Nat} {task : Task}
    {conn : ConnectionId} (htask : (pair.tasks side)[index]? = some task)
    (hconn : task.conn = some conn) (hcarried : task.carried = none) {peer : NodeId}
    {handle : PeerHandle} (hpeer : (pair.transport side).peers peer = some handle) :
    handle.tx ≠ conn := by
  rintro rfl
  obtain ⟨position, holder, hlookup, hholder⟩ := haccounted.carried hpeer
  have hsame :=
    Task.conn_of_carried (haccounted.tasks holder (List.mem_of_getElem? hlookup)) hholder
  obtain rfl : position = index :=
    haccounted.exclusive position index holder task handle.tx hlookup htask hsame hconn
  obtain rfl : holder = task := Option.some.inj (hlookup.symm.trans htask)
  rw [hcarried] at hholder
  cases hholder

end Pair

namespace TwoNodes

variable {nodes : TwoNodes} {pair : Pair} {allowed : Pair → Pair.Action → Prop}

theorem undisturbed_start : nodes.start.Undisturbed nodes :=
  ⟨fun _ => rfl, fun _ => rfl, fun _ => rfl⟩

variable (hreach : Machine.ReachableWhere (fun pair action => Pair.step pair nodes.externals action)
  allowed nodes.start pair)

include hreach

theorem reachable_node (side : Side) :
    Machine.Reachable (Transport.step nodes.externals)
      (Transport.start (nodes.ids side) (nodes.configs side) (nodes.inboxes side))
      (pair.node side) := by
  induction hreach with
  | start => exact .start
  | @step state next action _ _ hstep ih =>
      obtain ⟨system, hsystem, rfl⟩ := Option.map_eq_some_iff.mp hstep
      by_cases heq : side = action.1
      · subst heq
        simp only [Function.update_self]
        exact .step action.2 ih trivial hsystem
      · simpa [Function.update_of_ne heq] using ih

theorem accounted_node (side : Side) : Transport.Accounted (pair.node side) :=
  Transport.accounted_of_reachable (reachable_node hreach side)

end TwoNodes

end LapinBeam
