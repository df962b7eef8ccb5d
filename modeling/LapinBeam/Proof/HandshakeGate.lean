import LapinBeam.Transport.Inbound
import LapinBeam.Transport.Stretch

/-!
# The handshake gate

Nothing gets past the read loop of an inbound connection before a genuine handshake: the loop ends
at the first frame that is anything else, so the first frame of the connection is the handshake, and
its source is the identity of the connection from then on.
-/

namespace LapinBeam

/-- A handshake that names `peer` and, if a secret is configured, proves knowledge of it. -/
structure Genuine (hmac : Bytes → Bytes → Bytes) (secret : Option Bytes) (msg : WireMessage)
    (peer : NodeId) : Prop where
  kind : msg.kind = .handshake
  version : msg.version = protocolVersion
  source : NodeId.parse msg.src = .ok peer
  proof : ∀ key, secret = some key →
    ∃ nonce, nonce.length = Auth.nonceLen ∧ msg.payload = nonce ++ hmac key nonce

theorem Auth.payload_of_verifyProof {hmac : Bytes → Bytes → Bytes} {secret payload : Bytes}
    (hverify : Auth.verifyProof hmac secret payload = true) :
    ∃ nonce, nonce.length = nonceLen ∧ payload = nonce ++ hmac secret nonce := by
  simp only [verifyProof, Bool.and_eq_true, beq_iff_eq] at hverify
  obtain ⟨hlength, hproof⟩ := hverify
  refine ⟨payload.take nonceLen, ?_, ?_⟩
  · rw [List.length_take, hlength]
    decide
  · rw [hproof, List.take_append_drop]

theorem Connection.handle_handshake (externals : Externals) (transport : Transport)
    (connection : Connection) (msg : WireMessage) (rest : List WireMessage)
    (hversion : msg.version = protocolVersion) (hkind : msg.kind = .handshake)
    (hregistered : connection.registered = none) :
    connection.handle externals transport msg rest = (connection, .finished) ∨
      ∃ peer, Genuine externals.hmac transport.config.clusterSecret msg peer ∧
        connection.handle externals transport msg rest =
          ({ connection with writeHalf := false }, .registering peer rest) := by
  cases hsource : NodeId.parse msg.src with
  | error e => simp [handle, hversion, hkind, hregistered, hsource]
  | ok peer =>
      by_cases hopen : transport.stopped = false ∧ connection.writeHalf = true
      swap
      · refine .inl ?_
        cases hstopped : transport.stopped <;>
          simp_all [handle]
      cases hsecret : transport.config.clusterSecret with
      | none =>
          refine .inr ⟨peer, ⟨hkind, hversion, hsource, nofun⟩, ?_⟩
          simp [handle, hversion, hkind, hregistered, hsource, hopen, hsecret]
      | some key =>
          cases hverify : Auth.verifyProof externals.hmac key msg.payload with
          | false => simp [handle, hversion, hkind, hregistered, hopen, hsecret, hverify]
          | true =>
              refine .inr ⟨peer, ⟨hkind, hversion, hsource, fun key' hkey => ?_⟩, ?_⟩
              · obtain rfl := Option.some.inj hkey
                exact Auth.payload_of_verifyProof hverify
              · simp [handle, hversion, hkind, hregistered, hsource, hopen, hsecret, hverify]

namespace Inbound

variable {externals : Externals} {secret : Option Bytes} {inbound next : Inbound}
  {msg : WireMessage} {rest : List WireMessage}

structure Opened (externals : Externals) (secret : Option Bytes) (taken : List WireMessage)
    (peer : NodeId) : Prop where
  first : ∃ hs rest, taken = hs :: rest ∧ Genuine externals.hmac secret hs peer
  versions : ∀ msg ∈ taken, msg.version = protocolVersion

theorem Opened.append {taken : List WireMessage} {peer : NodeId}
    (hopened : Opened externals secret taken peer) (hversion : msg.version = protocolVersion) :
    Opened externals secret (taken ++ [msg]) peer := by
  obtain ⟨⟨hs, rest, rfl, hgenuine⟩, hversions⟩ := hopened
  refine ⟨⟨hs, rest ++ [msg], rfl, hgenuine⟩, fun other hmem => ?_⟩
  rcases List.mem_append.mp hmem with hold | hnew
  · exact hversions other hold
  · rw [List.mem_singleton.mp hnew, hversion]

def Stands (externals : Externals) (secret : Option Bytes) (taken : List WireMessage)
    (connection : Connection) : ReadLoop → Prop
  | .closing | .emitting _ _ | .finished => True
  | .registering peer _ => connection.registered = none ∧ Opened externals secret taken peer
  | .announcing peer _ | .routing peer _ _ =>
      ∃ handle, connection.registered = some handle ∧ handle.peerId = peer ∧
        Opened externals secret taken peer
  | _ =>
      match connection.registered with
      | none => taken = []
      | some handle => Opened externals secret taken handle.peerId

def pending : ReadLoop → List WireMessage
  | .handling frames | .registering _ frames | .announcing _ frames | .routing _ _ frames => frames
  | _ => []

def Follows (decoded taken : List WireMessage) : ReadLoop → Prop
  | .closing | .emitting _ _ | .finished => taken <+: decoded
  | stage => taken ++ pending stage = decoded

theorem Follows.isPrefix {decoded taken : List WireMessage} {stage : ReadLoop}
    (hfollows : Follows decoded taken stage) : taken <+: decoded := by
  cases stage <;> first | exact hfollows | exact ⟨_, hfollows⟩

structure Admitted (externals : Externals) (secret : Option Bytes) (consumed : List WireMessage)
    (passage : Passage) : Prop where
  opened : Opened externals secret consumed passage.peer
  routed : ∀ peer msg, passage = .routed peer msg → ∃ hs middle, consumed = hs :: middle ++ [msg]

section Move

variable {transport : Transport} {connection connection' : Connection} {stage stage' : ReadLoop}
  {input : Input} {move : Move} {decoded taken : List WireMessage}

theorem stands_handle (hstands : Stands externals transport.config.clusterSecret taken connection
      (.handling (msg :: rest))) :
    Stands externals transport.config.clusterSecret (taken ++ [msg])
      (connection.handle externals transport msg rest).1
      (connection.handle externals transport msg rest).2 := by
  by_cases hversion : msg.version = protocolVersion
  swap
  · simp [Connection.handle, hversion, Stands]
  by_cases hkind : msg.kind = .handshake
  · cases hregistered : connection.registered with
    | some handle =>
        simp only [Stands, hregistered] at hstands
        simpa [Connection.handle, hversion, hkind, hregistered, Stands] using
          hstands.append hversion
    | none =>
        obtain rfl : taken = [] := by simpa [Stands, hregistered] using hstands
        rcases connection.handle_handshake externals transport msg rest hversion hkind hregistered with
          hfinished | ⟨peer, hgenuine, hregistering⟩
        · rw [hfinished]
          trivial
        · rw [hregistering]
          exact ⟨hregistered, ⟨msg, [], rfl, hgenuine⟩, by simpa using hversion⟩
  · cases hregistered : connection.registered with
    | some handle =>
        simp only [Stands, hregistered] at hstands
        simpa [Connection.handle, hversion, hkind, hregistered, Stands] using
          hstands.append hversion
    | none => simp [Connection.handle, hversion, hkind, hregistered, Stands]

theorem admitted_handle {routed : WireMessage} {frames : List WireMessage} {peer : NodeId}
    (hstands : Stands externals transport.config.clusterSecret taken connection
      (.handling (msg :: rest))) (hrouted : (connection.handle externals transport msg rest).2 =
      .routing peer (.dispatch routed) frames) :
    Admitted externals transport.config.clusterSecret (taken ++ [msg]) (.routed peer routed) := by
  simp only [Connection.handle] at hrouted
  split at hrouted
  · cases hrouted
  rename_i hversion
  split at hrouted
  · split at hrouted
    · cases hrouted
    · repeat' split at hrouted
      all_goals cases hrouted
  · split at hrouted
    · rename_i handle hregistered
      cases hrouted
      have hopened : Opened externals transport.config.clusterSecret taken handle.peerId := by
        simpa [Stands, hregistered] using hstands
      refine ⟨hopened.append (not_not.mp hversion), fun peer routed heq => ?_⟩
      cases heq
      obtain ⟨hs, middle, rfl, -⟩ := hopened.first
      exact ⟨hs, middle, rfl⟩
    · cases hrouted

theorem follows_handle (hfollows : taken ++ msg :: rest = decoded) :
    Follows decoded (taken ++ [msg]) (connection.handle externals transport msg rest).2 := by
  have htaken : taken ++ [msg] <+: decoded := ⟨rest, by simpa using hfollows⟩
  have hrest : (taken ++ [msg]) ++ rest = decoded := by simpa using hfollows
  simp only [Connection.handle]
  repeat' split
  all_goals first | exact htaken | exact hrest

theorem routed_of_mem_passages {passage : Passage} {spawned : List Task}
    (hpassage : passage ∈ Move.passages ⟨.skip, .readLoop connection stage', spawned⟩ stage) :
    ∃ peer msg frames, stage' = .routing peer (.dispatch msg) frames ∧
      passage = .routed peer msg := by
  simp only [Move.passages] at hpassage
  split at hpassage
  · rename_i hinsert
    cases hinsert
  · rename_i peer msg frames htask _
    exact ⟨peer, msg, frames, (Task.readLoop.inj htask).2, List.mem_singleton.mp hpassage⟩
  · cases hpassage

theorem passages_of_quiet (hquiet : move.effect.quiet = true)
    (hstage : ∀ frames, stage ≠ .handling frames) : move.passages stage = [] := by
  simp only [Move.passages]
  split
  · rename_i heffect
    rw [heffect] at hquiet
    cases hquiet
  · exact absurd rfl (hstage _)
  · rfl

theorem frames_of_route {route : Route} {peer : NodeId} {result : Effect × Progress Route Unit}
    (hroute : route.move externals transport peer input = some result) : input.frames = [] := by
  cases input with
  | read =>
      cases route with
      | sending stage => cases stage <;> cases hroute
      | _ => cases hroute
  | _ => rfl

theorem gate_move (hmove : stage.move externals transport connection input = some move)
    (htask : move.task = .readLoop connection' stage')
    (hstands : Stands externals transport.config.clusterSecret taken connection stage)
    (hfollows : Follows decoded taken stage) :
    Stands externals transport.config.clusterSecret (taken ++ stage.takes) connection' stage' ∧
      Follows (decoded ++ input.frames) (taken ++ stage.takes) stage' ∧
      ∀ passage ∈ move.passages stage,
        Admitted externals transport.config.clusterSecret (taken ++ stage.takes) passage := by
  have hnone : ∀ passage ∈ ([] : List Passage),
      Admitted externals transport.config.clusterSecret taken passage := by simp
  revert hmove
  fun_cases ReadLoop.move <;> rintro ⟨⟩ <;> cases htask <;>
    simp only [ReadLoop.takes, List.append_nil]
  -- frames have been read
  case case2 =>
    simp only [Follows, pending, List.append_nil] at hfollows ⊢
    exact ⟨hstands, hfollows ▸ rfl, hnone⟩
  -- the read has failed
  case case3 => exact ⟨trivial, hfollows.isPrefix.trans (List.prefix_append _ _), hnone⟩
  case case10 msg rest hhandle =>
    obtain rfl : (connection.handle externals transport msg rest).1 = connection' :=
      congrArg Prod.fst hhandle
    obtain rfl : (connection.handle externals transport msg rest).2 = stage' :=
      congrArg Prod.snd hhandle
    simp only [Input.frames, List.append_nil]
    refine ⟨stands_handle hstands, follows_handle hfollows, fun passage hpassage => ?_⟩
    obtain ⟨peer, routed, frames, hrouted, rfl⟩ := routed_of_mem_passages hpassage
    exact admitted_handle hstands hrouted
  -- the peer is registered
  case case12 =>
    simp only [Input.frames, List.append_nil]
    refine ⟨⟨_, rfl, rfl, hstands.2⟩, hfollows, fun passage hpassage => ?_⟩
    obtain rfl := List.mem_singleton.mp hpassage
    exact ⟨hstands.2, by rintro _ _ ⟨⟩⟩
  case case13 =>
    obtain ⟨handle, hregistered, rfl, hopened⟩ := hstands
    simp only [Input.frames, List.append_nil]
    exact ⟨by simpa [Stands, hregistered] using hopened, hfollows, hnone⟩
  -- inside `route`, and back from it
  case case15 hroute =>
    rw [frames_of_route hroute, List.append_nil,
      passages_of_quiet (Route.quiet_of_move hroute) (by simp)]
    exact ⟨hstands, hfollows, hnone⟩
  case case16 hroute =>
    obtain ⟨handle, hregistered, rfl, hopened⟩ := hstands
    rw [frames_of_route hroute, List.append_nil,
      passages_of_quiet (Route.quiet_of_move hroute) (by simp)]
    exact ⟨by simpa [Stands, hregistered] using hopened, hfollows, hnone⟩
  all_goals
    simp only [Input.frames, List.append_nil]
    first
      | exact ⟨hstands, hfollows, hnone⟩
      | exact ⟨trivial, hfollows.isPrefix, hnone⟩

end Move

structure Gated (externals : Externals) (secret : Option Bytes) (inbound : Inbound) : Prop where
  stands : Stands externals secret inbound.taken inbound.connection inbound.stage
  follows : Follows inbound.decoded inbound.taken inbound.stage
  passed : ∀ entry ∈ inbound.passed,
    Admitted externals secret entry.1 entry.2 ∧ entry.1 <+: inbound.decoded

theorem Gated.resume {transport : Transport} {input : Input}
    (hgated : Gated externals secret inbound) (hsecret : transport.config.clusterSecret = secret)
    (hresume : inbound.resume externals transport input = some next) :
    Gated externals secret next := by
  subst hsecret
  simp only [Inbound.resume] at hresume
  split at hresume
  · cases hresume
  rename_i move hmove
  split at hresume
  swap
  · cases hresume
  rename_i connection stage htask
  cases hresume
  obtain ⟨hstands, hfollows, hadmitted⟩ := gate_move hmove htask hgated.stands hgated.follows
  refine ⟨hstands, hfollows, fun entry hentry => ?_⟩
  rcases List.mem_append.mp hentry with hold | hnew
  · obtain ⟨hold, hbefore⟩ := hgated.passed entry hold
    exact ⟨hold, hbefore.trans (List.prefix_append _ _)⟩
  · obtain ⟨passage, hpassage, rfl⟩ := List.mem_map.mp hnew
    exact ⟨hadmitted passage hpassage, hfollows.isPrefix⟩

theorem Gated.step {bincode : Bincode} {debugAssertions : Bool} {action : Transport × Arrival}
    (hgated : Gated externals secret inbound) (hsecret : action.1.config.clusterSecret = secret)
    (hstep : inbound.step externals bincode debugAssertions action = some next) :
    Gated externals secret next := by
  have hdecoder : ∀ decoder, Gated externals secret { inbound with decoder } := fun decoder =>
    ⟨hgated.stands, hgated.follows, hgated.passed⟩
  simp only [Inbound.step] at hstep
  split at hstep
  · split at hstep
    · split at hstep
      · exact (hdecoder _).resume hsecret hstep
      · exact (hdecoder _).resume hsecret hstep
      · cases hstep
        exact ⟨trivial, hgated.follows.isPrefix, hgated.passed⟩
    · cases hstep
  · cases hstep
  · exact hgated.resume hsecret hstep

theorem gated_of_reachable {bincode : Bincode} {debugAssertions : Bool} {conn : ConnectionId}
    (hreach : Machine.ReachableWhere
      (fun inbound => step externals bincode debugAssertions inbound)
      (fun _ action => action.1.config.clusterSecret = secret) (accept conn) inbound) :
    Gated externals secret inbound := by
  have hstart : Gated externals secret (accept conn) :=
    ⟨rfl, rfl, fun entry hentry => absurd hentry List.not_mem_nil⟩
  exact hreach.invariant hstart fun _ _ _ hgated hsecret hstep => hgated.step hsecret hstep

/-- Whatever an inbound connection receives, in whatever chunks: what its read loop routes or registers comes after a genuine handshake, its first frame, under the identity that names. -/
theorem handshake_gate {bincode : Bincode} {debugAssertions : Bool} {conn : ConnectionId}
    (hreach : Machine.ReachableWhere
      (fun inbound => step externals bincode debugAssertions inbound)
      (fun _ action => action.1.config.clusterSecret = secret) (accept conn) inbound)
    {consumed : List WireMessage} {passage : Passage}
    (hpassed : (consumed, passage) ∈ inbound.passed) :
    ∃ hs rest, inbound.decoded = hs :: rest ∧ Genuine externals.hmac secret hs passage.peer ∧
      consumed <+: inbound.decoded ∧ (∀ msg ∈ consumed, msg.version = protocolVersion) ∧
      (∃ middle, consumed = hs :: middle) ∧
      ∀ peer msg, passage = .routed peer msg → ∃ middle, consumed = hs :: middle ++ [msg] := by
  obtain ⟨⟨⟨⟨hs, middle, rfl, hgenuine⟩, hversions⟩, hrouted⟩, hbefore⟩ :=
    (gated_of_reachable hreach).passed _ hpassed
  obtain ⟨rest, hrest⟩ := hbefore
  refine ⟨hs, middle ++ rest, hrest.symm, hgenuine, ⟨rest, hrest⟩, hversions, ⟨middle, rfl⟩, ?_⟩
  intro peer msg heq
  obtain ⟨first, between, hconsumed⟩ := hrouted peer msg heq
  obtain ⟨rfl, hmiddle⟩ := List.cons.inj hconsumed
  exact ⟨between, congrArg (hs :: ·) hmiddle⟩

def data : WireMessage :=
  { WireMessage.handshake 2 "a@h:2" with kind := .data, dstActor := "x", payload := [49] }

def greeted : List (Transport × Arrival) :=
  let transport := Fixed.start.shared
  let bytes := frameBytes .standard (.handshake 1 "a@h:2") ++ frameBytes .standard data
  [(transport, .wake .go), (transport, .bytes (bytes.take 3)), (transport, .wake .go),
    (transport, .bytes (bytes.drop 3)), (transport, .wake .go), (transport, .wake .go),
    (transport, .wake .go), (transport, .wake .go)]

theorem handshake_gate_greeted :
    ∃ (inbound : Inbound) (hs : WireMessage) (rest : List WireMessage),
      inbound.decoded = hs :: rest ∧ ([hs, data], .routed Fixed.peer data) ∈
      inbound.passed ∧ Genuine Fixed.externals.hmac none hs Fixed.peer := by
  have hrun : (Machine.runWhere (fun inbound => step Fixed.externals .standard true inbound)
      (fun _ action => action.1.config.clusterSecret = none) (accept 1) greeted).map
        (fun inbound => (inbound.decoded, inbound.passed[1]?)) =
      some ([.handshake 1 "a@h:2", data],
        some ([.handshake 1 "a@h:2", data], .routed Fixed.peer data)) := by
    decide +kernel
  obtain ⟨inbound, hreach, hobserved⟩ := Machine.exists_reachableWhere hrun
  obtain ⟨hdecoded, hentry⟩ := Prod.mk.inj hobserved
  have hpassed := List.mem_of_getElem? hentry
  obtain ⟨hs, rest, hfirst, hgenuine, -⟩ := handshake_gate hreach hpassed
  obtain ⟨rfl, -⟩ := List.cons.inj (hdecoded.symm.trans hfirst)
  exact ⟨inbound, _, _, hdecoded, hpassed, hgenuine⟩

end Inbound

end LapinBeam
