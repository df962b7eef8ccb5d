import LapinBeam.Proof.Redialing

/-!
# The invariant of repeated dials

The left side's entry is replaced only by a connection on which nothing has been said yet, so no
connection the right side has registered is ever put back into it. A timely right side in turn never
replaces the other end of the left side's entry.
-/

namespace LapinBeam

open TaskSystem

namespace Pair

variable {pair : Pair} {nodes : TwoNodes} {index : Nat} {task : Task} {move : Move}
  {taken : ConnectionId → Nat} {conn : ConnectionId}

theorem Effect.hasPeer_inert {effect : Effect} {transport : Transport}
    (hinert : effect.inert = true) : (effect.apply transport).peers = transport.peers ∧
      (effect.apply transport).outbound = transport.outbound := by
  cases effect <;> first | exact ⟨rfl, rfl⟩ | cases hinert

section

variable (hturn : pair.DialTurn nodes task move)

include hturn

theorem DialTurn.stopped :
    (move.effect.apply (pair.transport .left)).stopped = (pair.transport .left).stopped := by
  cases hturn with
  | rest huncarried hinert =>
      cases hmove : move.effect <;> rw [hmove] at hinert <;> first | rfl | cases hinert
  | dials hdials => exact hdials.stopped
  | subscribe => rfl

theorem DialTurn.peers_cases :
    (move.effect.apply (pair.transport .left)).peers = (pair.transport .left).peers ∨
      ∃ conn, move.effect = .insertPeer ⟨nodes.ids .right, conn⟩ ∧ task.conn = some conn ∧
        task.carried = none ∧
        (pair.transport .left).refuses (nodes.ids .right) true = false := by
  cases hturn with
  | rest huncarried hinert => exact .inl (Effect.hasPeer_inert hinert).1
  | dials hdials =>
      rcases hdials.peers_cases with hsame | ⟨conn, heffect, rfl, hadmits⟩
      · exact .inl hsame
      · exact .inr ⟨conn, heffect, rfl, rfl, hadmits⟩
  | subscribe => exact .inl rfl

theorem DialTurn.outbound_cases (conn : ConnectionId) :
    (move.effect.apply (pair.transport .left)).outbound conn = (pair.transport .left).outbound conn ∨
      ∃ hs, nodes.Greeting .left hs ∧ move.task.carried = some ⟨nodes.ids .right, conn⟩ ∧
        (move.effect.apply (pair.transport .left)).outbound conn =
          (pair.transport .left).outbound conn ++ [hs] := by
  cases hturn with
  | rest huncarried hinert => exact .inl (by rw [(Effect.hasPeer_inert hinert).2])
  | dials hdials hgreets =>
      rcases hdials.outbound_cases conn with hsame | ⟨hs, rfl, htask, happend⟩
      · exact .inl hsame
      · exact .inr ⟨hs, hgreets, by rw [htask]; rfl, happend⟩
  | subscribe => exact .inl rfl

theorem DialTurn.spoke (hsaid : (pair.transport .left).outbound conn ≠ []) :
    ((pair.moved .left index move taken).transport .left).outbound conn ≠ [] := by
  rw [transport_moved]
  rcases hturn.outbound_cases conn with hsame | ⟨hs, -, -, happend⟩
  · rwa [hsame]
  · simp [happend]

theorem DialTurn.hasPeer (hpeer : (pair.transport .left).hasPeer (nodes.ids .right) = true) :
    ((pair.moved .left index move taken).transport .left).hasPeer (nodes.ids .right) = true := by
  rw [transport_moved]
  rcases hturn.peers_cases with hpeers | ⟨conn, heffect, -⟩
  · rwa [Transport.hasPeer, hpeers]
  · simp [heffect, Effect.apply, Transport.hasPeer]

theorem DialTurn.carried_kept {handle : PeerHandle} (hcarried : task.carried = some handle) :
    ∃ holder ∈ move.task :: move.spawned, holder.carried = some handle := by
  cases hturn with
  | rest huncarried => rw [huncarried] at hcarried; cases hcarried
  | dials hdials =>
      cases hdials with
      | draw | send | announce => exact ⟨_, List.mem_cons_self, hcarried⟩
      | handOver => exact ⟨_, List.mem_cons_of_mem _ List.mem_cons_self, hcarried⟩
      | _ => cases hcarried
  | subscribe => exact ⟨_, List.mem_cons_self, hcarried⟩

end

theorem DialTurn.carried_cases (hturn : pair.DialTurn nodes task move) :
    ∀ holder ∈ move.task :: move.spawned, ∀ handle, holder.carried = some handle →
      task.carried = some handle ∨
        move.effect = .insertPeer handle ∧ handle.peerId = nodes.ids .right := by
  cases hturn with
  | rest huncarried hinert hrest =>
      intro holder hholder handle hcarried
      simp [Task.carried_of_conn (hrest holder hholder).1] at hcarried
  | dials hdials =>
      cases hdials with
      | register =>
          rintro holder hholder handle hcarried
          obtain rfl := List.mem_singleton.mp hholder
          obtain rfl : _ = handle := Option.some.inj hcarried
          exact .inr ⟨rfl, rfl⟩
      | _ => simp_all [Task.carried, Dial.registered, ReadLoop.live, Side.other]
  | subscribe => simp_all [Task.carried, ReadLoop.live]

theorem DialTurn.conn_cases (hturn : pair.DialTurn nodes task move) :
    ∀ holder ∈ move.task :: move.spawned, ∀ conn, holder.conn = some conn →
      task.conn = some conn ∨ conn ∉ (pair.transport .left).opened := by
  cases hturn with
  | rest huncarried hinert hrest =>
      intro holder hholder conn hconn
      simp [(hrest holder hholder).1] at hconn
  | dials hdials => cases hdials <;> simp_all [Task.conn, Dial.conn]
  | subscribe => simp_all [Task.conn]

theorem Redialing.unsent (hredialing : pair.Redialing nodes)
    (haccounted : Transport.Accounted (pair.node .left))
    (htask : (pair.tasks .left)[index]? = some task) (hconn : task.conn = some conn)
    (hcarried : task.carried = none) : (pair.transport .left).outbound conn = [] := by
  by_contra hspoke
  obtain ⟨holder, hmem, hholder⟩ := hredialing.spoken conn hspoke
  obtain ⟨position, hlookup⟩ := List.mem_iff_getElem?.mp hmem
  have hsame := Task.conn_of_carried (haccounted.tasks holder hmem) hholder
  obtain rfl : position = index :=
    haccounted.exclusive position index holder task conn hlookup htask hsame hconn
  obtain rfl : holder = task := Option.some.inj (hlookup.symm.trans htask)
  rw [hcarried] at hholder
  cases hholder

theorem Dialing.mono {later : Pair} (hdialing : pair.Dialing nodes task)
    (hspoke : ∀ {conn}, (pair.transport .left).outbound conn ≠ [] →
      (later.transport .left).outbound conn ≠ [])
    (hpeer : (pair.transport .left).hasPeer (nodes.ids .right) = true →
      (later.transport .left).hasPeer (nodes.ids .right) = true) : later.Dialing nodes task := by
  cases hdialing with
  | unconnected hunconnected =>
      exact .unconnected ⟨hunconnected.aim, fun hsucceeded => hpeer (hunconnected.present hsucceeded)⟩
  | dial hgreets => exact .dial (hgreets.mono hspoke)
  | listening hstage hsaid => exact .listening hstage (hspoke hsaid)

theorem DialTurn.dialing (hturn : pair.DialTurn nodes task move)
    (hredialing : pair.Redialing nodes) (hmem : task ∈ pair.tasks .left) :
    ∀ holder ∈ move.task :: move.spawned,
      (pair.moved .left index move taken).Dialing nodes holder := by
  have hspoke : ∀ {conn}, (pair.transport .left).outbound conn ≠ [] →
      ((pair.moved .left index move taken).transport .left).outbound conn ≠ [] := hturn.spoke
  have hpeer : (pair.transport .left).hasPeer (nodes.ids .right) = true →
      ((pair.moved .left index move taken).transport .left).hasPeer (nodes.ids .right) = true :=
    hturn.hasPeer
  cases hturn with
  | rest huncarried hinert hrest =>
      exact fun holder hholder => (hrest holder hholder).2.mono hspoke hpeer
  | dials hdials hgreets =>
      cases hdials with
      | present hknown =>
          exact List.forall_mem_singleton.mpr
            (.unconnected (unconnected_dialed fun _ => hpeer hknown))
      | refused =>
          exact List.forall_mem_singleton.mpr (.unconnected (unconnected_dialed nofun))
      | yield hrefuses =>
          exact List.forall_mem_singleton.mpr
            (.unconnected (unconnected_dialed fun _ => hpeer (hasPeer_of_refuses hrefuses)))
      | draw hgreeting => exact List.forall_mem_singleton.mpr (.dial hgreeting)
      | send => exact List.forall_mem_singleton.mpr (.dial (by simp [Greets, Effect.apply]))
      | announce => exact List.forall_mem_singleton.mpr (.dial (hspoke hgreets))
      | handOver =>
          simp only [List.mem_cons, List.not_mem_nil, or_false, forall_eq_or_imp, forall_eq]
          refine ⟨.unconnected (unconnected_dialed fun _ => hpeer ?_),
            .listening (.inl rfl) (hspoke hgreets), .unconnected unconnected_heartbeatLoop⟩
          exact hredialing.entered _ hmem rfl
      | _ => exact List.forall_mem_singleton.mpr (.dial trivial)
  | subscribe hsaid =>
      simp only [List.mem_singleton, forall_eq]
      exact .listening (.inr rfl) (hspoke hsaid)

theorem DialTurn.answering (hturn : pair.DialTurn nodes task move)
    (hredialing : pair.Redialing nodes) (haccounted : Transport.Accounted (pair.node .left))
    (htask : (pair.tasks .left)[index]? = some task) {other : Task}
    (hanswering : pair.Answering nodes other) :
    (pair.moved .left index move taken).Answering nodes other := by
  cases hanswering with
  | background hbackground => exact .background hbackground
  | @answering connection stage hanswers hunread hkept =>
      refine .answering (hanswers.mono hturn.spoke) (by simpa [Pair.moved] using hunread)
        fun hsome hholds => ?_
      obtain ⟨handle, hhandle⟩ := Option.isSome_iff_exists.mp hsome
      have hbefore : pair.Holds nodes .left connection.id := by
        rw [holds_moved] at hholds
        rcases hturn.peers_cases with hpeers | ⟨fresh, heffect, hconn, huncarried, -⟩
        · rwa [hpeers] at hholds
        · -- the new entry's connection has not been spoken on
          obtain rfl : fresh = connection.id := by
            simpa [heffect, Effect.apply, Side.other] using hholds
          exact absurd (hredialing.unsent haccounted htask hconn huncarried)
            (hanswers.registered hhandle).2
      exact holds_moved_other.mpr (hkept hsome hbefore)
  | leaving hstage hregistered hopened habandoned =>
      refine .leaving hstage hregistered ?_ fun holder hholder hconn => ?_
      · rw [transport_moved]
        exact move.effect.opened_subset _ hopened
      · rcases mem_moved hholder with hold | hnew
        · exact habandoned holder hold hconn
        · rcases hturn.conn_cases holder hnew _ hconn with hsame | hfresh
          · exact habandoned task (List.mem_of_getElem? htask) hsame
          · exact hfresh hopened

theorem Redialing.not_hasPeer (hredialing : pair.Redialing nodes) (hlarger : nodes.smaller = .right)
    (hadmits : (pair.transport .left).refuses (nodes.ids .right) true = false) :
    (pair.transport .left).hasPeer (nodes.ids .right) = false := by
  have hloses : (pair.transport .left).connectionWinsTiebreak (nodes.ids .right) true = false :=
    Bool.eq_false_iff.mpr ((hredialing.toUndisturbed.wins_dialed .left).not.mpr (by simp [hlarger]))
  simpa [Transport.refuses, hloses] using hadmits

theorem Redialing.dials (hredialing : pair.Redialing nodes)
    (haccounted : Transport.Accounted (pair.node .left))
    (htask : (pair.tasks .left)[index]? = some task) (hturn : pair.DialTurn nodes task move) :
    (pair.moved .left index move taken).Redialing nodes := by
  have hmem := List.mem_of_getElem? htask
  have hright : (pair.moved .left index move taken).node .right = pair.node .right :=
    node_moved_other
  constructor
  case toUndisturbed => exact hredialing.toUndisturbed.moved hturn.stopped
  case dialing =>
    intro holder hholder
    rcases mem_moved hholder with hold | hnew
    · exact (hredialing.dialing holder hold).mono hturn.spoke hturn.hasPeer
    · exact hturn.dialing hredialing hmem holder hnew
  case answering =>
    intro holder hholder
    rw [Pair.tasks, hright] at hholder
    exact hturn.answering hredialing haccounted htask (hredialing.answering holder hholder)
  case accepting =>
    rw [Pair.tasks, hright]
    exact hredialing.accepting
  case dialed =>
    rw [transport_moved, Pair.transport, hright]
    exact fun conn hopened => move.effect.opened_subset _ (hredialing.dialed hopened)
  case accepted =>
    rw [Pair.tasks, Pair.transport, hright]
    exact hredialing.accepted
  case unheard =>
    rw [Pair.transport, hright]
    simpa [Pair.moved] using hredialing.unheard
  case greetings =>
    intro conn msg hmsg
    rw [transport_moved] at hmsg
    rcases hturn.outbound_cases conn with hsame | ⟨hs, hgreeting, -, happend⟩
    · exact hredialing.greetings conn msg (hsame ▸ hmsg)
    · rw [happend] at hmsg
      rcases List.mem_append.mp hmsg with hold | hnew
      · exact hredialing.greetings conn msg hold
      · exact List.mem_singleton.mp hnew ▸ hgreeting
  case silent =>
    rw [Pair.transport, hright]
    exact hredialing.silent
  case spoken =>
    intro conn hsaid
    rw [transport_moved] at hsaid
    rcases hturn.outbound_cases conn with hsame | ⟨hs, -, hcarried, -⟩
    · exact exists_moved htask hturn.carried_kept (hredialing.spoken conn (hsame ▸ hsaid))
    · exact ⟨_, mem_moved_of_mem htask List.mem_cons_self, hcarried⟩
  case entered =>
    intro holder hholder hcarried
    rcases mem_moved hholder with hold | hnew
    · exact hturn.hasPeer (hredialing.entered holder hold hcarried)
    · obtain ⟨handle, hhandle⟩ := Option.isSome_iff_exists.mp hcarried
      rcases hturn.carried_cases holder hnew handle hhandle with hown | ⟨hinsert, hkey⟩
      · exact hturn.hasPeer (hredialing.entered task hmem (by rw [hown]; rfl))
      · simp [hinsert, ← hkey, Effect.apply, Transport.hasPeer]
  case sole =>
    intro hlarger holder hholder handle hcarried
    rw [holds_moved]
    have hkeeps : ∀ other ∈ pair.tasks .left, other.carried = some handle →
        (move.effect.apply (pair.transport .left)).peers (nodes.ids .right) =
          some ⟨nodes.ids .right, handle.tx⟩ := fun other hother hown => by
      rcases hturn.peers_cases with hpeers | ⟨conn, -, -, -, hadmits⟩
      · rw [hpeers]
        exact hredialing.sole hlarger other hother handle hown
      · have hpresent := hredialing.entered other hother (by rw [hown]; rfl)
        rw [hredialing.not_hasPeer hlarger hadmits] at hpresent
        cases hpresent
    rcases mem_moved hholder with hold | hnew
    · exact hkeeps holder hold hcarried
    · rcases hturn.carried_cases holder hnew handle hcarried with hown | ⟨hinsert, hkey⟩
      · exact hkeeps task hmem hown
      · simp [hinsert, ← hkey, Effect.apply, Side.other]

theorem Dialing.conn_eq (hdialing : pair.Dialing nodes task) : task.keepsOpen = task.conn := by
  cases hdialing with
  | unconnected hunconnected =>
      have haim := hunconnected.aim
      cases task <;> first | rfl | cases haim
  | @dial caller stage => cases stage <;> rfl
  | listening hstage => rcases hstage with rfl | rfl <;> rfl

theorem Redialing.kept (hredialing : pair.Redialing nodes)
    (haccounted : Transport.Accounted (pair.node .left))
    (hspoke : (pair.transport .left).outbound conn ≠ []) :
    ∃ task ∈ pair.tasks .left, task.conn = some conn := by
  obtain ⟨task, hmem, hcarried⟩ := hredialing.spoken conn hspoke
  exact ⟨task, hmem, Task.conn_of_carried (haccounted.tasks task hmem) hcarried⟩

theorem Redialing.abandoned (hredialing : pair.Redialing nodes)
    (hdropped : pair.Dropped .left conn) :
    ∀ task ∈ pair.tasks .left, task.conn ≠ some conn :=
  fun task hmem hconn => hdropped.2 task hmem ((hredialing.dialing task hmem).conn_eq.trans hconn)

theorem Answering.carried_cases (hanswering : pair.Answering nodes task) {handle : PeerHandle}
    (hcarried : task.carried = some handle) :
    handle.peerId = nodes.ids .left ∧ (pair.transport .left).outbound handle.tx ≠ [] ∧
      (pair.Holds nodes .left handle.tx → pair.Holds nodes .right handle.tx) := by
  cases hanswering with
  | background hbackground => cases task <;> first | cases hbackground | cases hcarried
  | answering hanswers hunread hkept =>
      have hregistered := (Option.ite_none_right_eq_some.mp hcarried).2
      obtain ⟨rfl, hspoke⟩ := hanswers.registered hregistered
      exact ⟨rfl, hspoke, hkept (by rw [hregistered]; rfl)⟩
  | leaving hstage hregistered =>
      rcases hstage with rfl | rfl <;> simp [Task.carried, hregistered] at hcarried

theorem Redialing.answered (hredialing : pair.Redialing nodes)
    (haccounted : Transport.Accounted (pair.node .right)) {handle : PeerHandle}
    (hpeer : (pair.transport .right).peers (nodes.ids .left) = some handle) :
    (pair.transport .left).outbound handle.tx ≠ [] := by
  obtain ⟨position, holder, hlookup, hcarried⟩ := haccounted.carried hpeer
  exact ((hredialing.answering holder (List.mem_of_getElem? hlookup)).carried_cases hcarried).2.1

theorem Redialing.admits (hredialing : pair.Redialing nodes)
    (haccounted : Transport.Accounted (pair.node .right))
    (htask : (pair.tasks .right)[index]? = some task) (hconn : task.conn = some conn)
    (hcarried : task.carried = none) (hspoke : (pair.transport .left).outbound conn ≠ []) :
    (pair.transport .right).refuses (nodes.ids .left) false = false := by
  by_contra hrefuses
  rw [Bool.not_eq_false, Transport.refuses, Bool.and_eq_true, Transport.hasPeer,
    Option.isSome_iff_exists] at hrefuses
  obtain ⟨⟨handle, hpeer⟩, hloses⟩ := hrefuses
  have hlarger : nodes.smaller = .right := by
    have hwins := hredialing.toUndisturbed.wins_accepted .right
    cases hside : nodes.smaller <;> simp_all [Side.other]
  -- the left side has a single entry, so both connections would be its own
  have hsole : ∀ said, (pair.transport .left).outbound said ≠ [] → pair.Holds nodes .left said :=
    fun said hsaid => by
      obtain ⟨holder, hmem, hholder⟩ := hredialing.spoken said hsaid
      exact hredialing.sole hlarger holder hmem _ hholder
  have hone := (hsole _ (hredialing.answered haccounted hpeer)).symm.trans (hsole conn hspoke)
  have hsame : handle.tx = conn := congrArg PeerHandle.tx (Option.some.inj hone)
  exact unregistered haccounted htask hconn hcarried hpeer hsame

theorem AnswerTurn.unchanged (hturn : pair.AnswerTurn nodes task move) :
    (move.effect.apply (pair.transport .right)).stopped = (pair.transport .right).stopped ∧
      (move.effect.apply (pair.transport .right)).outbound = (pair.transport .right).outbound := by
  cases hturn with
  | accept => exact ⟨rfl, rfl⟩
  | reads hreads => exact ⟨hreads.unchanged.2.2.2, hreads.unchanged.2.2.1⟩

theorem AnswerTurn.conn_kept (hturn : pair.AnswerTurn nodes task move)
    (hconn : task.conn = some conn) :
    ∃ holder ∈ move.task :: move.spawned, holder.conn = some conn := by
  cases hturn with
  | accept => cases hconn
  | reads hreads => exact ⟨_, List.mem_cons_self, hreads.conn.trans hconn⟩

theorem AnswerTurn.opened_cases (hturn : pair.AnswerTurn nodes task move)
    (hopened : conn ∈ (move.effect.apply (pair.transport .right)).opened) :
    conn ∈ (pair.transport .right).opened ∨
      conn ∈ (pair.transport .left).opened ∧
        ∃ holder ∈ move.task :: move.spawned, holder.conn = some conn := by
  cases hturn with
  | accept hdialed hfresh =>
      rcases List.mem_cons.mp hopened with rfl | hold
      · exact .inr ⟨hdialed, _, List.mem_cons_of_mem _ List.mem_cons_self, rfl⟩
      · exact .inl hold
  | reads hreads => exact .inl (hreads.unchanged.1 ▸ hopened)

theorem node_left_moved :
    (pair.moved .right index move taken).node .left = pair.node .left := node_moved_other

theorem holds_left_moved :
    (pair.moved .right index move taken).Holds nodes .left conn ↔ pair.Holds nodes .left conn :=
  holds_moved_other

theorem AnswerTurn.holds (hturn : pair.AnswerTurn nodes task move) {action : Transport.Action}
    (htimely : pair.timely nodes (.right, action) = true)
    (haction : Transport.resumed (pair.node .right) action = some task)
    (hleft : pair.Holds nodes .left conn) (hright : pair.Holds nodes .right conn) :
    (pair.moved .right index move taken).Holds nodes .right conn := by
  rw [holds_moved]
  cases hturn with
  | accept => exact hright
  | reads hreads hkeeps =>
      rcases hreads.peers_cases with hsame | ⟨-, ⟨frames, rfl⟩, hadmits⟩ | ⟨current, heffect, -⟩
      · rwa [hsame]
      · have hjoined : pair.joined nodes = true := by
          simp only [Holds, Side.other] at hleft hright
          simp [Pair.joined, hleft, hright, PeerHandle.isSameConnection]
        cases action with
        | call => cases haction
        | resume index input =>
            have hlookup : (pair.tasks .right)[index]? = _ := haction
            simp only [Side.other] at hadmits
            simp [Pair.timely, hlookup, hadmits, hjoined, Side.other] at htimely
      · exact absurd heffect (hkeeps _ _)

def Heard (pair : Pair) (task : Task) (move : Move) (taken : ConnectionId → Nat) : Prop :=
  ∀ conn, taken conn = pair.taken .right conn ∨
    ∃ connection frames, task = .readLoop connection .selecting ∧ connection.id = conn ∧
      move.task = .readLoop connection (.handling frames)

theorem taken_moved (conn : ConnectionId) :
    (pair.moved .right index move taken).taken .right conn = taken conn := by
  simp [Pair.moved]

theorem Answers.unread {connection : Connection} {stage : ReadLoop}
    (hanswers : pair.Answers nodes .right connection stage)
    (hreads : pair.Reads nodes .right connection stage move)
    (hheard : Heard pair (.readLoop connection stage) move taken)
    (hunread : Pair.heardFrom (.readLoop connection stage) = none →
      pair.taken .right connection.id = 0)
    (hnone : Pair.heardFrom move.task = none) :
    (pair.moved .right index move taken).taken .right connection.id = 0 := by
  rw [taken_moved]
  rcases hheard connection.id with hsame | ⟨_, _, -, -, hhandling⟩
  · rw [hsame]
    refine hunread (Option.eq_none_iff_forall_ne_some.mpr fun conn hsome => ?_)
    rw [hanswers.heardFrom hreads hsome] at hnone
    cases hnone
  · rw [hhandling] at hnone
    cases hnone

theorem Reads.holds {connection : Connection} {stage : ReadLoop}
    (hreads : pair.Reads nodes .right connection stage move)
    (hkeeps : ∀ peer removed, move.effect ≠ .removePeer peer removed)
    (hkept : (pair.Holds nodes .left connection.id → pair.Holds nodes .right connection.id) ∨
      move.effect = .insertPeer ⟨nodes.ids .left, connection.id⟩)
    (hholds : (pair.moved .right index move taken).Holds nodes .left connection.id) :
    (pair.moved .right index move taken).Holds nodes .right connection.id := by
  rw [holds_moved]
  rcases hreads.peers_cases with hsame | ⟨heffect, -⟩ | ⟨current, heffect, -⟩
  · rcases hkept with hkept | heffect
    · rw [hsame]
      exact hkept (holds_left_moved.mp hholds)
    · simp [heffect, Effect.apply, Side.other]
  · simp [heffect, Effect.apply]
  · exact absurd heffect (hkeeps _ _)

theorem AnswerTurn.answering (hturn : pair.AnswerTurn nodes task move)
    (hredialing : pair.Redialing nodes) (haccounted : ∀ side, Transport.Accounted (pair.node side))
    (htask : (pair.tasks .right)[index]? = some task) (hheard : Heard pair task move taken) :
    ∀ holder ∈ move.task :: move.spawned,
      (pair.moved .right index move taken).Answering nodes holder := by
  have habandons : ∀ {connection : Connection} {stage : ReadLoop},
      (stage = .closing ∨ stage = .finished) → connection.registered = none →
      connection.id ∈ (pair.transport .left).opened →
      (∀ other ∈ pair.tasks .left, other.conn ≠ some connection.id) →
      (pair.moved .right index move taken).Answering nodes (.readLoop connection stage) :=
    fun hstage hregistered hopened habandoned =>
      .leaving hstage hregistered (by rwa [Pair.transport, node_left_moved])
        (by rwa [Pair.tasks, node_left_moved])
  cases hturn with
  | accept hdialed hfresh =>
      simp only [List.mem_cons, List.not_mem_nil, or_false, forall_eq_or_imp, forall_eq]
      refine ⟨.background rfl, .answering (.waiting (.inl rfl)) (fun _ => ?_) (by rintro ⟨⟩)⟩
      rw [taken_moved, (hheard _).resolve_right (by simp)]
      by_contra hpos
      exact hfresh (hredialing.unheard _ hpos)
  | @reads connection stage move hreads hkeeps =>
      cases hredialing.answering _ (List.mem_of_getElem? htask) with
      | background hbackground => cases hbackground
      | leaving hstage hregistered hopened habandoned =>
          rcases hstage with rfl | rfl <;> cases hreads
          case depart =>
            exact List.forall_mem_singleton.mpr
              (habandons (.inr rfl) hregistered hopened habandoned)
          case evict => exact absurd rfl (hkeeps _ _)
      | answering hanswers hunread hkept =>
          have hanswered : pair.Answered nodes .right (pair.moved .right index move taken)
              connection move := hanswers.answered hreads fun hsaid => by
            rwa [transport_moved_other]
          cases hanswered with
          | goesOn hid hnext hspawned hregistered =>
              refine List.forall_mem_cons.mpr ⟨.answering hnext (fun hnone => ?_) ?_,
                fun holder hholder => hspawned holder hholder ▸ .background rfl⟩
              · rw [hid]
                exact hanswers.unread hreads hheard hunread hnone
              · rw [hid]
                exact fun hsome => hreads.holds hkeeps ((hregistered hsome).imp hkept id)
          | lost hdropped =>
              refine List.forall_mem_singleton.mpr (habandons (.inl rfl) ?_ hdropped.1
                (hredialing.abandoned hdropped))
              cases hregistered : connection.registered with
              | none => rfl
              | some handle =>
                  obtain ⟨holder, hmem, hconn⟩ := hredialing.kept (haccounted .left)
                    (hanswers.registered hregistered).2
                  exact absurd hconn (hredialing.abandoned hdropped holder hmem)
          | refused hrefuses hregistered hspoke =>
              have hadmits := hredialing.admits (haccounted .right) htask rfl
                (by simp [Task.carried, hregistered]) hspoke
              exact absurd hrefuses (by simpa [Side.other] using hadmits)

theorem Answering.mono {position : Nat} {other : Task}
    (haccounted : Transport.Accounted (pair.node .right))
    (htask : (pair.tasks .right)[index]? = some task) (hne : position ≠ index)
    (hlookup : (pair.tasks .right)[position]? = some other)
    (hkeeps : ∀ conn, pair.Holds nodes .left conn → pair.Holds nodes .right conn →
      (pair.moved .right index move taken).Holds nodes .right conn)
    (hheard : Heard pair task move taken) (hanswering : pair.Answering nodes other) :
    (pair.moved .right index move taken).Answering nodes other := by
  cases hanswering with
  | background hbackground => exact .background hbackground
  | @answering known stage hanswers hunread hkept =>
      refine .answering (hanswers.mono fun hsaid => by rwa [transport_moved_other])
        (fun hnone => ?_) fun hsome hholds => ?_
      · rw [taken_moved]
        rcases hheard known.id with hsame | ⟨connection, frames, rfl, hid, -⟩
        · rw [hsame, hunread hnone]
        · -- one task reads from a connection
          exact absurd (haccounted.exclusive position index _ _ _ hlookup htask rfl
            (congrArg some hid)) hne
      · have hbefore := holds_left_moved.mp hholds
        exact hkeeps _ hbefore (hkept hsome hbefore)
  | leaving hstage hregistered hopened habandoned =>
      exact .leaving hstage hregistered (by rwa [Pair.transport, node_left_moved])
        (by rwa [Pair.tasks, node_left_moved])

theorem Redialing.answers (hredialing : pair.Redialing nodes)
    (haccounted : ∀ side, Transport.Accounted (pair.node side))
    (htask : (pair.tasks .right)[index]? = some task) (hturn : pair.AnswerTurn nodes task move)
    (hkeeps : ∀ conn, pair.Holds nodes .left conn → pair.Holds nodes .right conn →
      (pair.moved .right index move taken).Holds nodes .right conn)
    (hheard : Heard pair task move taken) :
    (pair.moved .right index move taken).Redialing nodes := by
  have hmem := List.mem_of_getElem? htask
  constructor
  case toUndisturbed => exact hredialing.toUndisturbed.moved hturn.unchanged.1
  case dialing =>
    rw [Pair.tasks, node_left_moved]
    refine fun holder hholder => (hredialing.dialing holder hholder).mono ?_ ?_ <;>
      rw [Pair.transport, Pair.transport, node_left_moved] <;> simp
  case answering =>
    intro holder hholder
    simp only [Pair.tasks, Pair.moved, Function.update_self] at hholder
    rcases mem_after hholder with ⟨position, hne, hlookup⟩ | hnew
    · have hanswering := hredialing.answering holder (List.mem_of_getElem? hlookup)
      exact hanswering.mono (haccounted .right) htask hne hlookup hkeeps hheard
    · exact hturn.answering hredialing haccounted htask hheard holder hnew
  case accepting =>
    refine stays_moved htask ?_ hredialing.accepting
    rintro rfl
    cases hturn with
    | accept => exact List.mem_cons_self
  case dialed =>
    intro conn hopened
    rw [transport_moved] at hopened
    rw [Pair.transport, node_left_moved]
    rcases hturn.opened_cases hopened with hold | ⟨hdialed, -⟩
    · exact hredialing.dialed hold
    · exact hdialed
  case accepted =>
    intro conn hopened
    rw [transport_moved] at hopened
    rcases hturn.opened_cases hopened with hold | ⟨-, holder, hholder, hconn⟩
    · exact exists_moved htask hturn.conn_kept (hredialing.accepted conn hold)
    · exact ⟨holder, mem_moved_of_mem htask hholder, hconn⟩
  case unheard =>
    intro conn hpos
    rw [taken_moved] at hpos
    rw [transport_moved]
    refine move.effect.opened_subset _ ?_
    rcases hheard conn with hsame | ⟨connection, frames, rfl, rfl, -⟩
    · exact hredialing.unheard conn (hsame ▸ hpos)
    · exact (haccounted .right).opened _ hmem _ rfl
  case greetings =>
    rw [Pair.transport, node_left_moved]
    exact hredialing.greetings
  case silent =>
    rw [transport_moved, hturn.unchanged.2]
    exact hredialing.silent
  case spoken =>
    rw [Pair.transport, Pair.tasks, node_left_moved]
    exact hredialing.spoken
  case entered =>
    rw [Pair.transport, Pair.tasks, node_left_moved]
    exact hredialing.entered
  case sole =>
    intro hlarger
    rw [Pair.tasks, node_left_moved]
    exact fun holder hholder handle hcarried =>
      holds_left_moved.mpr (hredialing.sole hlarger holder hholder handle hcarried)

end Pair

end LapinBeam
