import LapinBeam.Proof.RedialingInvariant
import LapinBeam.Proof.SimultaneousDial

/-!
# Repeated dials

Once nothing is in flight, the left side's entry has been heard of by the right side, which has
registered it. That the right side still has it then is what timely steps are about.
-/

namespace LapinBeam

open TaskSystem

namespace TwoNodes

variable {nodes : TwoNodes} {pair next : Pair}

theorem redialing_start : nodes.start.Redialing nodes where
  toUndisturbed := undisturbed_start
  dialing task hmem := by
    rcases List.mem_pair.mp hmem with rfl | rfl <;> exact .unconnected ⟨rfl, nofun⟩
  answering task hmem := by
    rcases List.mem_pair.mp hmem with rfl | rfl <;> exact .background rfl
  accepting := List.mem_cons_self
  dialed := nofun
  accepted := nofun
  unheard conn hpos := absurd rfl hpos
  greetings := nofun
  silent _ := rfl
  spoken conn hspoke := absurd rfl hspoke
  entered task hmem hcarried := by
    rcases List.mem_pair.mp hmem with rfl | rfl <;> cases hcarried
  sole hlarger task hmem handle hcarried := by
    rcases List.mem_pair.mp hmem with rfl | rfl <;> cases hcarried

theorem redialing_called (hredialing : pair.Redialing nodes) :
    (pair.called .left (.dial .connect (nodes.ids .right) .checkingPeer)).Redialing nodes := by
  set next := pair.called .left (.dial .connect (nodes.ids .right) .checkingPeer)
  have htransport : ∀ side, next.transport side = pair.transport side := Pair.transport_called
  have htasks : ∀ task ∈ next.tasks .left, task ∈ pair.tasks .left ∨
      task = .dial .connect (nodes.ids .right) .checkingPeer := fun task hmem =>
    (Pair.mem_called hmem).imp_right And.right
  have hright : next.tasks .right = pair.tasks .right := rfl
  have hholds : ∀ side conn, next.Holds nodes side conn ↔ pair.Holds nodes side conn :=
    fun side conn => by rw [Pair.Holds, Pair.Holds, htransport]
  constructor
  case toUndisturbed => exact hredialing.toUndisturbed.called
  case dialing =>
    intro task hmem
    rcases htasks task hmem with hold | rfl
    · exact (hredialing.dialing task hold).mono (by rw [htransport]; exact id)
        (by rw [htransport]; exact id)
    · exact .dial trivial
  case answering =>
    intro task hmem
    cases hredialing.answering task hmem with
    | background hbackground => exact .background hbackground
    | answering hanswers hunread hkept =>
        exact .answering (hanswers.mono (by rw [htransport]; exact id)) hunread
          (by rwa [hholds, hholds])
    | leaving hstage hregistered hopened habandoned =>
        refine .leaving hstage hregistered (by rwa [htransport]) fun task hmem => ?_
        rcases htasks task hmem with hold | rfl
        · exact habandoned task hold
        · simp [Task.conn, Dial.conn]
  case spoken =>
    intro conn hspoke
    rw [htransport] at hspoke
    obtain ⟨task, hmem, hcarried⟩ := hredialing.spoken conn hspoke
    exact ⟨task, Pair.tasks_subset_called _ hmem, hcarried⟩
  case entered =>
    intro task hmem hcarried
    rw [htransport]
    rcases htasks task hmem with hold | rfl
    · exact hredialing.entered task hold hcarried
    · cases hcarried
  case sole =>
    intro hlarger task hmem handle hcarried
    rw [hholds]
    rcases htasks task hmem with hold | rfl
    · exact hredialing.sole hlarger task hold handle hcarried
    · cases hcarried
  all_goals simp only [htransport, hright]
  case accepting => exact hredialing.accepting
  case dialed => exact hredialing.dialed
  case accepted => exact hredialing.accepted
  case unheard => exact hredialing.unheard
  case greetings => exact hredialing.greetings
  case silent => exact hredialing.silent

theorem redialing_step {allowed : Pair → Pair.Action → Prop}
    (hreach : Machine.ReachableWhere (fun pair action => Pair.step pair nodes.externals action)
      allowed nodes.start pair) (hredialing : pair.Redialing nodes) {action : Pair.Action}
    (hredials : pair.Redials action.1 nodes action.2) (htimely : pair.timely nodes action = true)
    (hstep : pair.step nodes.externals action = some next) : next.Redialing nodes := by
  obtain ⟨side, action⟩ := action
  have haccounted := accounted_node hreach
  rcases Pair.step_cases hstep with
    ⟨task, rfl, rfl⟩ | ⟨index, input, task, move, rfl, htask, hmove, rfl⟩
  · obtain ⟨rfl, rfl⟩ := hredials
    exact redialing_called hredialing
  have hmem := List.mem_of_getElem? htask
  have hawaits := hredials.awaits htask
  cases side with
  | left => exact hredialing.dials (haccounted .left) htask (hredialing.dialTurn hmem hawaits hmove)
  | right =>
      have hturn := hredialing.answerTurn hmem hawaits hmove
      exact hredialing.answers haccounted htask hturn (fun conn => hturn.holds htimely htask)
        (Pair.takes_cases htask hmove)

theorem redialing_of_timely (hreach : nodes.RedialedTimely pair) : pair.Redialing nodes := by
  induction hreach with
  | start => exact redialing_start
  | step action hbefore hallowed hstep ih =>
      exact redialing_step hbefore ih hallowed.1 hallowed.2 hstep

/-! ### When nothing is in flight -/

section Settled

variable {side : Side} {task : Task}

theorem move_eq_none_of_settled (hsettled : pair.Settled nodes) (hmem : task ∈ pair.tasks side)
    (input : Input) (hawaits : pair.awaits side task input = true) :
    task.move nodes.externals (pair.transport side) input = none := by
  obtain ⟨index, htask⟩ := List.mem_iff_getElem?.mp hmem
  exact Pair.move_eq_none (hsettled side index input ⟨task, htask, hawaits⟩) htask

theorem spoke_of_carried (hredialing : pair.Redialing nodes) (hsettled : pair.Settled nodes)
    {handle : PeerHandle} (hmem : task ∈ pair.tasks .left) (hcarried : task.carried = some handle) :
    (pair.transport .left).outbound handle.tx ≠ [] := by
  have hstuck := move_eq_none_of_settled hsettled hmem
  cases hredialing.dialing task hmem with
  | unconnected hunconnected => simp [Task.carried_of_conn hunconnected.idle] at hcarried
  | @dial caller stage =>
      cases stage with
      | handshaking =>
          have := hstuck (.nonce (List.replicate Auth.nonceLen 0)) rfl
          cases caller <;> cases this
      | sending | announcing | spawning =>
          have := hstuck .go rfl
          cases caller <;> cases this
      | _ => cases hcarried
  | listening hstage hspoke =>
      rcases hstage with rfl | rfl <;> cases hcarried <;> exact hspoke

theorem admitted_of_spoke (hredialing : pair.Redialing nodes) (hsettled : pair.Settled nodes)
    (haccounted : Transport.Accounted (pair.node .left)) {conn : ConnectionId}
    (hspoke : (pair.transport .left).outbound conn ≠ [])
    (hholds : pair.Holds nodes .left conn) : pair.Holds nodes .right conn := by
  obtain ⟨dialer, hdialer, hconn⟩ := hredialing.kept haccounted hspoke
  have haccepted : conn ∈ (pair.transport .right).opened := by
    have hstuck := move_eq_none_of_settled hsettled hredialing.accepting (.accepted conn)
      (decide_eq_true (haccounted.opened dialer hdialer conn hconn))
    simpa [Task.move, AcceptLoop.move] using hstuck
  obtain ⟨task, hmem, hsame⟩ := hredialing.accepted conn haccepted
  cases hredialing.answering task hmem with
  | background hbackground => simp [Task.conn_of_background hbackground] at hsame
  | @answering connection stage hanswers hunread hkept =>
      obtain rfl : connection.id = conn := Option.some.inj hsame
      have hadmitted := hanswers.admitted_of_stuck
        (fun input hawaits _ => move_eq_none_of_settled hsettled hmem input hawaits) hspoke hunread
      exact hkept hadmitted hholds
  | leaving hstage hregistered hopened habandoned =>
      exact absurd (hconn.trans hsame.symm) (habandoned dialer hdialer)

end Settled

/-- In a settled state both entries are the two ends of one connection. -/
theorem repeated_dials_agree (nodes : TwoNodes) {pair : Pair} (hreach : nodes.RedialedTimely pair)
    (hsettled : pair.Settled nodes) :
    ((pair.transport .left).peers (nodes.ids .right)).map PeerHandle.tx =
        ((pair.transport .right).peers (nodes.ids .left)).map PeerHandle.tx ∧
      ∀ task ∈ pair.tasks .left, task.succeeded = true →
        (pair.transport .left).hasPeer (nodes.ids .right) = true := by
  have hredialing := redialing_of_timely hreach
  have haccounted := accounted_node hreach
  constructor
  · cases hleft : (pair.transport .left).peers (nodes.ids .right) with
    | some handle =>
        obtain ⟨peerId, conn⟩ := handle
        obtain rfl : peerId = nodes.ids .right := (haccounted .left).coherent.keyed hleft
        obtain ⟨position, task, hlookup, hcarried⟩ := (haccounted .left).carried hleft
        have hspoke :=
          spoke_of_carried hredialing hsettled (List.mem_of_getElem? hlookup) hcarried
        have hright := admitted_of_spoke hredialing hsettled (haccounted .left) hspoke hleft
        simp only [Pair.Holds, Side.other] at hright
        rw [hright]
        rfl
    | none =>
        cases hright : (pair.transport .right).peers (nodes.ids .left) with
        | none => rfl
        | some handle =>
            -- the right side has heard of it from a dial that put an entry in
            have hspoke := hredialing.answered (haccounted .right) hright
            obtain ⟨task, hmem, hcarried⟩ := hredialing.spoken _ hspoke
            have hpeer := hredialing.entered task hmem (by rw [hcarried]; rfl)
            rw [Transport.hasPeer, hleft] at hpeer
            cases hpeer
  · intro task hmem hsucceeded
    cases hredialing.dialing task hmem with
    | unconnected hunconnected => exact hunconnected.present hsucceeded
    | _ => cases hsucceeded

end TwoNodes

namespace Pair

def settles (pair : Pair) (side : Side) : Task → Bool
  | .acceptLoop .accepting =>
      (pair.transport side.other).opened.all fun conn => conn ∈ (pair.transport side).opened
  | .reconnectLoop _ _ .returned => true
  | task => pair.rests side task

theorem settled_of_settles {nodes : TwoNodes} {pair : Pair}
    (hsettles : ∀ side, (pair.tasks side).all (pair.settles side) = true) : pair.Settled nodes := by
  intro side index input hredials
  refine step_eq_none fun task htask => ?_
  have hawaits := hredials.awaits htask
  have hrest := List.all_eq_true.mp (hsettles side) task (List.mem_of_getElem? htask)
  cases task with
  | acceptLoop stage =>
      cases stage with
      | accepting =>
          cases input with
          | accepted conn =>
              simp only [settles, List.all_eq_true, decide_eq_true_eq] at hrest
              simp [Task.move, AcceptLoop.move, hrest conn (of_decide_eq_true hawaits)]
          | _ => cases hawaits
      | returned => cases hrest
  | readLoop connection stage => exact readLoop_rests hrest hawaits
  | reconnectLoop peer attempts stage =>
      cases stage with
      | returned => rfl
      | _ => cases hrest
  | reconnectSupervisor | heartbeatLoop | connect => cases input <;> cases hawaits
  | _ => cases hrest

end Pair

namespace Fixed

/-- Two overlapping calls of `connect`: the second dial replaces the entry of the first, and both connections are accepted. -/
def twoDials : List Pair.Action :=
  let go side index : Pair.Action := (side, .resume index .go)
  let dial : Pair.Action := (.left, .call (.dial .connect ⟨"b", "h", 2⟩ .checkingPeer))
  let nonce := .nonce (List.replicate Auth.nonceLen 0)
  [dial, dial, go .left 2, go .left 3, go .left 2, go .left 3, (.left, .resume 2 (.connected 1)),
    (.left, .resume 3 (.connected 2)), go .left 2, go .left 3, (.left, .resume 2 nonce), go .left 2,
    go .left 2, go .left 2, go .left 2, (.left, .resume 3 nonce), go .left 3, go .left 3, go .left 3,
    go .left 3, go .left 4, go .left 6, (.right, .resume 0 (.accepted 1)),
    (.right, .resume 0 (.accepted 2)), go .right 2, go .right 3]

def answer (index : Nat) (msgId : UInt64) : List Pair.Action :=
  [(.right, .resume index (.read (.frames [.handshake msgId "a@h:1"]))),
    (.right, .resume index .go), (.right, .resume index .go), (.right, .resume index .go),
    (.right, .resume index .go)]

end Fixed

namespace TwoNodes

theorem repeated_dials_agree_ordered :
    ∃ pair, Fixed.nodes.RedialedTimely pair ∧ pair.Settled Fixed.nodes ∧
      ((pair.transport .left).peers (Fixed.nodes.ids .right)).map PeerHandle.tx = some 2 ∧
      ((pair.transport .left).peers (Fixed.nodes.ids .right)).map PeerHandle.tx =
        ((pair.transport .right).peers (Fixed.nodes.ids .left)).map PeerHandle.tx := by
  have hrun : (Machine.runWhere (fun pair action => Pair.step pair Fixed.nodes.externals action)
      (fun pair action => pair.Redials action.1 Fixed.nodes action.2 ∧
        pair.timely Fixed.nodes action = true) Fixed.nodes.start
      (Fixed.twoDials ++ Fixed.answer 2 1 ++ Fixed.answer 3 2)).map
        (fun pair => ((pair.tasks .left).all (pair.settles .left),
          (pair.tasks .right).all (pair.settles .right),
          ((pair.transport .left).peers (Fixed.nodes.ids .right)).map PeerHandle.tx)) =
      some (true, true, some 2) := by
    decide +kernel
  obtain ⟨pair, hreach, hobserved⟩ := Machine.exists_reachableWhere hrun
  obtain ⟨hleft, hright, hentry⟩ := Prod.mk.inj hobserved |>.imp_right Prod.mk.inj
  have hsettled : pair.Settled Fixed.nodes := Pair.settled_of_settles fun side => by
    cases side
    · exact hleft
    · exact hright
  exact ⟨pair, hreach, hsettled, hentry, (repeated_dials_agree Fixed.nodes hreach hsettled).1⟩

/-- The right side reads the first dial's handshake last and goes back to that connection. -/
theorem repeated_dials_disagree :
    ∃ pair, Fixed.nodes.Redialed pair ∧ pair.Settled Fixed.nodes ∧
      ((pair.transport .left).peers (Fixed.nodes.ids .right)).map PeerHandle.tx = some 2 ∧
      ((pair.transport .right).peers (Fixed.nodes.ids .left)).map PeerHandle.tx = some 1 := by
  have hrun : (Machine.runWhere (fun pair action => Pair.step pair Fixed.nodes.externals action)
      (fun pair action => pair.Redials action.1 Fixed.nodes action.2) Fixed.nodes.start
      (Fixed.twoDials ++ Fixed.answer 3 2 ++ Fixed.answer 2 1)).map
        (fun pair => ((pair.tasks .left).all (pair.settles .left),
          (pair.tasks .right).all (pair.settles .right),
          ((pair.transport .left).peers (Fixed.nodes.ids .right)).map PeerHandle.tx,
          ((pair.transport .right).peers (Fixed.nodes.ids .left)).map PeerHandle.tx)) =
      some (true, true, some 2, some 1) := by
    decide +kernel
  obtain ⟨pair, hreach, hobserved⟩ := Machine.exists_reachableWhere hrun
  obtain ⟨hleft, hright, hentries⟩ := Prod.mk.inj hobserved |>.imp_right Prod.mk.inj
  refine ⟨pair, hreach, Pair.settled_of_settles fun side => ?_, Prod.mk.inj hentries⟩
  cases side
  · exact hleft
  · exact hright

end TwoNodes

end LapinBeam
