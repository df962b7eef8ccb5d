import LapinBeam.Proof.DialRaceInvariant

/-!
# Simultaneous dials

A connection that is not doomed is kept on both sides. When nothing is left in flight, that means
it is registered on both.
-/

namespace LapinBeam

open TaskSystem

namespace TwoNodes

variable {nodes : TwoNodes} {pair : Pair}

/-! ### When nothing is in flight -/

section Quiescent

variable {side : Side} {index : Nat} {task : Task}

theorem stuck_of_quiescent (hquiet : pair.Quiescent nodes)
    (htask : (pair.tasks side)[index]? = some task) (input : Input)
    (hawaits : pair.awaits side task input = true)
    (hthrough : Pair.getsThrough side input = true) :
    task.move nodes.externals (pair.transport side) input = none :=
  Pair.move_eq_none (hquiet side index input ⟨task, htask, hawaits, hthrough⟩) htask

variable (hreach : nodes.Reaches pair)

include hreach

theorem heardFrom_of_taken {conn : ConnectionId} (htask : (pair.tasks side)[index]? = some task)
    (hconn : task.conn = some conn) (hpos : 0 < pair.taken side conn) :
    Pair.heardFrom task = some conn := by
  have haccounted := accounted_node hreach side
  obtain ⟨holder, hmem, hheard⟩ := (race_of_reaches hreach).heard side conn hpos
  obtain ⟨position, hlookup⟩ := List.mem_iff_getElem?.mp hmem
  have hholder := Pair.conn_of_heardFrom (haccounted.tasks holder hmem) hheard
  obtain rfl : position = index :=
    haccounted.exclusive position index holder task conn hlookup htask hholder hconn
  obtain rfl : holder = task := Option.some.inj (hlookup.symm.trans htask)
  exact hheard

theorem holds_dialed (hquiet : pair.Quiescent nodes)
    (hopened : side.conn ∈ (pair.transport side).opened) (halive : ¬ pair.Doomed nodes side.conn) :
    pair.Holds nodes side side.conn ∧ (pair.transport side).outbound side.conn ≠ [] := by
  have hrace := race_of_reaches hreach
  obtain ⟨task, hmem, hopen⟩ := (hrace.kept side side.conn hopened).resolve_left halive
  obtain ⟨index, htask⟩ := List.mem_iff_getElem?.mp hmem
  have hstuck := stuck_of_quiescent hquiet htask
  have hconn := Task.conn_of_keepsOpen hopen
  cases hrace.fine side task hmem with
  | @dial stage =>
      cases stage with
      | registering =>
          have := hstuck .go rfl rfl
          simp only [Task.move, Dial.move] at this
          split at this <;> cases this
      | handshaking => cases hstuck (.nonce (List.replicate Auth.nonceLen 0)) rfl rfl
      | sending | announcing | spawning => cases hstuck .go rfl rfl
      | _ => cases hopen
  | outbound hstage hkeeps hspoke =>
      rcases hstage with rfl | rfl
      · cases hstuck .go rfl rfl
      · exact ⟨hkeeps.resolve_right halive, hspoke⟩
  | answering hid => simp [Task.conn, hid] at hconn
  | leaving hstage hregistered hdoomed => exact absurd (Option.some.inj hconn ▸ hdoomed) halive
  | _ => cases hopen

theorem holds_accepted (hquiet : pair.Quiescent nodes)
    (hopened : side.other.conn ∈ (pair.transport side.other).opened)
    (hspoke : (pair.transport side.other).outbound side.other.conn ≠ [])
    (halive : ¬ pair.Doomed nodes side.other.conn) : pair.Holds nodes side side.other.conn := by
  have hrace := race_of_reaches hreach
  have haccepted : side.other.conn ∈ (pair.transport side).opened := by
    obtain ⟨index, htask⟩ := List.mem_iff_getElem?.mp (hrace.accepting side)
    have hstuck := stuck_of_quiescent hquiet htask (.accepted side.other.conn)
      (decide_eq_true hopened) (decide_eq_true rfl)
    simpa [Task.move, AcceptLoop.move] using hstuck
  obtain ⟨task, hmem, hopen⟩ := (hrace.kept side _ haccepted).resolve_left halive
  obtain ⟨index, htask⟩ := List.mem_iff_getElem?.mp hmem
  have hconn := Task.conn_of_keepsOpen hopen
  cases hrace.fine side task hmem with
  | dial hown => simpa using hown _ hconn
  | outbound => simp [Task.conn] at hconn
  | @answering connection stage hid hanswers hkeeps =>
      refine (hkeeps (hanswers.admitted_of_stuck (stuck_of_quiescent hquiet htask)
        (hid ▸ hspoke) fun hunheard => ?_)).resolve_right halive
      by_contra hpos
      have hheard := heardFrom_of_taken hreach htask rfl (Nat.pos_of_ne_zero hpos)
      rw [hunheard] at hheard
      cases hheard
  | leaving hstage hregistered hdoomed => exact absurd (Option.some.inj hconn ▸ hdoomed) halive
  | _ => cases hopen

theorem opened_of_desired (hquiet : pair.Quiescent nodes)
    (hdesired : nodes.ids side.other ∈ (pair.transport side).desired) :
    side.conn ∈ (pair.transport side).opened := by
  rcases (race_of_reaches hreach).pursued side hdesired with hopened | hconnecting
  · exact hopened
  · obtain ⟨index, htask⟩ := List.mem_iff_getElem?.mp hconnecting
    have hstuck := stuck_of_quiescent hquiet htask (.connected side.conn) rfl (decide_eq_true rfl)
    simpa [Task.move, Dial.move] using hstuck

theorem cause_of_dials (hquiet : pair.Quiescent nodes) (hmem : task ∈ pair.tasks side)
    (hdials : task.dials = true) :
    nodes.ids side.other ∈ (pair.transport side).desired ∨
      side.other.conn ∈ (pair.transport side).opened := by
  have hrace := race_of_reaches hreach
  have hopened : task.conn = some side.conn →
      nodes.ids side.other ∈ (pair.transport side).desired := fun hconn =>
    hrace.wanted side ((accounted_node hreach side).opened task hmem _ hconn)
  obtain ⟨index, htask⟩ := List.mem_iff_getElem?.mp hmem
  cases hrace.fine side task hmem with
  | @dial stage hconn hgreets hkeeps hdesired =>
      cases stage with
      | checkingPeer =>
          have := stuck_of_quiescent hquiet htask .go rfl rfl
          simp only [Task.move, Dial.move] at this
          split at this <;> cases this
      | desiring => cases stuck_of_quiescent hquiet htask .go rfl rfl
      | connecting => exact .inl (hdesired rfl)
      | _ => exact .inl (hopened (congrArg some (hconn _ rfl)))
  | dialed hcause => exact hcause
  | returned hcause => exact hcause
  | _ => cases hdials

end Quiescent

/-- Both sides end up with the two ends of one connection, that of the smaller id if it dialed past its check. -/
theorem dial_race_agrees (nodes : TwoNodes) {pair : Pair} (hreach : nodes.Reaches pair)
    (hquiet : pair.Quiescent nodes) (hdialed : ∃ side, ∃ task ∈ pair.tasks side, task.dials = true) :
    ∃ conn, (∀ side : Side, (pair.transport side).peers (nodes.ids side.other) =
        some ⟨nodes.ids side.other, conn⟩) ∧
      (nodes.ids nodes.smaller.other ∈ (pair.transport nodes.smaller).desired →
        conn = nodes.smaller.conn) := by
  have hrace := race_of_reaches hreach
  -- a connection that is not doomed is registered on both sides
  have hagree : ∀ side : Side, nodes.ids side.other ∈ (pair.transport side).desired →
      ¬ pair.Doomed nodes side.conn → ∀ side', pair.Holds nodes side' side.conn := by
    intro side hdesired halive side'
    have hopened := opened_of_desired hreach hquiet hdesired
    obtain ⟨hholds, hspoke⟩ := holds_dialed hreach hquiet hopened halive
    rcases side.eq_or_eq_other side' with rfl | rfl
    · exact hholds
    · have haccepted : pair.Holds nodes side.other side.other.other.conn :=
        holds_accepted hreach hquiet (by rwa [Side.other_other]) (by rwa [Side.other_other])
          (by rwa [Side.other_other])
      rwa [Side.other_other] at haccepted
  by_cases hpast : nodes.ids nodes.smaller.other ∈ (pair.transport nodes.smaller).desired
  · refine ⟨_, hagree nodes.smaller hpast fun hdoomed => ?_, fun _ => rfl⟩
    simpa using hdoomed.1
  · -- then it has opened no connection, and the other side dialed
    have hunopened : nodes.smaller.conn ∉ (pair.transport nodes.smaller).opened := fun hopened =>
      hpast (hrace.wanted _ hopened)
    have hlarger : nodes.ids nodes.smaller.other.other ∈
        (pair.transport nodes.smaller.other).desired := by
      obtain ⟨side, task, hmem, hdials⟩ := hdialed
      have hcause := cause_of_dials hreach hquiet hmem hdials
      rcases nodes.smaller.eq_or_eq_other side with rfl | rfl
      · exact hrace.wanted _ (hrace.dialed _ (hcause.resolve_left hpast))
      · refine hcause.resolve_right fun haccepted => hunopened ?_
        simpa using hrace.dialed _ haccepted
    refine ⟨_, hagree nodes.smaller.other hlarger fun hdoomed => ?_,
      fun hdesired => absurd hdesired hpast⟩
    exact hunopened (hrace.entry (accounted_node hreach _) hdoomed.2).1

end TwoNodes

namespace Pair

def rests (pair : Pair) (side : Side) : Task → Bool
  | .acceptLoop .accepting =>
      side.other.conn ∉ (pair.transport side.other).opened ||
        side.other.conn ∈ (pair.transport side).opened
  | .reconnectSupervisor _ _ | .heartbeatLoop _ _ | .connect _ _ | .readLoop _ .finished => true
  | .readLoop connection .selecting =>
      pair.unread side connection.id = [] && !decide (pair.Dropped side.other connection.id)
  | _ => false

theorem readLoop_rests {nodes : TwoNodes} {pair : Pair} {side : Side} {connection : Connection}
    {stage : ReadLoop} {input : Input}
    (hrest : pair.rests side (.readLoop connection stage) = true)
    (hawaits : pair.awaits side (.readLoop connection stage) input = true) :
    stage.move nodes.externals (pair.transport side) connection input = none := by
  cases stage with
  | selecting =>
      simp only [rests, Bool.and_eq_true, decide_eq_true_eq, Bool.not_eq_true',
        decide_eq_false_iff_not] at hrest
      rcases readLoop_of_awaits hawaits with rfl | ⟨frames, rfl, hne, hread⟩ | ⟨rfl, hdropped⟩
      · rfl
      · rw [hrest.1] at hread
        exact absurd (List.prefix_nil.mp hread) hne
      · exact absurd hdropped hrest.2
  | finished => rcases readLoop_of_awaits hawaits with rfl | ⟨frames, rfl, -⟩ | ⟨rfl, -⟩ <;> rfl
  | _ => cases hrest

theorem quiescent_of_rests {nodes : TwoNodes} {pair : Pair}
    (hrests : ∀ side, (pair.tasks side).all (pair.rests side) = true) : pair.Quiescent nodes := by
  intro side index input hoffers
  refine step_eq_none fun task htask => ?_
  have hrest := List.all_eq_true.mp (hrests side) task (List.mem_of_getElem? htask)
  obtain ⟨hawaits, hthrough⟩ := hoffers.awaits htask
  cases task with
  | acceptLoop stage =>
      cases stage with
      | accepting =>
          cases input with
          | accepted conn =>
              obtain rfl : conn = side.other.conn := of_decide_eq_true hthrough
              have hopened : side.other.conn ∈ (pair.transport side.other).opened :=
                of_decide_eq_true hawaits
              simpa [rests, hopened, Task.move, AcceptLoop.move] using hrest
          | _ => cases hawaits
      | returned => cases hrest
  | readLoop connection stage => exact readLoop_rests hrest hawaits
  | reconnectSupervisor | heartbeatLoop | connect => cases input <;> cases hawaits
  | _ => cases hrest

end Pair

namespace Fixed

def nodes : TwoNodes where
  ids
    | .left => ⟨"a", "h", 1⟩
    | .right => ⟨"b", "h", 2⟩
  configs _ := {}
  inboxes _ _ := { capacity := 1 }
  externals := ⟨fun _ _ => List.replicate Auth.proofLen 0, fun _ => none, fun _ => []⟩
  valid side := by cases side <;> exact ⟨by decide, by decide, by decide⟩
  distinct side := by cases side <;> decide
  secret _ := rfl
  proofLen _ _ := List.length_replicate

def bothDial : List Pair.Action :=
  let go side index : Pair.Action := (side, .resume index .go)
  let nonce := .nonce (List.replicate Auth.nonceLen 0)
  [(.left, .call (.dial .connect ⟨"b", "h", 2⟩ .checkingPeer)), go .left 2, go .left 2,
    (.left, .resume 2 (.connected 1)),
    (.right, .call (.dial .connect ⟨"a", "h", 1⟩ .checkingPeer)), go .right 2, go .right 2,
    (.right, .resume 2 (.connected 2)), go .left 2, go .right 2, (.right, .resume 2 nonce),
    go .right 2, go .right 2, go .right 2, go .right 2, go .right 3,
    (.left, .resume 0 (.accepted 2)), go .left 3,
    (.left, .resume 3 (.read (.frames [.handshake 1 "b@h:2"]))), go .left 3, go .left 3,
    (.right, .resume 3 (.read .eof)), go .right 3, go .right 3,
    (.left, .resume 2 nonce), go .left 2, go .left 2, go .left 2, go .left 2, go .left 4,
    (.right, .resume 0 (.accepted 1)), go .right 5,
    (.right, .resume 5 (.read (.frames [.handshake 1 "a@h:1"]))), go .right 5, go .right 5,
    go .right 5, go .right 5]

end Fixed

namespace TwoNodes

theorem dial_race_agrees_both :
    ∃ pair conn, Fixed.nodes.Reaches pair ∧ pair.Quiescent Fixed.nodes ∧
      ∀ side : Side, (pair.transport side).peers (Fixed.nodes.ids side.other) =
        some ⟨Fixed.nodes.ids side.other, conn⟩ := by
  have hrun : (Machine.runWhere (fun pair action => Pair.step pair Fixed.nodes.externals action)
      (fun pair action => pair.Offers action.1 Fixed.nodes action.2) Fixed.nodes.start
      Fixed.bothDial).map
        (fun pair => ((pair.tasks .left).all (pair.rests .left),
          (pair.tasks .right).all (pair.rests .right), (pair.tasks .left).any Task.dials)) =
      some (true, true, true) := by
    decide +kernel
  obtain ⟨pair, hreach, hobserved⟩ := Machine.exists_reachableWhere hrun
  obtain ⟨hleft, hright, hdials⟩ := Prod.mk.inj hobserved |>.imp_right Prod.mk.inj
  have hquiet : pair.Quiescent Fixed.nodes := Pair.quiescent_of_rests fun side => by
    cases side
    · exact hleft
    · exact hright
  obtain ⟨task, hmem, htask⟩ := List.any_eq_true.mp hdials
  obtain ⟨conn, hagree, -⟩ := dial_race_agrees Fixed.nodes hreach hquiet ⟨_, task, hmem, htask⟩
  exact ⟨pair, conn, hreach, hquiet, hagree⟩

end TwoNodes

end LapinBeam
