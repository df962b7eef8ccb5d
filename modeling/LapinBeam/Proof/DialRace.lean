import LapinBeam.Proof.Introduction

/-!
# The race of two dials

The connection dialed by the smaller id wins on both sides. Once its dialer has registered it
(`Won`), its entry there never changes again and the other connection is doomed: either end of it
may be refused, overwritten or cleaned up. Until then nothing of the other connection is ever
closed. `Fine` says what each task may be doing, `Turn` what a step of the race can do.
-/

namespace LapinBeam

namespace Pair

variable (pair : Pair) (nodes : TwoNodes)

def Won : Prop :=
  pair.Holds nodes nodes.smaller nodes.smaller.conn

def Doomed (conn : ConnectionId) : Prop :=
  conn = nodes.smaller.other.conn ∧ pair.Won nodes

def Keeps (side : Side) (conn : ConnectionId) : Prop :=
  pair.Holds nodes side conn ∨ pair.Doomed nodes conn

inductive Fine (side : Side) : Task → Prop
  | accepting : Fine side (.acceptLoop .accepting)
  | listening {cursor} : Fine side (.reconnectSupervisor cursor .listening)
  | heartbeat {peer} : Fine side (.heartbeatLoop peer .spawned)
  | dial {stage} (hconn : ∀ conn, stage.conn = some conn → conn = side.conn)
      (hgreets : pair.Greets nodes side stage)
      (hkeeps : stage.registered.isSome = true → pair.Keeps nodes side side.conn)
      (hdesired : stage = .connecting → nodes.ids side.other ∈ (pair.transport side).desired) :
      Fine side (.dial .connect (nodes.ids side.other) stage)
  | dialed (hcause : nodes.ids side.other ∈ (pair.transport side).desired ∨
        side.other.conn ∈ (pair.transport side).opened) :
      Fine side (.dialed .connect (nodes.ids side.other) true)
  | returned (hcause : nodes.ids side.other ∈ (pair.transport side).desired ∨
        side.other.conn ∈ (pair.transport side).opened) :
      Fine side (.connect (nodes.ids side.other) true)
  | outbound {cursor stage} (hstage : stage = .spawned ∨ stage = .selecting)
      (hkeeps : pair.Keeps nodes side side.conn)
      (hspoke : (pair.transport side).outbound side.conn ≠ []) :
      Fine side (.readLoop ⟨side.conn, false, some ⟨nodes.ids side.other, side.conn⟩, cursor⟩ stage)
  | answering {connection stage} (hid : connection.id = side.other.conn)
      (hanswers : pair.Answers nodes side connection stage)
      (hkeeps : connection.registered.isSome = true → pair.Keeps nodes side side.other.conn) :
      Fine side (.readLoop connection stage)
  | leaving {connection stage}
      (hstage : stage = .closing ∨ stage = .finished ∨
        ∃ removed, stage = .emitting (nodes.ids side.other) removed)
      (hregistered : ∀ handle, connection.registered = some handle →
        handle = ⟨nodes.ids side.other, connection.id⟩)
      (hdoomed : pair.Doomed nodes connection.id) : Fine side (.readLoop connection stage)

inductive Turn (side : Side) : Task → Move → Prop
  | accept (hdialed : side.other.conn ∈ (pair.transport side.other).opened)
      (hfresh : side.other.conn ∉ (pair.transport side).opened) :
      Turn side (.acceptLoop .accepting)
        ⟨.openConnection side.other.conn, .acceptLoop .accepting,
          [.readLoop ⟨side.other.conn, true, none, 0⟩ .spawned]⟩
  | dials {stage move} (hdials : pair.Dials nodes side .connect stage move)
      (hown : ∀ conn, move.effect = .openConnection conn → conn = side.conn)
      (hthrough : move.task ≠ .dialed .connect (nodes.ids side.other) false) :
      Turn side (.dial .connect (nodes.ids side.other) stage) move
  | returned :
      Turn side (.dialed .connect (nodes.ids side.other) true)
        ⟨.skip, .connect (nodes.ids side.other) true, []⟩
  | reads {connection stage move} (hreads : pair.Reads nodes side connection stage move) :
      Turn side (.readLoop connection stage) move

structure Race : Prop extends pair.Undisturbed nodes where
  fine : ∀ side, ∀ task ∈ pair.tasks side, pair.Fine nodes side task
  accepting : ∀ side, .acceptLoop .accepting ∈ pair.tasks side
  wanted : ∀ side, side.conn ∈ (pair.transport side).opened →
    nodes.ids side.other ∈ (pair.transport side).desired
  pursued : ∀ side, nodes.ids side.other ∈ (pair.transport side).desired →
    side.conn ∈ (pair.transport side).opened ∨
      .dial .connect (nodes.ids side.other) .connecting ∈ pair.tasks side
  dialed : ∀ side, side.other.conn ∈ (pair.transport side).opened →
    side.other.conn ∈ (pair.transport side.other).opened
  greetings : ∀ side, ∀ msg ∈ (pair.transport side).outbound side.conn, nodes.Greeting side msg
  silent : ∀ side, (pair.transport side).outbound side.other.conn = []
  told : (pair.transport nodes.smaller).outbound nodes.smaller.conn ≠ [] → pair.Won nodes
  agreed : pair.Holds nodes nodes.smaller.other nodes.smaller.conn → pair.Won nodes
  kept : ∀ side conn, conn ∈ (pair.transport side).opened →
    pair.Doomed nodes conn ∨ ∃ task ∈ pair.tasks side, task.keepsOpen = some conn
  heard : ∀ side conn, 0 < pair.taken side conn →
    ∃ task ∈ pair.tasks side, heardFrom task = some conn

variable {pair nodes} {side : Side} {task : Task} {move : Move}

theorem Race.unsent (hrace : pair.Race nodes) :
    (pair.transport side.other).outbound side.conn = [] := by
  simpa using hrace.silent side.other

section Inputs

variable {index : Nat} {input : Input}

theorem Offers.awaits (hoffers : pair.Offers side nodes (.resume index input))
    (htask : (pair.tasks side)[index]? = some task) :
    pair.awaits side task input = true ∧ getsThrough side input = true := by
  obtain ⟨found, hfound, hawaits⟩ := hoffers
  obtain rfl : task = found := Option.some.inj (htask.symm.trans hfound)
  exact hawaits

theorem own_of_getsThrough {externals : Externals} {transport : Transport} {caller : Dialer}
    {peer : NodeId} {stage : Dial} (hthrough : getsThrough side input = true)
    (hmove : stage.move externals transport caller peer input = some move) :
    (∀ conn, move.effect = .openConnection conn → conn = side.conn) ∧
      move.task ≠ .dialed caller peer false := by
  revert hmove
  fun_cases Dial.move <;> rintro ⟨⟩ <;> simp_all [getsThrough]

theorem Race.turn (hrace : pair.Race nodes) (htask : (pair.tasks side)[index]? = some task)
    (hoffers : pair.Offers side nodes (.resume index input))
    (hmove : task.move nodes.externals (pair.transport side) input = some move) :
    pair.Turn nodes side task move := by
  obtain ⟨hawaits, hthrough⟩ := hoffers.awaits htask
  cases hrace.fine side task (List.mem_of_getElem? htask) with
  | accepting =>
      cases input with
      | accepted conn =>
          obtain rfl : conn = side.other.conn := of_decide_eq_true hthrough
          simp only [Task.move, AcceptLoop.move, Option.ite_none_left_eq_some,
            Option.some.injEq] at hmove
          obtain ⟨hfresh, rfl⟩ := hmove
          exact .accept (of_decide_eq_true hawaits) hfresh
      | _ => cases hawaits
  | @dial stage =>
      have hdial : stage.move nodes.externals (pair.transport side) .connect
          (nodes.ids side.other) input = some move := by
        cases input <;> exact hmove
      obtain ⟨hown, hok⟩ := own_of_getsThrough hthrough hdial
      exact .dials (hrace.toUndisturbed.dials hawaits hdial) hown hok
  | dialed =>
      cases input <;> cases hawaits
      cases hmove
      exact .returned
  | listening | heartbeat | returned => cases input <;> cases hawaits
  | outbound hstage =>
      refine .reads ?_
      rcases hstage with rfl | rfl
      · cases go_of_move hawaits (by simp) hmove
        exact .subscribe
      · exact reads_selecting (by simp [hrace.unsent]) hawaits hmove
  | answering hid hanswers =>
      exact .reads (hanswers.reads hrace.toUndisturbed (hid ▸ hrace.greetings _) hawaits hmove)
  | leaving hstage hregistered => exact .reads (reads_leaving hstage hregistered hawaits hmove)

end Inputs

end Pair

end LapinBeam
