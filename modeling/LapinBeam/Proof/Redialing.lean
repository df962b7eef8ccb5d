import LapinBeam.Proof.Introduction
import LapinBeam.Transport.Redial

/-!
# The steps of a node that dials again and again, and of the node it dials

`Dialing` says what each task of the left side may be doing, `Answering` what each task of the right
side may. Nothing is ever taken out of a peers map here: the left side's read loops only listen, and
the right side leaves a connection only when the dial that opened it gave way.
-/

namespace LapinBeam

def Task.unconnected (peer : NodeId) : Task → Bool
  | .dialed _ target _ | .connect target _ | .reconnectLoop target _ _ => target = peer
  | task => task.background

theorem Task.carried_of_conn {task : Task} (hconn : task.conn = none) : task.carried = none := by
  cases task with
  | dial caller peer stage => cases stage <;> first | rfl | cases hconn
  | readLoop => cases hconn
  | _ => rfl

def Effect.inert : Effect → Bool
  | .skip | .desire _ | .undesire _ | .emit _ _ | .takeMsgId => true
  | _ => false

namespace Pair

variable (pair : Pair) (nodes : TwoNodes) {caller : Dialer} {ok : Bool}

structure Unconnected (task : Task) : Prop where
  aim : task.unconnected (nodes.ids .right) = true
  present : task.succeeded = true → (pair.transport .left).hasPeer (nodes.ids .right) = true

inductive Dialing : Task → Prop
  | unconnected {task} (hunconnected : pair.Unconnected nodes task) : Dialing task
  | dial {caller stage} (hgreets : pair.Greets nodes .left stage) :
      Dialing (.dial caller (nodes.ids .right) stage)
  | listening {conn cursor stage} (hstage : stage = .spawned ∨ stage = .selecting)
      (hspoke : (pair.transport .left).outbound conn ≠ []) :
      Dialing (.readLoop ⟨conn, false, some ⟨nodes.ids .right, conn⟩, cursor⟩ stage)

inductive Answering : Task → Prop
  | background {task} (hbackground : task.background = true) : Answering task
  | answering {connection stage} (hanswers : pair.Answers nodes .right connection stage)
      (hunread : heardFrom (.readLoop connection stage) = none →
        pair.taken .right connection.id = 0)
      (hkept : connection.registered.isSome = true →
        pair.Holds nodes .left connection.id → pair.Holds nodes .right connection.id)
      : Answering (.readLoop connection stage)
  | leaving {connection stage} (hstage : stage = .closing ∨ stage = .finished)
      (hregistered : connection.registered = none)
      (hopened : connection.id ∈ (pair.transport .left).opened)
      (habandoned : ∀ task ∈ pair.tasks .left, task.conn ≠ some connection.id) :
      Answering (.readLoop connection stage)

structure Redialing : Prop extends pair.Undisturbed nodes where
  dialing : ∀ task ∈ pair.tasks .left, pair.Dialing nodes task
  answering : ∀ task ∈ pair.tasks .right, pair.Answering nodes task
  accepting : .acceptLoop .accepting ∈ pair.tasks .right
  dialed : (pair.transport .right).opened ⊆ (pair.transport .left).opened
  accepted : ∀ conn ∈ (pair.transport .right).opened,
    ∃ task ∈ pair.tasks .right, task.conn = some conn
  unheard : ∀ conn, pair.taken .right conn ≠ 0 → conn ∈ (pair.transport .right).opened
  greetings : ∀ conn, ∀ msg ∈ (pair.transport .left).outbound conn, nodes.Greeting .left msg
  silent : ∀ conn, (pair.transport .right).outbound conn = []
  spoken : ∀ conn, (pair.transport .left).outbound conn ≠ [] →
    ∃ task ∈ pair.tasks .left, task.carried = some ⟨nodes.ids .right, conn⟩
  entered : ∀ task ∈ pair.tasks .left, task.carried.isSome = true →
    (pair.transport .left).hasPeer (nodes.ids .right) = true
  sole : nodes.smaller = .right → ∀ task ∈ pair.tasks .left, ∀ handle,
    task.carried = some handle → pair.Holds nodes .left handle.tx

inductive DialTurn : Task → Move → Prop
  | rest {task move} (huncarried : task.carried = none) (hinert : move.effect.inert = true)
      (hrest : ∀ holder ∈ move.task :: move.spawned, holder.conn = none ∧ pair.Dialing nodes holder)
      : DialTurn task move
  | dials {caller stage move} (hdials : pair.Dials nodes .left caller stage move)
      (hgreets : pair.Greets nodes .left stage) :
      DialTurn (.dial caller (nodes.ids .right) stage) move
  | subscribe {conn before after} (hspoke : (pair.transport .left).outbound conn ≠ []) :
      DialTurn (.readLoop ⟨conn, false, some ⟨nodes.ids .right, conn⟩, before⟩ .spawned)
        ⟨.skip, .readLoop ⟨conn, false, some ⟨nodes.ids .right, conn⟩, after⟩ .selecting, []⟩

inductive AnswerTurn : Task → Move → Prop
  | accept {conn} (hdialed : conn ∈ (pair.transport .left).opened)
      (hfresh : conn ∉ (pair.transport .right).opened) :
      AnswerTurn (.acceptLoop .accepting)
        ⟨.openConnection conn, .acceptLoop .accepting,
          [.readLoop ⟨conn, true, none, 0⟩ .spawned]⟩
  | reads {connection stage move} (hreads : pair.Reads nodes .right connection stage move)
      (hkeeps : ∀ peer removed, move.effect ≠ .removePeer peer removed) :
      AnswerTurn (.readLoop connection stage) move

variable {pair nodes} {index : Nat} {input : Input} {task : Task} {move : Move}

theorem Redials.awaits {side : Side} (hredials : pair.Redials side nodes (.resume index input))
    (htask : (pair.tasks side)[index]? = some task) : pair.awaits side task input = true := by
  obtain ⟨found, hfound, hawaits⟩ := hredials
  obtain rfl : task = found := Option.some.inj (htask.symm.trans hfound)
  exact hawaits

theorem Unconnected.idle (hunconnected : pair.Unconnected nodes task) : task.conn = none := by
  have haim := hunconnected.aim
  cases task <;> first | rfl | cases haim

theorem DialTurn.rests {effect : Effect} {later : Task} (huncarried : task.carried = none)
    (hinert : effect.inert = true) (hlater : pair.Unconnected nodes later) :
    pair.DialTurn nodes task ⟨effect, later, []⟩ :=
  .rest huncarried hinert (List.forall_mem_singleton.mpr ⟨hlater.idle, .unconnected hlater⟩)

theorem unconnected_dialed
    (hpresent : ok = true → (pair.transport .left).hasPeer (nodes.ids .right) = true) :
    pair.Unconnected nodes (.dialed caller (nodes.ids .right) ok) :=
  ⟨by simp [Task.unconnected], by cases ok <;> simp_all [Task.succeeded]⟩

theorem unconnected_reconnectLoop {attempts : Nat} {stage : ReconnectLoop} :
    pair.Unconnected nodes (.reconnectLoop (nodes.ids .right) attempts stage) :=
  ⟨by simp [Task.unconnected], nofun⟩

theorem unconnected_heartbeatLoop {peer : NodeId} :
    pair.Unconnected nodes (.heartbeatLoop peer .spawned) :=
  ⟨rfl, nofun⟩

theorem unconnected_connect
    (hpresent : ok = true → (pair.transport .left).hasPeer (nodes.ids .right) = true) :
    pair.Unconnected nodes (.connect (nodes.ids .right) ok) :=
  ⟨by simp [Task.unconnected], by cases ok <;> simp_all [Task.succeeded]⟩

theorem hasPeer_of_refuses {transport : Transport} {peer : NodeId} {weAreDialer : Bool}
    (hrefuses : transport.refuses peer weAreDialer = true) : transport.hasPeer peer = true :=
  (Bool.and_eq_true_iff.mp hrefuses).1

theorem dialTurn_timedOut {stage : Dial} (hmove : Task.move nodes.externals (pair.transport .left)
      (.dial caller (nodes.ids .right) stage) .timedOut = some move) :
    pair.DialTurn nodes (.dial caller (nodes.ids .right) stage) move := by
  cases caller with
  | connect => cases stage <;> cases hmove
  | reconnectLoop attempts =>
      simp only [Task.move, Option.ite_none_right_eq_some, Option.some.injEq] at hmove
      obtain ⟨hcancellable, rfl⟩ := hmove
      refine .rests ?_ rfl (unconnected_dialed Bool.false_ne_true.elim)
      simp [Task.carried, Dial.registered_of_cancellable hcancellable]

theorem Redialing.turn_dial (hredialing : pair.Redialing nodes) {stage : Dial}
    (hgreets : pair.Greets nodes .left stage)
    (hawaits : pair.awaits .left (.dial caller (nodes.ids .right) stage) input = true)
    (hmove : Task.move nodes.externals (pair.transport .left)
      (.dial caller (nodes.ids .right) stage) input = some move) :
    pair.DialTurn nodes (.dial caller (nodes.ids .right) stage) move := by
  by_cases htimeout : input = .timedOut
  · subst htimeout
    exact dialTurn_timedOut hmove
  have hstage : stage.move nodes.externals (pair.transport .left) caller (nodes.ids .right) input =
      some move := by
    cases caller <;> cases input <;> first | exact hmove | exact absurd rfl htimeout
  have hdials : pair.Dials nodes .left caller stage move :=
    hredialing.toUndisturbed.dials hawaits hstage
  exact .dials hdials hgreets

theorem turn_dialed (hunconnected : pair.Unconnected nodes (.dialed caller (nodes.ids .right) ok))
    (hmove : caller.move (pair.transport .left) (nodes.ids .right) ok = some move) :
    pair.DialTurn nodes (.dialed caller (nodes.ids .right) ok) move := by
  have hpresent : ok = true → (pair.transport .left).hasPeer (nodes.ids .right) = true := by
    rintro rfl
    exact hunconnected.present rfl
  cases caller with
  | connect =>
      simp only [Dialer.move] at hmove
      split at hmove <;> cases hmove
      · refine .rest rfl rfl ?_
        simp only [List.mem_cons, List.not_mem_nil, or_false, forall_eq_or_imp, forall_eq]
        exact ⟨⟨rfl, .unconnected (unconnected_connect hpresent)⟩,
          rfl, .unconnected unconnected_reconnectLoop⟩
      · exact .rests rfl rfl (unconnected_connect hpresent)
  | reconnectLoop attempts =>
      simp only [Dialer.move] at hmove
      split at hmove
      · cases hmove
        exact .rests rfl rfl unconnected_reconnectLoop
      · split at hmove
        · split at hmove <;> cases hmove <;> exact .rests rfl rfl unconnected_reconnectLoop
        · cases hmove
          exact .rests rfl rfl unconnected_reconnectLoop

theorem turn_reconnectLoop {attempts : Nat} {stage : ReconnectLoop}
    (hmove : stage.move (pair.transport .left) (nodes.ids .right) attempts .go = some move) :
    pair.DialTurn nodes (.reconnectLoop (nodes.ids .right) attempts stage) move := by
  cases stage with
  | checkingDesired =>
      simp only [ReconnectLoop.move] at hmove
      split at hmove <;> cases hmove <;> exact .rests rfl rfl unconnected_reconnectLoop
  | checkingPeer =>
      simp only [ReconnectLoop.move] at hmove
      split at hmove <;> cases hmove
      · exact .rests rfl rfl unconnected_reconnectLoop
      · exact .rest rfl rfl (List.forall_mem_singleton.mpr ⟨rfl, .dial trivial⟩)
  | returned => cases hmove
  | _ =>
      cases hmove
      exact .rests rfl rfl unconnected_reconnectLoop

section

variable (hredialing : pair.Redialing nodes)

include hredialing

theorem Redialing.not_dropped {conn : ConnectionId} (hmem : task ∈ pair.tasks .left)
    (hconn : task.conn = some conn) : ¬ pair.Dropped .right conn := by
  rintro ⟨hopened, hclosed⟩
  obtain ⟨holder, hholder, hsame⟩ := hredialing.accepted conn hopened
  have hopen := hclosed holder hholder
  cases hredialing.answering holder hholder with
  | background hbackground => simp [Task.conn_of_background hbackground] at hsame
  | answering hanswers => exact hopen (hanswers.keepsOpen.trans hsame)
  | leaving hstage hregistered hopened habandoned =>
      obtain rfl : _ = conn := Option.some.inj hsame
      exact habandoned task hmem hconn

theorem Redialing.turn_listening {conn : ConnectionId} {cursor : Nat} {stage : ReadLoop}
    (hstage : stage = .spawned ∨ stage = .selecting)
    (hspoke : (pair.transport .left).outbound conn ≠ [])
    (hmem : .readLoop ⟨conn, false, some ⟨nodes.ids .right, conn⟩, cursor⟩ stage ∈
      pair.tasks .left) (hawaits : pair.awaits .left
      (.readLoop ⟨conn, false, some ⟨nodes.ids .right, conn⟩, cursor⟩ stage) input = true)
    (hmove : stage.move nodes.externals (pair.transport .left)
      ⟨conn, false, some ⟨nodes.ids .right, conn⟩, cursor⟩ input = some move) :
    pair.DialTurn nodes
      (.readLoop ⟨conn, false, some ⟨nodes.ids .right, conn⟩, cursor⟩ stage) move := by
  rcases readLoop_of_awaits hawaits with rfl | ⟨frames, rfl, hne, hread⟩ | ⟨rfl, hdropped⟩
  · rcases hstage with rfl | rfl <;> cases hmove
    exact .subscribe hspoke
  · have hsilent : pair.unread .left conn = [] := by
      simp [Pair.unread, Side.other, hredialing.silent]
    rw [hsilent] at hread
    exact absurd (List.prefix_nil.mp hread) hne
  · exact absurd hdropped (hredialing.not_dropped hmem rfl)

theorem Redialing.dialTurn (hmem : task ∈ pair.tasks .left)
    (hawaits : pair.awaits .left task input = true)
    (hmove : task.move nodes.externals (pair.transport .left) input = some move) :
    pair.DialTurn nodes task move := by
  cases hredialing.dialing task hmem with
  | unconnected hunconnected =>
      have haim := hunconnected.aim
      cases task with
      | dialed caller peer ok =>
          obtain rfl : peer = nodes.ids .right := by simpa [Task.unconnected] using haim
          cases input <;> first | exact turn_dialed hunconnected hmove | cases hawaits
      | reconnectLoop peer attempts stage =>
          obtain rfl : peer = nodes.ids .right := by simpa [Task.unconnected] using haim
          cases input <;> first | exact turn_reconnectLoop hmove | cases hawaits
      | acceptLoop stage =>
          cases input with
          | accepted conn =>
              -- every connection the right side has opened was dialed
              cases stage with
              | accepting =>
                  have hopened : conn ∈ (pair.transport .left).opened :=
                    hredialing.dialed (of_decide_eq_true hawaits)
                  simp [Task.move, AcceptLoop.move, hopened] at hmove
              | returned => cases haim
          | _ => cases hawaits
      | dial | readLoop => cases haim
      | _ => cases input <;> cases hawaits
  | dial hgreets => exact hredialing.turn_dial hgreets hawaits hmove
  | listening hstage hspoke => exact hredialing.turn_listening hstage hspoke hmem hawaits hmove

theorem Redialing.turn_answering {connection : Connection} {stage : ReadLoop}
    (hanswering : pair.Answering nodes (.readLoop connection stage))
    (hawaits : pair.awaits .right (.readLoop connection stage) input = true)
    (hmove : stage.move nodes.externals (pair.transport .right) connection input = some move) :
    pair.AnswerTurn nodes (.readLoop connection stage) move := by
  cases hanswering with
  | background hbackground => cases hbackground
  | answering hanswers =>
      have hreads := hanswers.reads hredialing.toUndisturbed (hredialing.greetings _) hawaits hmove
      refine .reads hreads ?_
      cases hreads with
      | evict => exact absurd rfl hanswers.engaged.1
      | _ => nofun
  | leaving hphase hregistered =>
      have hgo := go_of_move hawaits (by rcases hphase with rfl | rfl <;> simp) hmove
      rcases hphase with rfl | rfl <;>
        simp only [ReadLoop.move, hregistered, reduceCtorEq, Option.some.injEq] at hgo
      subst hgo
      exact .reads .depart nofun

theorem Redialing.answerTurn (hmem : task ∈ pair.tasks .right)
    (hawaits : pair.awaits .right task input = true)
    (hmove : task.move nodes.externals (pair.transport .right) input = some move) :
    pair.AnswerTurn nodes task move := by
  have hanswering := hredialing.answering task hmem
  cases task with
  | readLoop connection stage => exact hredialing.turn_answering hanswering hawaits hmove
  | acceptLoop stage =>
      cases hanswering with
      | background hbackground =>
          cases stage with
          | returned => cases hbackground
          | accepting =>
              cases input with
              | accepted conn =>
                  simp only [Task.move, AcceptLoop.move, Option.ite_none_left_eq_some,
                    Option.some.injEq] at hmove
                  obtain ⟨hfresh, rfl⟩ := hmove
                  exact .accept (of_decide_eq_true hawaits) hfresh
              | _ => cases hawaits
  | dial | dialed | reconnectLoop =>
      cases hanswering with
      | background hbackground => cases hbackground
  | _ => cases input <;> cases hawaits

end

end Pair

end LapinBeam
