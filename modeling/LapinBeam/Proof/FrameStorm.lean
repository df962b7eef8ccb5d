import LapinBeam.Transport.Exchange
import LapinBeam.Proof.ErrorReplies
import Mathlib.Algebra.Ring.Nat

/-!
# No frame storm

Two nodes that are left to themselves come to rest. The only frame that is ever answered is a Data
frame, and the answer is an Error frame, which is not. So every frame carries the number of stretches
it can still cause, those its answer causes on the other side included (`weight`), and each stretch
uses one of them up.
-/

namespace LapinBeam

def WireMessage.answers (msg : WireMessage) : Nat := if msg.kind = .data then 1 else 0

def WireMessage.handlingWeight (msg : WireMessage) : Nat := 3 + 12 * msg.answers

def WireMessage.weight (msg : WireMessage) : Nat := 4 + msg.handlingWeight

def Sending.weight : Sending → Nat
  | .lookup msg => 2 + msg.weight
  | .enqueuing _ msg => 1 + msg.weight

namespace Route

def answers : Route → Nat
  | .dispatch msg => msg.answers
  | .trySend _ _ | .reportFull _ | .sendError _ _ => 1
  | .sending stage => 1 + stage.msg.answers

def weight : Route → Nat
  | .dispatch msg => 1 + 12 * msg.answers
  | .trySend _ _ => 12
  | .reportFull _ => 11
  | .sendError _ _ => 10
  | .sending stage => stage.weight

end Route

namespace ReadLoop

def answers : ReadLoop → Nat
  | .handling frames | .registering _ frames | .announcing _ frames =>
      (frames.map WireMessage.answers).sum
  | .routing _ route frames => route.answers + (frames.map WireMessage.answers).sum
  | _ => 0

def weight : ReadLoop → Nat
  | .spawned => 1
  | .selecting | .finished => 0
  | .handling frames => 3 + (frames.map WireMessage.handlingWeight).sum
  | .registering _ frames => 5 + (frames.map WireMessage.handlingWeight).sum
  | .announcing _ frames => 4 + (frames.map WireMessage.handlingWeight).sum
  | .routing _ route frames => route.weight + 3 + (frames.map WireMessage.handlingWeight).sum
  | .closing => 2
  | .emitting _ _ => 1

end ReadLoop

def Progress.measure {Stage Result : Type} (f : Stage → Nat) : Progress Stage Result → Nat
  | .next stage => f stage
  | .done _ => 0

namespace Effect

def answers (effect : Effect) : Nat := (effect.sends.map fun sent => 1 + sent.2.answers).sum

def weight (effect : Effect) : Nat := (effect.sends.map fun sent => sent.2.weight).sum

end Effect

section Stretches

variable {externals : Externals} {transport : Transport} {input : Input}

theorem Sending.move_bounds {stage : Sending} {peer : NodeId} {effect : Effect}
    {progress : Progress Sending (Except SendError Unit)}
    (hmove : stage.move transport peer input = some (effect, progress)) :
    effect.answers + progress.measure (1 + ·.msg.answers) ≤ 1 + stage.msg.answers ∧
      effect.weight + progress.measure Sending.weight < stage.weight := by
  revert hmove
  fun_cases Sending.move <;> rintro ⟨⟩ <;>
    simp [Effect.answers, Effect.weight, Effect.sends, Progress.measure, Sending.msg, Sending.weight]

theorem Route.move_bounds {route : Route} {peer : NodeId} {effect : Effect}
    {progress : Progress Route Unit}
    (hmove : route.move externals transport peer input = some (effect, progress)) :
    effect.answers + progress.measure Route.answers ≤ route.answers ∧
      effect.weight + progress.measure Route.weight < route.weight := by
  revert hmove
  fun_cases Route.move <;> rintro ⟨⟩
  case case12 hsending | case13 hsending => exact Sending.move_bounds hsending
  case case10 detail correlationId msg =>
    have hmsg : msg.answers = 0 := rfl
    simp [Effect.answers, Effect.weight, Effect.sends, Progress.measure, Route.answers, Route.weight,
      Sending.msg, Sending.weight, WireMessage.weight, WireMessage.handlingWeight, hmsg]
  all_goals
    simp [Effect.answers, Effect.weight, Effect.sends, Progress.measure, Route.answers, Route.weight,
      WireMessage.answers, *]

theorem Connection.handle_bounds {connection next : Connection} {msg : WireMessage}
    {rest : List WireMessage} {stage : ReadLoop}
    (hhandle : connection.handle externals transport msg rest = (next, stage)) :
    stage.answers ≤ (ReadLoop.handling (msg :: rest)).answers ∧
      stage.weight < (ReadLoop.handling (msg :: rest)).weight := by
  revert hhandle
  fun_cases Connection.handle <;> rintro ⟨⟩ <;>
    simp only [ReadLoop.answers, ReadLoop.weight, Route.answers, Route.weight, List.map_cons,
      List.sum_cons, WireMessage.handlingWeight] <;>
    omega

theorem ReadLoop.move_bounds {connection : Connection} {stage : ReadLoop} {move : Move}
    (hmove : stage.move externals transport connection input = some move)
    (hstage : stage ≠ .selecting) :
    ∃ connection' next, move.task = .readLoop connection' next ∧
      move.effect.answers + next.answers ≤ stage.answers ∧
      move.effect.weight + next.weight < stage.weight := by
  revert hmove
  fun_cases ReadLoop.move <;> rintro ⟨⟩
  case case10 hhandle =>
    obtain ⟨hanswers, hweight⟩ := Connection.handle_bounds hhandle
    exact ⟨_, _, rfl, by simpa [Effect.answers, Effect.sends] using hanswers,
      by simpa [Effect.weight, Effect.sends] using hweight⟩
  case case15 peer route frames effect next hroute =>
    obtain ⟨hanswers, hweight⟩ := Route.move_bounds hroute
    refine ⟨_, _, rfl, ?_, ?_⟩ <;> simp only [ReadLoop.answers, ReadLoop.weight, Progress.measure] at * <;>
      omega
  case case16 peer route frames effect _ hroute =>
    obtain ⟨hanswers, hweight⟩ := Route.move_bounds hroute
    refine ⟨_, _, rfl, ?_, ?_⟩ <;> simp only [ReadLoop.answers, ReadLoop.weight, Progress.measure] at * <;>
      omega
  all_goals first
    | exact absurd rfl hstage
    | exact ⟨_, _, rfl, by simp [Effect.answers, Effect.sends, ReadLoop.answers],
        by simp [Effect.weight, Effect.sends, ReadLoop.weight]⟩

end Stretches

namespace Exchange

def dataInFlight (exchange : Exchange) : Nat :=
  Side.total fun side =>
    (exchange.parties side).stage.answers + ((exchange.inFlight side).map WireMessage.answers).sum

def weight (exchange : Exchange) : Nat :=
  Side.total fun side =>
    (exchange.parties side).stage.weight + ((exchange.inFlight side).map WireMessage.weight).sum

variable {externals : Externals} {exchange next : Exchange} {action : Action} {side : Side}

theorem settle_bounds {effect : Effect} {reader : Reader}
    (hanswers : effect.answers + reader.stage.answers ≤ (exchange.parties side).stage.answers)
    (hweight : effect.weight + reader.stage.weight < (exchange.parties side).stage.weight) :
    let next := exchange.settle side (effect, reader)
    next.sent.length + next.dataInFlight ≤ exchange.sent.length + exchange.dataInFlight ∧
      next.weight < exchange.weight := by
  have harriving : ∀ conn : ConnectionId,
      let arriving := (effect.sends.filter fun sent => sent.1 = conn).map Prod.snd
      effect.sends.length + (arriving.map WireMessage.answers).sum ≤ effect.answers ∧
        (arriving.map WireMessage.weight).sum ≤ effect.weight := by
    intro conn
    cases effect with
    | enqueue conn' msg =>
        by_cases hconn : conn' = conn <;>
          simp [Effect.sends, Effect.answers, Effect.weight, hconn]
    | _ => simp [Effect.sends]
  obtain ⟨hsent, hsentWeight⟩ := harriving reader.connection.id
  simp only [settle, dataInFlight, weight, Side.total_eq _ side, Function.update_self,
    Function.update_of_ne (Side.ne_other side), Function.update_of_ne (Side.other_ne side),
    List.length_append, List.length_map, List.map_append, List.sum_append]
  omega

theorem sum_weight (frames : List WireMessage) :
    (frames.map WireMessage.weight).sum =
      4 * frames.length + (frames.map WireMessage.handlingWeight).sum := by
  induction frames with
  | nil => rfl
  | cons frame frames ih =>
      simp only [List.map_cons, List.sum_cons, List.length_cons, ih, WireMessage.weight]
      omega

theorem read_bounds {count : Nat} {reader : Reader}
    (hstage : (exchange.parties side).stage = .selecting)
    (hcount : 0 < count) (hle : count ≤ (exchange.inFlight side).length)
    (hreader : reader.stage = .handling ((exchange.inFlight side).take count)) :
    let next := (exchange.drop side count).settle side (.skip, reader)
    next.sent.length + next.dataInFlight ≤ exchange.sent.length + exchange.dataInFlight ∧
      next.weight < exchange.weight := by
  have hlength : ((exchange.inFlight side).take count).length = count := List.length_take_of_le hle
  have hanswers := congrArg (fun frames => (frames.map WireMessage.answers).sum)
    (List.take_append_drop count (exchange.inFlight side))
  have hweight := congrArg (fun frames => (frames.map WireMessage.weight).sum)
    (List.take_append_drop count (exchange.inFlight side))
  simp only [List.map_append, List.sum_append] at hanswers hweight
  rw [sum_weight ((exchange.inFlight side).take count), hlength] at hweight
  simp only [settle, drop, Effect.sends, dataInFlight, weight, Side.total_eq _ side,
    Function.update_self, Function.update_of_ne (Side.ne_other side),
    Function.update_of_ne (Side.other_ne side), hstage, hreader, ReadLoop.answers, ReadLoop.weight,
    List.filter_nil, List.map_nil, List.append_nil]
  omega

theorem step_bounds (hstep : exchange.step externals action = some next) :
    next.sent.length + next.dataInFlight ≤ exchange.sent.length + exchange.dataInFlight ∧
      next.weight + (if action.isDelivery then 1 else 0) ≤ exchange.weight := by
  cases action with
  | change side effect =>
      obtain ⟨party, hparty, rfl⟩ := Option.map_eq_some_iff.mp hstep
      simp [dataInFlight, weight, Side.total_eq _ side, Action.isDelivery,
        Reader.stage_of_change hparty]
  | read side count =>
      simp only [step, Option.ite_none_right_eq_some] at hstep
      obtain ⟨⟨hstage, hcount, hle⟩, hstep⟩ := hstep
      rw [Reader.resume, hstage] at hstep
      cases hstep
      exact read_bounds hstage hcount hle rfl
  | route side input =>
      simp only [step, Option.ite_none_left_eq_some] at hstep
      obtain ⟨hstage, hstep⟩ := hstep
      obtain ⟨⟨effect, reader⟩, hreader, rfl⟩ := Option.map_eq_some_iff.mp hstep
      obtain ⟨move, hmove, rfl, htask⟩ := Reader.move_of_resume hreader
      obtain ⟨_, _, htask', hanswers, hweight⟩ := ReadLoop.move_bounds hmove hstage
      cases htask.symm.trans htask'
      exact settle_bounds hanswers hweight

theorem run_bounds {actions : List Action}
    (hrun : Machine.run (step externals) exchange actions = some next) :
    next.sent.length + next.dataInFlight ≤ exchange.sent.length + exchange.dataInFlight ∧
      next.weight + (actions.filter Action.isDelivery).length ≤ exchange.weight := by
  induction actions generalizing exchange with
  | nil =>
      cases hrun
      exact ⟨le_rfl, le_rfl⟩
  | cons action actions ih =>
      rw [Machine.run_cons, Option.bind_eq_some_iff] at hrun
      obtain ⟨middle, hstep, hrun⟩ := hrun
      obtain ⟨hsent, hweight⟩ := step_bounds hstep
      obtain ⟨hsent', hweight'⟩ := ih hrun
      refine ⟨hsent'.trans hsent, ?_⟩
      cases hdelivery : action.isDelivery with
      | false =>
          rw [List.filter_cons_of_neg (by simp [hdelivery])]
          rw [hdelivery, if_neg Bool.false_ne_true] at hweight
          omega
      | true =>
          rw [List.filter_cons_of_pos hdelivery, List.length_cons]
          rw [hdelivery, if_pos rfl] at hweight
          omega

end Exchange

namespace Route

inductive Sends (externals : Externals) (handle : PeerHandle) :
    Route → List (ConnectionId × WireMessage) → Prop
  | paused (route : Route) : Sends externals handle route []
  | next {route route' transport input effect sent}
      (hpeers : transport.peers handle.peerId = some handle)
      (hmove : route.move externals transport handle.peerId input = some (effect, .next route'))
      (hrest : Sends externals handle route' sent) :
      Sends externals handle route (effect.sends ++ sent)
  | done {route transport input effect} (hpeers : transport.peers handle.peerId = some handle)
      (hmove : route.move externals transport handle.peerId input = some (effect, .done ())) :
      Sends externals handle route effect.sends

variable {externals : Externals} {handle : PeerHandle} {route : Route} {msg : WireMessage}
  {sent : List (ConnectionId × WireMessage)}

def Replying (handle : PeerHandle) : Route → Prop
  | .sending (.lookup msg) => msg.kind = .error
  | .sending (.enqueuing found msg) => found = handle ∧ msg.kind = .error
  | _ => True

theorem Replying.move {transport : Transport} {input : Input} {effect : Effect}
    {progress : Progress Route Unit} (hreplying : route.Replying handle)
    (hpeers : transport.peers handle.peerId = some handle)
    (hmove : route.move externals transport handle.peerId input = some (effect, progress)) :
    (effect.sends = [] ∧ ∀ route', progress = .next route' → route'.Replying handle) ∨
      progress = .done () ∧ ∃ reply, reply.kind = .error ∧ effect.sends = [(handle.tx, reply)] := by
  revert hmove
  fun_cases Route.move <;> rintro ⟨⟩
  case case12 stage next hsending =>
    revert hsending
    fun_cases Sending.move <;> rintro ⟨⟩
    rename_i found hfound
    cases hpeers.symm.trans hfound
    exact .inl ⟨rfl, fun _ heq => by cases heq; exact ⟨rfl, hreplying⟩⟩
  case case13 stage result hsending =>
    revert hsending
    fun_cases Sending.move <;> rintro ⟨⟩
    case case3 found msg =>
      obtain ⟨rfl, hkind⟩ := hreplying
      exact .inr ⟨rfl, msg, hkind, rfl⟩
    all_goals exact .inl ⟨rfl, fun _ heq => by cases heq⟩
  all_goals exact .inl ⟨rfl, fun _ heq => by cases heq <;> first | rfl | trivial⟩

theorem Sends.cases (hsends : Sends externals handle route sent) (hreplying : route.Replying handle) :
    sent = [] ∨ 0 < route.answers ∧ ∃ reply, reply.kind = .error ∧ sent = [(handle.tx, reply)] := by
  induction hsends with
  | paused route => exact .inl rfl
  | next hpeers hmove hrest ih =>
      obtain ⟨hanswers, -⟩ := Route.move_bounds hmove
      rcases hreplying.move hpeers hmove with ⟨hnone, hnext⟩ | ⟨hdone, -⟩
      · rw [hnone, List.nil_append]
        refine (ih (hnext _ rfl)).imp id fun ⟨hpos, hreply⟩ => ⟨?_, hreply⟩
        simp only [Progress.measure] at hanswers
        omega
      · cases hdone
  | done hpeers hmove =>
      obtain ⟨hanswers, -⟩ := Route.move_bounds hmove
      rcases hreplying.move hpeers hmove with ⟨hnone, -⟩ | ⟨-, reply, hkind, hreply⟩
      · exact .inl hnone
      · refine .inr ⟨?_, reply, hkind, hreply⟩
        simp only [Effect.answers, hreply, List.map_cons, List.sum_cons] at hanswers
        omega

end Route

namespace Exchange

/-- Only a Data frame is answered, by one Error frame to its sender, so two nodes left to themselves send
at most as many frames as there are Data frames in flight, and come to rest. -/
theorem no_frame_storm (externals : Externals) :
    (∀ handle msg sent, Route.Sends externals handle (.dispatch msg) sent →
      sent = [] ∨ msg.kind = .data ∧
        ∃ reply, reply.kind = .error ∧ sent = [(handle.tx, reply)]) ∧
    ∀ (exchange later : Exchange) (actions : List Action),
      Machine.run (step externals) exchange actions = some later →
        later.sent.length ≤ exchange.sent.length + exchange.dataInFlight ∧
        (actions.filter Action.isDelivery).length ≤ exchange.weight := by
  refine ⟨fun handle msg sent hsends => ?_, fun exchange later actions hrun => ?_⟩
  · refine (hsends.cases trivial).imp id fun ⟨hpos, hreply⟩ => ⟨?_, hreply⟩
    by_contra hkind
    simp [Route.answers, WireMessage.answers, hkind] at hpos
  · obtain ⟨hsent, hweight⟩ := run_bounds hrun
    omega

end Exchange

namespace Fixed

def unanswered : Exchange where
  parties side := (peering.endpoint side).toReader
  inFlight
    | .left => [stray .right]
    | .right => []

def answered : List Exchange.Action :=
  .read .left 1 :: List.replicate 6 (.route .left .go) ++
    .read .right 1 :: List.replicate 3 (.route .right .go)

end Fixed

theorem Exchange.no_frame_storm_answered :
    ∃ later, Machine.run (step Fixed.externals) Fixed.unanswered Fixed.answered = some later ∧
      later.sent.length = 1 ∧ later.dataInFlight = 0 ∧ later.sent.length ≤ 0 + 1 := by
  have hrun : (Machine.run (step Fixed.externals) Fixed.unanswered Fixed.answered).map (fun later =>
      (later.sent.length, later.dataInFlight)) = some (1, 0) := by decide +kernel
  obtain ⟨later, hlater, hobserved⟩ := Option.map_eq_some_iff.mp hrun
  rw [Prod.mk.injEq] at hobserved
  exact ⟨later, hlater, hobserved.1, hobserved.2, ((no_frame_storm _).2 _ _ _ hlater).1⟩

end LapinBeam
