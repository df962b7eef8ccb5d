import LapinBeam.Transport.Duplex
import LapinBeam.Transport.Stretch

/-!
# Error replies and deadlock

`route` waits for room in the outbound queue of the connection it serves, inside the read loop that
would have to go on for the other end to make room. Nothing moves any more only when both read
loops wait like that, both queues are full, and both writers sit in a `write_all` on a full TCP
buffer. Then nothing ever moves again.
-/

namespace LapinBeam

def ReadLoop.replying : ReadLoop → Bool
  | .routing _ (.sending (.enqueuing _ _)) _ => true
  | _ => false

theorem ReadLoop.eq_of_replying {stage : ReadLoop} (hreplying : stage.replying = true) :
    ∃ peer handle msg frames, stage = .routing peer (.sending (.enqueuing handle msg)) frames := by
  revert hreplying
  fun_cases ReadLoop.replying <;> intro hreplying
  · exact ⟨_, _, _, _, rfl⟩
  · cases hreplying

def ReadLoop.reads : ReadLoop → Bool
  | .selecting | .handling _ | .routing _ _ _ => true
  | _ => false

def ReadLoop.pending : ReadLoop → Bool
  | .handling frames => frames ≠ []
  | .routing _ _ _ => true
  | _ => false

namespace Link

variable {bincode : Bincode} {debugAssertions : Bool} {link next : Link} {action : Action}

structure Running (link : Link) : Prop where
  capacity_pos : 0 < link.capacity
  writer : ∀ unwritten, link.writer ≠ .returned unwritten

def Action.writes : Action → Bool
  | .enqueue _ | .recv | .tryRecv | .tryRecvEmpty | .write _ => true
  | _ => false

theorem Running.writes (hrunning : link.Running) (hwrites : action.writes = true)
    (hstep : link.step bincode debugAssertions action = some next) :
    next.Running ∧ next.aborted = link.aborted := by
  obtain ⟨hcapacity, hwriter⟩ := hrunning
  revert hwrites hstep
  fun_cases Link.step <;> rintro hwrites ⟨⟩
  case case11 => exact ⟨⟨hcapacity, fun _ => by dsimp only; split <;> simp⟩, rfl⟩
  all_goals first
    | (cases hwrites; done)
    | exact ⟨⟨hcapacity, by simp_all⟩, rfl⟩

theorem Running.read {count : Nat} (hrunning : link.Running)
    (hstep : link.step bincode debugAssertions (.read count) = some next) : next.Running := by
  obtain ⟨hcapacity, hwriter⟩ := hrunning
  simp only [Link.step] at hstep
  split at hstep
  · cases hstep
  · split at hstep <;> cases hstep <;> exact ⟨hcapacity, hwriter⟩

end Link

theorem Route.exists_move (externals : Externals) (transport : Transport) (peer : NodeId)
    (route : Route) :
    ∃ effect progress, route.move externals transport peer .go = some (effect, progress) ∧
      ∀ conn msg, effect = .enqueue conn msg → ∃ handle, route = .sending (.enqueuing handle msg) := by
  cases route with
  | dispatch msg =>
      cases hkind : msg.kind with
      | data => cases hactor : transport.routing msg.dstActor <;> simp [Route.move, hkind, hactor]
      | _ => simp [Route.move, hkind]
  | trySend mailbox msg =>
      simp only [Route.move]
      split
      · simp
      · split <;> simp
  | reportFull msg => simp [Route.move]
  | sendError detail correlationId => simp [Route.move]
  | sending stage =>
      cases stage with
      | lookup msg => cases hpeer : transport.peers peer <;> simp [Route.move, Sending.move, hpeer]
      | enqueuing handle msg => simp [Route.move, Sending.move]

namespace Endpoint

variable {externals : Externals} {bincode : Bincode} {debugAssertions : Bool}
  {endpoint next : Endpoint} {input : Input}

theorem reader_of_resume
    (hresume : endpoint.resume externals bincode debugAssertions input = some next) :
    (next.link = endpoint.link ∨ ∃ msg,
      endpoint.link.step bincode debugAssertions (.enqueue msg) = some next.link) ∧
    ∃ effect, endpoint.toReader.resume externals input = some (effect, next.toReader) := by
  obtain ⟨⟨effect, reader⟩, hreader, hmoved⟩ := Option.bind_eq_some_iff.mp hresume
  dsimp only at hmoved
  split at hmoved
  · rename_i msg
    obtain ⟨link, hlink, rfl⟩ := Option.map_eq_some_iff.mp hmoved
    exact ⟨.inr ⟨msg, hlink⟩, _, hreader⟩
  · cases hmoved
    exact ⟨.inl rfl, _, hreader⟩

theorem resume_of_route (hroute : endpoint.route externals bincode debugAssertions = some next) :
    endpoint.stage.reads = true ∧
      endpoint.resume externals bincode debugAssertions .go = some next := by
  simp only [route] at hroute
  split at hroute
  · rename_i hstage
    exact ⟨by rw [hstage]; rfl, hroute⟩
  · rename_i hstage
    exact ⟨by rw [hstage]; rfl, hroute⟩
  · cases hroute

theorem resume_isSome {effect : Effect} {reader : Reader}
    (hreader : endpoint.toReader.resume externals input = some (effect, reader))
    (hroom : ∀ conn msg, effect = .enqueue conn msg →
      endpoint.link.queue.length < endpoint.link.capacity) :
    (endpoint.resume externals bincode debugAssertions input).isSome = true := by
  simp only [resume, hreader, Option.bind_some]
  split
  · simp [enqueue, Link.step, hroom _ _ rfl]
  · rfl

theorem route_isSome (hreads : endpoint.stage.reads = true)
    (hhandles : endpoint.stage ≠ .selecting)
    (hroom : endpoint.stage.replying = true → endpoint.link.queue.length < endpoint.link.capacity) :
    (endpoint.route externals bincode debugAssertions).isSome = true := by
  simp only [route]
  cases hstage : endpoint.stage with
  | selecting => exact absurd hstage hhandles
  | handling frames =>
      cases frames with
      | nil | cons msg rest => simp [resume, Reader.resume, hstage, ReadLoop.move]
  | routing peer route frames =>
      rw [hstage] at hroom
      obtain ⟨effect, progress, hmove, heffect⟩ :=
        Route.exists_move externals endpoint.transport peer route
      have hfits : ∀ conn msg, effect = .enqueue conn msg →
          endpoint.link.queue.length < endpoint.link.capacity := by
        intro conn msg heq
        obtain ⟨handle, rfl⟩ := heffect conn msg heq
        exact hroom rfl
      cases progress <;>
        exact resume_isSome (by simp only [Reader.resume, hstage, ReadLoop.move, hmove]; rfl) hfits
  | _ => simp [hstage, ReadLoop.reads] at hreads

theorem receive_cases {before after : Link} (hstage : endpoint.stage = .selecting)
    (hreceive : endpoint.receive externals bincode debugAssertions before after = some next) :
    next.link = endpoint.link ∧ next.stage.replying = false ∧
      (next.stage.reads = true → after.aborted = none) := by
  simp only [receive, resume, Reader.resume, hstage] at hreceive
  split at hreceive
  · cases hreceive
    exact ⟨rfl, rfl, by rintro ⟨⟩⟩
  · cases hreceive
    exact ⟨rfl, rfl, by rintro ⟨⟩⟩
  · rename_i haborted
    cases hreceive
    exact ⟨rfl, rfl, fun _ => haborted⟩

end Endpoint

section Replying

variable {externals : Externals} {transport : Transport} {connection : Connection} {input : Input}

theorem Connection.replying_handle {next : Connection} {msg : WireMessage}
    {rest : List WireMessage} {stage : ReadLoop}
    (hhandle : connection.handle externals transport msg rest = (next, stage)) :
    stage.replying = false := by
  revert hhandle
  fun_cases Connection.handle <;> rintro ⟨⟩ <;> rfl

theorem Route.lookup_of_enqueuing {route : Route} {peer : NodeId} {effect : Effect}
    {handle : PeerHandle} {msg : WireMessage}
    (hmove : route.move externals transport peer input =
      some (effect, .next (.sending (.enqueuing handle msg)))) : route = .sending (.lookup msg) := by
  revert hmove
  fun_cases Route.move <;> intro hmove <;> try (cases hmove; done)
  rename_i stage hstage
  cases hmove
  revert hstage
  fun_cases Sending.move <;> rintro ⟨⟩
  rfl

theorem ReadLoop.lookup_of_replying {stage next : ReadLoop} {move : Move} {connection' : Connection}
    (hmove : stage.move externals transport connection input = some move)
    (htask : move.task = .readLoop connection' next) (hreplying : next.replying = true) :
    ∃ peer msg frames, stage = .routing peer (.sending (.lookup msg)) frames := by
  revert hmove
  fun_cases ReadLoop.move <;> rintro ⟨⟩
  case case10 hhandle =>
    cases htask
    rw [Connection.replying_handle hhandle] at hreplying
    cases hreplying
  case case15 peer route frames effect route' hroute =>
    cases htask
    obtain ⟨_, _, msg, _, heq⟩ := ReadLoop.eq_of_replying hreplying
    cases heq
    exact ⟨peer, msg, frames, by rw [Route.lookup_of_enqueuing hroute]⟩
  all_goals
    cases htask
    cases hreplying

end Replying

namespace Duplex

variable {externals : Externals} {bincode : Bincode} {debugAssertions : Bool}
  {duplex next : Duplex} {action : Action}

/-- A read loop comes to send an Error reply only while that of the other end has none to send, whether or not the queues have room. -/
def RepliesApart (duplex : Duplex) : Action → Prop
  | .route side =>
      match (duplex.ends side).stage with
      | .routing _ (.sending (.lookup _)) _ => (duplex.ends side.other).stage.replying = false
      | _ => True
  | _ => True

instance (duplex : Duplex) (action : Action) : Decidable (duplex.RepliesApart action) := by
  unfold RepliesApart
  split
  · split <;> infer_instance
  · infer_instance

inductive Advance (externals : Externals) (bincode : Bincode) (debugAssertions : Bool)
    (duplex : Duplex) (side : Side) : Endpoint → Prop
  | link {action link} (hwrites : action.writes = true)
      (hlink : (duplex.ends side).link.step bincode debugAssertions action = some link) :
      Advance externals bincode debugAssertions duplex side { duplex.ends side with link }
  | change {reader} (hstage : reader.stage = (duplex.ends side).stage) :
      Advance externals bincode debugAssertions duplex side
        { duplex.ends side with toReader := reader }
  | route {endpoint}
      (hroute : (duplex.ends side).route externals bincode debugAssertions = some endpoint) :
      Advance externals bincode debugAssertions duplex side endpoint

theorem step_cases (hstep : duplex.step externals bincode debugAssertions action = some next) :
    (∃ side endpoint, Advance externals bincode debugAssertions duplex side endpoint ∧
      (endpoint.stage = (duplex.ends side).stage ∨ action = .route side) ∧
      next = duplex.set side endpoint) ∨
    ∃ side count link endpoint, (duplex.ends side).stage = .selecting ∧
      (duplex.ends side.other).link.step bincode debugAssertions (.read count) = some link ∧
      (duplex.ends side).receive externals bincode debugAssertions
        (duplex.ends side.other).link link = some endpoint ∧
      next = (duplex.set side.other { duplex.ends side.other with link }).set side endpoint := by
  cases action with
  | send side msg =>
      simp only [step, Option.ite_none_right_eq_some] at hstep
      obtain ⟨endpoint, hendpoint, rfl⟩ := Option.map_eq_some_iff.mp hstep.2
      obtain ⟨link, hlink, rfl⟩ := Option.map_eq_some_iff.mp hendpoint
      exact .inl ⟨side, _, .link rfl hlink, .inl rfl, rfl⟩
  | change side effect =>
      obtain ⟨reader, hreader, rfl⟩ := Option.map_eq_some_iff.mp hstep
      have hstage := Reader.stage_of_change hreader
      exact .inl ⟨side, _, .change hstage, .inl hstage, rfl⟩
  | write side action =>
      simp only [step, Option.ite_none_right_eq_some] at hstep
      obtain ⟨hwrites, hstep⟩ := hstep
      obtain ⟨link, hlink, rfl⟩ := Option.map_eq_some_iff.mp hstep
      refine .inl ⟨side, _, .link ?_ hlink, .inl rfl, rfl⟩
      cases action <;> first | rfl | cases hwrites
  | read side count =>
      simp only [step, Option.ite_none_right_eq_some] at hstep
      obtain ⟨⟨hstage, -⟩, hstep⟩ := hstep
      split at hstep
      · cases hstep
      · rename_i link hlink
        obtain ⟨endpoint, hendpoint, rfl⟩ := Option.map_eq_some_iff.mp hstep
        exact .inr ⟨side, count, link, endpoint, hstage, hlink, hendpoint, rfl⟩
  | route side =>
      obtain ⟨endpoint, hroute, rfl⟩ := Option.map_eq_some_iff.mp hstep
      exact .inl ⟨side, endpoint, .route hroute, .inr rfl, rfl⟩

structure Flowing (duplex : Duplex) : Prop where
  buffer_pos : 0 < duplex.buffer
  running : ∀ side, (duplex.ends side).link.Running
  decodes : ∀ side : Side, (duplex.ends side).stage.reads = true →
    (duplex.ends side.other).link.aborted = none
  apart : ∀ side : Side, (duplex.ends side).stage.replying = true →
    (duplex.ends side.other).stage.replying = false

@[simp]
theorem ends_set_self (duplex : Duplex) (side : Side) (endpoint : Endpoint) :
    (duplex.set side endpoint).ends side = endpoint := by
  simp [set]

theorem ends_set_ne {side side' : Side} (endpoint : Endpoint) (hne : side' ≠ side) :
    (duplex.set side endpoint).ends side' = duplex.ends side' :=
  Function.update_of_ne hne _ _

theorem Advance.running {side : Side} {endpoint : Endpoint}
    (hadvance : Advance externals bincode debugAssertions duplex side endpoint)
    (hrunning : (duplex.ends side).link.Running) :
    endpoint.link.Running ∧ endpoint.link.aborted = (duplex.ends side).link.aborted := by
  cases hadvance with
  | link hwrites hlink => exact hrunning.writes hwrites hlink
  | change => exact ⟨hrunning, rfl⟩
  | route hroute =>
      have hresume := (Endpoint.resume_of_route hroute).2
      rcases (Endpoint.reader_of_resume hresume).1 with heq | ⟨msg, hlink⟩
      · rw [heq]
        exact ⟨hrunning, rfl⟩
      · exact hrunning.writes rfl hlink

theorem Advance.stage {side : Side} {endpoint : Endpoint}
    (hadvance : Advance externals bincode debugAssertions duplex side endpoint) :
    (endpoint.stage.reads = true → (duplex.ends side).stage.reads = true) ∧
    (endpoint.stage.replying = true → (duplex.ends side).stage.replying = true ∨
      ∃ peer msg frames, (duplex.ends side).stage = .routing peer (.sending (.lookup msg)) frames) := by
  cases hadvance with
  | link hwrites hlink => exact ⟨id, .inl⟩
  | change hstage =>
      rw [← hstage]
      exact ⟨id, .inl⟩
  | route hroute =>
      obtain ⟨hreads, hresume⟩ := Endpoint.resume_of_route hroute
      obtain ⟨effect, hreader⟩ := (Endpoint.reader_of_resume hresume).2
      obtain ⟨move, hmove, -, htask⟩ := Reader.move_of_resume hreader
      exact ⟨fun _ => hreads, fun hreplying =>
        .inr (ReadLoop.lookup_of_replying hmove htask hreplying)⟩

theorem Flowing.advance {side : Side} {endpoint : Endpoint} (hflowing : duplex.Flowing)
    (hadvance : Advance externals bincode debugAssertions duplex side endpoint)
    (hapart : endpoint.stage.replying = true → (duplex.ends side).stage.replying = true ∨
      (duplex.ends side.other).stage.replying = false) :
    (duplex.set side endpoint).Flowing := by
  obtain ⟨hrunning, haborted⟩ := hadvance.running (hflowing.running side)
  have hreplying : endpoint.stage.replying = true →
      (duplex.ends side.other).stage.replying = false := fun h =>
    (hapart h).elim (hflowing.apart side) id
  refine ⟨hflowing.buffer_pos, fun side' => ?_, fun side' => ?_, fun side' => ?_⟩
  · rcases side.eq_or_eq_other side' with rfl | rfl
    · rwa [ends_set_self]
    · rw [ends_set_ne _ (Side.other_ne side)]
      exact hflowing.running side.other
  · rcases side.eq_or_eq_other side' with rfl | rfl
    · rw [ends_set_self, ends_set_ne _ (Side.other_ne _)]
      exact fun hreads => hflowing.decodes _ (hadvance.stage.1 hreads)
    · rw [ends_set_ne _ (Side.other_ne side), Side.other_other, ends_set_self, haborted]
      exact fun hreads => by simpa using hflowing.decodes side.other hreads
  · rcases side.eq_or_eq_other side' with rfl | rfl
    · rwa [ends_set_self, ends_set_ne _ (Side.other_ne _)]
    · rw [ends_set_ne _ (Side.other_ne side), Side.other_other, ends_set_self]
      intro hother
      cases hself : endpoint.stage.replying with
      | false => rfl
      | true => exact absurd (hreplying hself) (by simp [hother])

theorem Flowing.step (hflowing : duplex.Flowing) (hapart : duplex.RepliesApart action)
    (hstep : duplex.step externals bincode debugAssertions action = some next) :
    next.Flowing := by
  rcases step_cases hstep with ⟨side, endpoint, hadvance, hstage, rfl⟩ |
    ⟨side, count, link, endpoint, hstage, hlink, hreceive, rfl⟩
  · refine hflowing.advance hadvance fun hreplying => ?_
    rcases hstage with heq | rfl
    · exact .inl (heq ▸ hreplying)
    · rcases hadvance.stage.2 hreplying with hbefore | ⟨peer, msg, frames, hlookup⟩
      · exact .inl hbefore
      · rw [RepliesApart, hlookup] at hapart
        exact .inr hapart
  · obtain ⟨hsame, hsilent, hdecoded⟩ := Endpoint.receive_cases hstage hreceive
    have hother : ((duplex.set side.other { duplex.ends side.other with link }).set side
        endpoint).ends side.other = { duplex.ends side.other with link } := by
      rw [ends_set_ne _ (Side.other_ne side), ends_set_self]
    refine ⟨hflowing.buffer_pos, fun side' => ?_, fun side' => ?_, fun side' => ?_⟩
    · rcases side.eq_or_eq_other side' with rfl | rfl
      · rw [ends_set_self, hsame]
        exact hflowing.running _
      · rw [hother]
        exact (hflowing.running side.other).read hlink
    · rcases side.eq_or_eq_other side' with rfl | rfl
      · rw [ends_set_self, hother]
        exact hdecoded
      · rw [hother, Side.other_other, ends_set_self, hsame]
        exact fun hreads => by simpa using hflowing.decodes side.other hreads
    · rcases side.eq_or_eq_other side' with rfl | rfl
      · rw [ends_set_self, hsilent]
        exact nofun
      · rw [hother, Side.other_other, ends_set_self]
        exact fun _ => hsilent

def Connected (duplex : Duplex) : Prop :=
  ∀ side, (duplex.ends side).stage.reads = true

def Pending (duplex : Duplex) : Prop :=
  ∃ side, (duplex.ends side).link.queue ≠ [] ∨ (duplex.ends side).link.writer.batch ≠ [] ∨
    (duplex.ends side).link.socket ≠ [] ∨ (duplex.ends side).stage.pending = true

def Stuck (externals : Externals) (bincode : Bincode) (debugAssertions : Bool) (duplex : Duplex) :
    Prop :=
  ∀ action : Action, action.isTransport = true →
    duplex.step externals bincode debugAssertions action = none

section Progress

variable {side : Side}

theorem route_isSome (hreads : (duplex.ends side).stage.reads = true)
    (hhandles : (duplex.ends side).stage ≠ .selecting)
    (hroom : (duplex.ends side).stage.replying = true →
      (duplex.ends side).link.queue.length < (duplex.ends side).link.capacity) :
    (duplex.step externals bincode debugAssertions (.route side)).isSome = true := by
  simp only [step, Option.isSome_map]
  exact Endpoint.route_isSome hreads hhandles hroom

theorem read_isSome (hselecting : (duplex.ends side).stage = .selecting)
    (hsocket : (duplex.ends side.other).link.socket ≠ [])
    (hdecodes : (duplex.ends side.other).link.aborted = none) :
    (duplex.step externals bincode debugAssertions (.read side 1)).isSome = true := by
  have hcount : 1 ≤ (duplex.ends side.other).link.socket.length :=
    List.length_pos_iff.mpr hsocket
  obtain ⟨link, hlink⟩ : ∃ link, (duplex.ends side.other).link.step bincode debugAssertions
      (.read 1) = some link := by
    simp only [Link.step, hdecodes]
    split <;> exact ⟨_, rfl⟩
  simp only [step, hselecting, hlink, Nat.one_pos, hcount, readBufSize, and_true,
    Option.isSome_map, show 1 ≤ 4096 by omega, if_true]
  simp only [Endpoint.receive, Endpoint.resume, Reader.resume, hselecting]
  split <;> rfl

theorem idle_of_stuck (hstuck : duplex.Stuck externals bincode debugAssertions)
    (hrunning : (duplex.ends side).link.Running)
    (hroom : (duplex.ends side).link.socket.length < duplex.buffer) :
    (duplex.ends side).link.writer = .receiving ∧ (duplex.ends side).link.queue = [] := by
  have hnone : ∀ action, writes (duplex.ends side).link duplex.buffer action = true →
      (duplex.ends side).link.step bincode debugAssertions action = none := by
    intro action hwrites
    simpa [step, hwrites] using hstuck (.write side action) rfl
  cases hwriter : (duplex.ends side).link.writer with
  | receiving =>
      cases hqueue : (duplex.ends side).link.queue with
      | nil => exact ⟨rfl, rfl⟩
      | cons msg queue =>
          have hrecv := hnone .recv rfl
          simp only [Link.step, hwriter, hqueue] at hrecv
          split at hrecv <;> cases hrecv
  | coalescing batch => simpa [Link.step, hwriter] using hnone .tryRecvEmpty rfl
  | writing rest => simpa [Link.step, hwriter] using hnone (.write 1) (by simp [writes]; omega)
  | returned unwritten => exact absurd hwriter (hrunning.writer unwritten)

theorem drained_of_stuck (hflowing : duplex.Flowing) (hconnected : duplex.Connected)
    (hstuck : duplex.Stuck externals bincode debugAssertions)
    (hsilent : (duplex.ends side).stage.replying = false) :
    (duplex.ends side).stage = .selecting ∧ (duplex.ends side.other).link.socket = [] ∧
      (duplex.ends side.other).link.writer = .receiving ∧
      (duplex.ends side.other).link.queue = [] := by
  have hselecting : (duplex.ends side).stage = .selecting := by
    by_contra hhandles
    have hroute : (duplex.step externals bincode debugAssertions (.route side)).isSome = true :=
      route_isSome (hconnected side) hhandles (by simp [hsilent])
    simp [hstuck (.route side) rfl] at hroute
  have hsocket : (duplex.ends side.other).link.socket = [] := by
    by_contra hsocket
    have hread : (duplex.step externals bincode debugAssertions (.read side 1)).isSome = true :=
      read_isSome hselecting hsocket (hflowing.decodes side (hconnected side))
    simp [hstuck (.read side 1) rfl] at hread
  exact ⟨hselecting, hsocket, idle_of_stuck hstuck (hflowing.running side.other)
    (by simpa [hsocket] using hflowing.buffer_pos)⟩

theorem Flowing.not_stuck (hflowing : duplex.Flowing) (hconnected : duplex.Connected)
    (hpending : duplex.Pending) : ¬ duplex.Stuck externals bincode debugAssertions := by
  intro hstuck
  obtain ⟨side, hsilent⟩ : ∃ side : Side, (duplex.ends side).stage.replying = false := by
    cases hleft : (duplex.ends .left).stage.replying with
    | false => exact ⟨.left, hleft⟩
    | true => exact ⟨.right, hflowing.apart .left hleft⟩
  obtain ⟨hstage, hsocket, hwriter, hqueue⟩ := drained_of_stuck hflowing hconnected hstuck hsilent
  have hsilent' : (duplex.ends side.other).stage.replying = false := by
    -- its queue is empty, so it would not wait
    rw [Bool.eq_false_iff]
    intro hreplying
    have hroute :
        (duplex.step externals bincode debugAssertions (.route side.other)).isSome = true :=
      route_isSome (hconnected side.other)
        (by rintro heq; simp [heq, ReadLoop.replying] at hreplying)
        (fun _ => by simpa [hqueue] using (hflowing.running side.other).capacity_pos)
    simp [hstuck (.route side.other) rfl] at hroute
  obtain ⟨hstage', hsocket', hwriter', hqueue'⟩ :=
    drained_of_stuck hflowing hconnected hstuck hsilent'
  rw [Side.other_other] at hsocket' hwriter' hqueue'
  obtain ⟨side', hframe⟩ := hpending
  rcases side.eq_or_eq_other side' with rfl | rfl
  · simp [hstage, hsocket', hwriter', hqueue', Writer.batch, ReadLoop.pending] at hframe
  · simp [hstage', hsocket, hwriter, hqueue, Writer.batch, ReadLoop.pending] at hframe

structure Clogged (duplex : Duplex) (side : Side) : Prop where
  replying : (duplex.ends side).stage.replying = true
  queue : (duplex.ends side).link.capacity ≤ (duplex.ends side).link.queue.length
  writer : (duplex.ends side).link.writer = .writing (duplex.ends side).link.writer.batch
  socket : duplex.buffer ≤ (duplex.ends side).link.socket.length

instance (duplex : Duplex) (side : Side) : Decidable (duplex.Clogged side) :=
  decidable_of_iff (_ ∧ _ ∧ _ ∧ _)
    ⟨fun h => ⟨h.1, h.2.1, h.2.2.1, h.2.2.2⟩, fun h => ⟨h.1, h.2, h.3, h.4⟩⟩

theorem stuck_of_clogged (hclogged : ∀ side, duplex.Clogged side) :
    duplex.Stuck externals bincode debugAssertions := by
  intro action htransport
  cases action with
  | send side msg => cases htransport
  | change side effect => cases htransport
  | write side action =>
      obtain ⟨rest, hwriter⟩ : ∃ rest, (duplex.ends side).link.writer = .writing rest :=
        ⟨_, (hclogged side).writer⟩
      have hsocket := (hclogged side).socket
      cases action with
      | write count =>
          have hfull : writes (duplex.ends side).link duplex.buffer (.write count) = false := by
            simp only [writes, Bool.and_eq_false_imp, decide_eq_true_eq, decide_eq_false_iff_not]
            omega
          simp [step, hfull]
      | _ => simp [step, writes, Link.step, hwriter]
  | read side count =>
      obtain ⟨peer, handle, msg, frames, hstage⟩ :=
        ReadLoop.eq_of_replying (hclogged side).replying
      simp [step, hstage]
  | route side =>
      obtain ⟨peer, handle, msg, frames, hstage⟩ :=
        ReadLoop.eq_of_replying (hclogged side).replying
      have hqueue := (hclogged side).queue
      simp [step, Endpoint.route, Endpoint.resume, Reader.resume, hstage, ReadLoop.move, Route.move,
        Sending.move, Endpoint.enqueue, Link.step, hqueue]

end Progress

end Duplex

namespace Peering

variable {externals : Externals} {bincode : Bincode} {debugAssertions : Bool} {duplex : Duplex}

/-- While the read loops do not both have an Error reply to send, some read, route or write step is enabled whenever a frame is queued or in flight. -/
theorem error_replies_never_deadlock (peering : Peering)
    (hreach : Machine.ReachableWhere (Duplex.step externals bincode debugAssertions)
      Duplex.RepliesApart peering.start duplex)
    (hconnected : duplex.Connected) (hpending : duplex.Pending) :
    ∃ action : Duplex.Action, action.isTransport = true ∧
      (duplex.step externals bincode debugAssertions action).isSome = true := by
  have hflowing : duplex.Flowing := by
    refine hreach.invariant ?_ fun _ _ _ hflowing hapart hstep => hflowing.step hapart hstep
    exact ⟨peering.buffer_pos, fun side => ⟨peering.capacity_pos side, nofun⟩, fun _ _ => rfl,
      nofun⟩
  have hmoves : ¬ duplex.Stuck externals bincode debugAssertions :=
    hflowing.not_stuck hconnected hpending
  simp only [Duplex.Stuck, not_forall] at hmoves
  obtain ⟨action, htransport, hsome⟩ := hmoves
  exact ⟨action, htransport, Option.isSome_iff_ne_none.mpr hsome⟩

end Peering

/-! ### Two nodes that send to actors the other does not have -/

namespace Fixed

def ids : Side → NodeId
  | .left => ⟨"m", "h", 1⟩
  | .right => ⟨"a", "h", 2⟩

def peering : Peering where
  ids := ids
  conn _ := 1
  transports side := { Transport.listen (ids side) {} fun _ => { capacity := 1 } with
    peers := Function.update (fun _ => none) (ids side.other) (some ⟨ids side.other, 1⟩) }
  capacity _ := 1
  buffer := 18
  registered _ := by simp
  capacity_pos _ := Nat.one_pos
  buffer_pos := by decide

def stray (side : Side) : WireMessage :=
  (peering.transports side).dataMessage "x" [] none none

def straying (side : Side) : List Duplex.Action :=
  [.send side (stray side), .write side .recv, .write side .tryRecvEmpty]

/-- One side has sent four: the other reads the first and comes to reply, the second fills the TCP connection, the writer holds the third, and the fourth fills the queue. -/
def clogging (side : Side) : List Duplex.Action :=
  straying side ++ [.write side (.write 18), .read side.other 18] ++
    straying side ++ [.write side (.write 18)] ++ straying side ++ [.send side (stray side)]

def replying (side : Side) : List Duplex.Action :=
  [.route side, .route side, .route side, .route side]

end Fixed

namespace Peering

theorem error_replies_never_deadlock_stray :
    ∃ duplex, Machine.ReachableWhere (Duplex.step Fixed.externals .standard false)
        Duplex.RepliesApart Fixed.peering.start duplex ∧
      ∃ action : Duplex.Action, action.isTransport = true ∧
        (duplex.step Fixed.externals .standard false action).isSome = true := by
  have hrun : (Machine.runWhere (Duplex.step Fixed.externals .standard false)
      Duplex.RepliesApart Fixed.peering.start (Fixed.clogging .left)).map
        (fun duplex => ((duplex.ends .left).stage.reads, (duplex.ends .right).stage.reads,
          (duplex.ends .right).stage.pending)) = some (true, true, true) := by
    decide +kernel
  obtain ⟨duplex, hreach, hobserved⟩ := Machine.exists_reachableWhere hrun
  obtain ⟨hleft, hright, hpending⟩ := Prod.mk.inj hobserved |>.imp_right Prod.mk.inj
  refine ⟨duplex, hreach, error_replies_never_deadlock _ hreach ?_ ⟨.right, ?_⟩⟩
  · intro side
    cases side
    · exact hleft
    · exact hright
  · exact .inr (.inr (.inr hpending))

/-- With both sides sending, both read loops end up waiting for room, and nothing can move. -/
theorem error_replies_deadlock :
    ∃ duplex, Machine.Reachable (Duplex.step Fixed.externals .standard false)
        Fixed.peering.start duplex ∧
      duplex.Connected ∧ duplex.Pending ∧ duplex.Stuck Fixed.externals .standard false := by
  have hrun : (Machine.runWhere (Duplex.step Fixed.externals .standard false) (fun _ _ => True)
      Fixed.peering.start (Fixed.clogging .left ++ Fixed.clogging .right ++
        Fixed.replying .left ++ Fixed.replying .right)).map
        (fun duplex => decide (duplex.Clogged .left ∧ duplex.Clogged .right)) = some true := by
    decide +kernel
  obtain ⟨duplex, hreach, hobserved⟩ := Machine.exists_reachableWhere hrun
  obtain ⟨hleft, hright⟩ := of_decide_eq_true hobserved
  have hclogged : ∀ side, duplex.Clogged side := fun side => by
    cases side
    · exact hleft
    · exact hright
  have hconnected : duplex.Connected := fun side => by
    obtain ⟨peer, handle, msg, frames, hstage⟩ :=
      ReadLoop.eq_of_replying (hclogged side).replying
    rw [hstage]
    rfl
  obtain ⟨peer, handle, msg, frames, hstage⟩ := ReadLoop.eq_of_replying hleft.replying
  refine ⟨duplex, hreach, hconnected, ⟨.left, ?_⟩, Duplex.stuck_of_clogged hclogged⟩
  exact .inr (.inr (.inr (by rw [hstage]; rfl)))

end Peering

end LapinBeam
