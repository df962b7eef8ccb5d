import LapinBeam.Py.Bridge
import LapinBeam.Transport.Stretch

/-!
# What a step does to the frames on their way

`Moved` says it once for all steps: which of them move a frame, from where to where, and that every
other step leaves the frames alone.
-/

namespace LapinBeam

/-- The stages of `route` that report a failure to the sender. -/
def Route.answering : Route → Bool
  | .sendError _ _ | .sending _ => true
  | _ => false

/-- A change that concerns neither the actors' channels nor a full one. -/
def Effect.plain : Effect → Bool
  | .registerActor _ _ | .unregisterActor _ | .setInbox _ _ => false
  | .emit (.mailboxFull _) _ => false
  | _ => true

theorem Effect.routing_apply {effect : Effect} (transport : Transport)
    (hplain : effect.plain = true) : (effect.apply transport).routing = transport.routing := by
  cases effect <;> first | rfl | cases hplain

theorem Sending.plain_move {transport : Transport} {peer : NodeId} {stage : Sending} {input : Input}
    {effect : Effect} {progress : Progress Sending (Except SendError Unit)}
    (hmove : stage.move transport peer input = some (effect, progress)) : effect.plain = true := by
  revert hmove
  fun_cases Sending.move <;> rintro ⟨⟩ <;> rfl

theorem Route.answering_move {externals : Externals} {transport : Transport} {peer : NodeId}
    {route : Route} {input : Input} {effect : Effect} {progress : Progress Route Unit}
    (hanswering : route.answering = true)
    (hmove : route.move externals transport peer input = some (effect, progress)) :
    effect.plain = true ∧ ∀ next, progress = .next next → next.answering = true := by
  revert hanswering hmove
  fun_cases Route.move <;> rintro hanswering ⟨⟩
  case case10 => exact ⟨rfl, fun next hnext => by cases hnext; rfl⟩
  case case12 hstage =>
      exact ⟨Sending.plain_move hstage, fun next hnext => by cases hnext; rfl⟩
  case case13 hstage =>
      exact ⟨Sending.plain_move hstage, fun next hnext => by cases hnext⟩
  all_goals cases hanswering

namespace Bridge

variable {Object Payload : Type}

section Places

variable (bridge : Bridge Object Payload) (conn : ConnectionId)

/-- The read loop is about to `try_send` on this channel. -/
def aim : Option (Mailbox × Option Routed) :=
  match bridge.readers conn with
  | some ⟨_, frame, .trySend channel _⟩ => some (channel, frame)
  | _ => none

def sending : List Routed := (bridge.aim conn).elim [] (·.2.toList)

/-- The frame it is about to report as `mailbox_full`. -/
def reporting : List Routed :=
  match bridge.readers conn with
  | some ⟨_, frame, .reportFull _⟩ => frame.toList
  | _ => []

end Places

structure Quiet (bridge later : Bridge Object Payload) : Prop where
  registrations : later.registrations = bridge.registrations
  routing : ∀ name channel, later.transport.routing name = some channel →
    bridge.transport.routing name = some channel
  ready : later.ready = bridge.ready
  arrived : ∀ mailbox, (later.queues mailbox).arrived = (bridge.queues mailbox).arrived
  routed : later.routed = bridge.routed
  refused : later.refused = bridge.refused
  aim : ∀ conn, later.aim conn = bridge.aim conn
  reporting : ∀ conn, later.reporting conn = bridge.reporting conn

inductive Moved (host : Host Object Payload) (bridge : Bridge Object Payload) :
    Action Payload → Bridge Object Payload → Prop
  | quiet {action later} (hquiet : Quiet bridge later) : Moved host bridge action later
  | registered (name : String) (mailbox : MailboxId) :
      Moved host bridge (.registerActor name mailbox)
        { bridge with
          mailboxes := Function.update bridge.mailboxes name (some mailbox)
          transport :=
            (Effect.registerActor name bridge.registrations.length).apply bridge.transport
          registrations := bridge.registrations ++ [{ name, mailbox }] }
  | found {conn input peer old msg channel frame}
      (hreader : bridge.readers conn = some ⟨peer, old, .dispatch msg⟩)
      (hrouting : bridge.transport.routing msg.dstActor = some channel)
      (hframe : frame = ⟨conn, bridge.routed.length,
        (bridge.registrations[channel]?).map (·.mailbox), msg⟩) :
      Moved host bridge (.route conn input)
        { bridge with
          routed := bridge.routed ++ [frame]
          readers := Function.update bridge.readers conn
            (some ⟨peer, some frame, .trySend channel msg⟩) }
  | accepted {conn input peer frame msg channel}
      (hreader : bridge.readers conn = some ⟨peer, frame, .trySend channel msg⟩) :
      Moved host bridge (.route conn input)
        { bridge with
          registrations := bridge.registrations.modify channel fun registration =>
            { registration with queue := registration.queue ++ frame.toList }
          readers := Function.update bridge.readers conn none }
  | closed {conn input peer frame msg channel}
      (hreader : bridge.readers conn = some ⟨peer, frame, .trySend channel msg⟩)
      (hclosed : (bridge.view.inboxes channel).closed = true) :
      Moved host bridge (.route conn input)
        { bridge with readers := Function.update bridge.readers conn none }
  | overflowed {conn input peer frame msg channel}
      (hreader : bridge.readers conn = some ⟨peer, frame, .trySend channel msg⟩)
      (hfull : (bridge.view.inboxes channel).capacity ≤ (bridge.view.inboxes channel).queue.length)
      :
      Moved host bridge (.route conn input)
        { bridge with
          readers := Function.update bridge.readers conn (some ⟨peer, frame, .reportFull msg⟩) }
  | reported {conn input peer frame msg route}
      (hreader : bridge.readers conn = some ⟨peer, frame, .reportFull msg⟩)
      (hroute : route = .sendError ("mailbox_full:" ++ msg.dstActor) msg.correlationId) :
      Moved host bridge (.route conn input)
        { bridge with
          transport :=
            (Effect.emit (.mailboxFull msg.dstActor) none).apply bridge.transport
          refused := bridge.refused ++ frame.toList
          readers := Function.update bridge.readers conn (some ⟨peer, frame, route⟩) }
  | received {channel name mailbox frame queue}
      (hchannel : bridge.registrations[channel]? = some ⟨name, mailbox, frame :: queue, none⟩) :
      Moved host bridge (.recv channel)
        { bridge with
          registrations := bridge.registrations.set channel ⟨name, mailbox, queue, some frame⟩ }
  | unscheduled {channel name mailbox frame queue}
      (hchannel : bridge.registrations[channel]? = some ⟨name, mailbox, queue, some frame⟩)
      (hpayload : host.bytesToPy frame.msg.payload = none) :
      Moved host bridge (.schedule channel)
        { bridge with
          registrations := bridge.registrations.set channel ⟨name, mailbox, queue, none⟩ }
  | scheduled {channel name mailbox frame queue object}
      (hchannel : bridge.registrations[channel]? = some ⟨name, mailbox, queue, some frame⟩)
      (hpayload : host.bytesToPy frame.msg.payload = some object) :
      Moved host bridge (.schedule channel)
        { bridge with
          registrations := bridge.registrations.set channel ⟨name, mailbox, queue, none⟩
          ready := bridge.ready ++ [⟨name, mailbox, object, metaDict frame.msg, frame⟩] }
  | undecoded {call ready detail} (hready : bridge.ready = call :: ready)
      (hpayload : host.decodePayload call.object = .error detail) :
      Moved host bridge .callback
        { bridge with ready, events := bridge.events ++ [.decodeError call.name detail] }
  | refused {call ready} (hready : bridge.ready = call :: ready)
      (hmaxsize : 0 < host.maxsize call.mailbox) :
      Moved host bridge .callback
        { bridge with
          ready
          events := bridge.events ++ [.mailboxFull call.name]
          refused := bridge.refused ++ [call.frame]
          notifying := (NodeId.parse call.info.src).toOption.map
            (·, .sendError ("mailbox_full:" ++ call.name) call.info.correlationId) }
  | arrived {call ready payload} (hready : bridge.ready = call :: ready) :
      Moved host bridge .callback
        (put { bridge with ready } call.mailbox (payload, call.info) (some call.frame))

section Inversion

variable {externals : Externals} {host : Host Object Payload} {bridge later : Bridge Object Payload}
  {action : Action Payload} {conn : ConnectionId} {reader : Option Reader}

theorem aim_of_reader (hreader : later.readers conn = bridge.readers conn) :
    later.aim conn = bridge.aim conn := by
  simp only [aim, hreader]

theorem aim_of_idle (hreaders : later.readers = Function.update bridge.readers conn reader)
    (hidle : ∀ peer frame channel msg, reader ≠ some ⟨peer, frame, .trySend channel msg⟩)
    (other : ConnectionId) : later.aim other = if other = conn then none else bridge.aim other := by
  split
  · rename_i hother
    subst hother
    simp only [aim, hreaders, Function.update_self]
  · rename_i hother
    exact aim_of_reader (by rw [hreaders, Function.update_of_ne hother])

theorem sending_of_reader (hreader : later.readers conn = bridge.readers conn) :
    later.sending conn = bridge.sending conn := by
  rw [sending, aim_of_reader hreader, sending]

theorem sending_of_idle (hreaders : later.readers = Function.update bridge.readers conn reader)
    (hidle : ∀ peer frame channel msg, reader ≠ some ⟨peer, frame, .trySend channel msg⟩)
    (other : ConnectionId) :
    later.sending other = if other = conn then [] else bridge.sending other := by
  rw [sending, aim_of_idle hreaders hidle]
  split <;> rfl

theorem reporting_of_idle (hreaders : later.readers = Function.update bridge.readers conn reader)
    (hidle : ∀ peer frame msg, reader ≠ some ⟨peer, frame, .reportFull msg⟩) (other : ConnectionId)
    :
    later.reporting other = if other = conn then [] else bridge.reporting other := by
  split
  · rename_i hother
    subst hother
    simp only [reporting, hreaders, Function.update_self]
  · rename_i hother
    simp only [reporting, hreaders, Function.update_of_ne hother]

theorem quiet_of_reader {transport : Transport}
    (hrouting : transport.routing = bridge.transport.routing) (haim : bridge.aim conn = none)
    (hreporting : bridge.reporting conn = [])
    (hafter : ∀ peer frame channel msg, reader ≠ some ⟨peer, frame, .trySend channel msg⟩)
    (hafter' : ∀ peer frame msg, reader ≠ some ⟨peer, frame, .reportFull msg⟩) :
    Quiet bridge
      { bridge with transport, readers := Function.update bridge.readers conn reader } where
  registrations := rfl
  routing name channel := by simp only [hrouting, imp_self]
  ready := rfl
  arrived _ := rfl
  routed := rfl
  refused := rfl
  aim other := by
    rw [aim_of_idle rfl hafter]
    split
    · rename_i hother
      rw [hother, haim]
    · rfl
  reporting other := by
    rw [reporting_of_idle rfl hafter']
    split
    · rename_i hother
      rw [hother, hreporting]
    · rfl

theorem quiet_of_same (hregistrations : later.registrations = bridge.registrations)
    (hrouting : ∀ name channel, later.transport.routing name = some channel →
      bridge.transport.routing name = some channel)
    (hready : later.ready = bridge.ready)
    (harrived : ∀ mailbox, (later.queues mailbox).arrived = (bridge.queues mailbox).arrived)
    (hrouted : later.routed = bridge.routed) (hrefused : later.refused = bridge.refused)
    (hreaders : later.readers = bridge.readers) : Quiet bridge later where
  registrations := hregistrations
  routing := hrouting
  ready := hready
  arrived := harrived
  routed := hrouted
  refused := hrefused
  aim conn := aim_of_reader (by rw [hreaders])
  reporting conn := by simp only [Bridge.reporting, hreaders]

theorem quiet_of_answering {peer : NodeId} {frame : Option Routed} {route : Route}
    {effect : Effect} {progress : Progress Route Unit}
    (hreader : bridge.readers conn = some ⟨peer, frame, route⟩)
    (hbefore : ∀ channel msg, route ≠ .trySend channel msg)
    (hbefore' : ∀ msg, route ≠ .reportFull msg) (hplain : effect.plain = true)
    (hafter : ∀ route, progress = .next route → route.answering = true) :
    Quiet bridge ((bridge.absorb frame effect).proceed conn ⟨peer, frame, route⟩ progress) := by
  have haim : bridge.aim conn = none := by
    simp only [aim, hreader]
    split
    · rename_i heq
      cases heq
      exact absurd rfl (hbefore _ _)
    · rfl
  have hreporting : bridge.reporting conn = [] := by
    simp only [reporting, hreader]
    split
    · rename_i heq
      cases heq
      exact absurd rfl (hbefore' _)
    · rfl
  have habsorb : bridge.absorb frame effect =
      { bridge with transport := effect.apply bridge.transport } := by
    revert hplain
    fun_cases absorb <;> intro hplain <;> first | rfl | cases hplain
  have hrouting := Effect.routing_apply bridge.transport hplain
  rw [habsorb]
  cases progress with
  | done _ =>
      exact quiet_of_reader hrouting haim hreporting (fun _ _ _ _ => nofun) fun _ _ _ => nofun
  | next route =>
      have hroute := hafter route rfl
      cases route with
      | sendError | sending =>
          exact quiet_of_reader hrouting haim hreporting (fun _ _ _ _ => nofun) fun _ _ _ => nofun
      | dispatch | trySend | reportFull => cases hroute

theorem moved_of_route {input : Input} (hstep : bridge.route externals conn input = some later) :
    Moved host bridge (.route conn input) later := by
  simp only [route] at hstep
  split at hstep
  · cases hstep
  rename_i reader hreader
  split at hstep
  · cases hstep
  rename_i effect progress hmove
  obtain rfl := Option.some.inj hstep
  obtain ⟨peer, frame, route⟩ := reader
  cases route with
  | dispatch msg =>
      have hquiet : effect.plain = true →
          (∀ route, progress = .next route → route.answering = true) →
          Moved host bridge (.route conn input)
            ((bridge.absorb frame effect).proceed conn ⟨peer, frame, .dispatch msg⟩ progress) :=
        fun hplain hafter =>
          .quiet (quiet_of_answering hreader (fun _ _ => nofun) (fun _ => nofun) hplain hafter)
      cases input
      case go =>
        simp only [Route.move] at hmove
        split at hmove
        · cases hmove
          exact hquiet rfl fun _ => nofun
        · cases hmove
          exact hquiet rfl fun _ => nofun
        · split at hmove
          · cases hmove
            exact .found hreader ‹_› rfl
          · cases hmove
            exact hquiet rfl fun route hroute => by cases hroute; rfl
        · cases hmove
          exact hquiet rfl fun _ => nofun
      all_goals cases hmove
  | trySend channel msg =>
      cases input
      case go =>
        simp only [Route.move] at hmove
        split at hmove
        · cases hmove
          exact .closed hreader ‹_›
        split at hmove
        · cases hmove
          exact .accepted hreader
        · cases hmove
          exact .overflowed hreader (Nat.le_of_not_lt ‹_›)
      all_goals cases hmove
  | reportFull msg =>
      cases input
      case go =>
        cases hmove
        exact .reported hreader rfl
      all_goals cases hmove
  | sendError | sending =>
      obtain ⟨hplain, hafter⟩ := Route.answering_move rfl hmove
      exact .quiet (quiet_of_answering hreader (fun _ _ => nofun) (fun _ => nofun) hplain hafter)

theorem moved_of_schedule {channel : Mailbox} (hstep : bridge.schedule host channel = some later) :
    Moved host bridge (.schedule channel) later := by
  simp only [schedule] at hstep
  split at hstep
  · split at hstep
    · cases hstep
      exact .unscheduled ‹_› ‹_›
    · cases hstep
      exact .scheduled ‹_› ‹_›
  · cases hstep

theorem moved_of_callback (hstep : bridge.callback host = some later) :
    Moved host bridge .callback later := by
  simp only [callback] at hstep
  split at hstep
  · split at hstep
    · cases hstep
      exact .undecoded ‹_› ‹_›
    · split at hstep
      · rename_i hfull
        simp only [full, Bool.and_eq_true, decide_eq_true_eq] at hfull
        cases hstep
        exact .refused ‹_› hfull.1
      · cases hstep
        exact .arrived ‹_›
  · cases hstep

theorem quiet_of_notify {input : Input} (hstep : bridge.notify externals input = some later) :
    Quiet bridge later := by
  have hrouting : ∀ {peer : NodeId} {route : Route} {effect : Effect}
      {progress : Progress Route Unit},
      route.move externals bridge.view peer input = some (effect, progress) →
        (effect.apply bridge.transport).routing = bridge.transport.routing := by
    intro peer route effect progress hmove
    revert hmove
    fun_cases Route.move <;> rintro ⟨⟩
    case case12 hstage | case13 hstage => exact Effect.routing_apply _ (Sending.plain_move hstage)
    all_goals rfl
  simp only [notify] at hstep
  split at hstep
  · cases hstep
  split at hstep
  · cases hstep
  all_goals
    rename_i hmove
    cases hstep
    refine quiet_of_same rfl (fun name channel => ?_) rfl (fun _ => rfl) rfl rfl rfl
    simp only [hrouting hmove, imp_self]

theorem quiet_of_put {mailbox : MailboxId} {item : Payload × MessageMeta} :
    Quiet bridge (bridge.put mailbox item none) := by
  refine quiet_of_same rfl (fun _ _ => id) rfl (fun other => ?_) rfl rfl rfl
  by_cases hother : other = mailbox
  · subst hother
    simp [put]
  · simp [put, hother]

theorem moved_of_step (hstep : bridge.step externals host action = some later) :
    Moved host bridge action later := by
  cases action with
  | take conn peer msg =>
      simp only [step, Option.ite_none_right_eq_some, Option.some.injEq,
        Option.isNone_iff_eq_none] at hstep
      obtain ⟨hreader, rfl⟩ := hstep
      refine .quiet (quiet_of_reader rfl ?_ ?_ (fun _ _ _ _ => nofun) fun _ _ _ => nofun)
      · simp only [aim, hreader]
      · simp only [reporting, hreader]
  | route conn input => exact moved_of_route hstep
  | registerActor name mailbox =>
      simp only [step, registerActor, Option.ite_none_right_eq_some, Option.some.injEq] at hstep
      obtain ⟨-, rfl⟩ := hstep
      exact .registered name mailbox
  | unregisterActor name =>
      simp only [step, unregisterActor, Option.ite_none_right_eq_some, Option.some.injEq] at hstep
      obtain ⟨-, rfl⟩ := hstep
      refine .quiet (quiet_of_same rfl (fun other channel hother => ?_) rfl (fun _ => rfl) rfl rfl rfl)
      by_cases hname : other = name
      · subst hname
        simp [Effect.apply] at hother
      · simpa [Effect.apply, hname] using hother
  | recv channel =>
      simp only [step, recv] at hstep
      split at hstep
      · cases hstep
        exact .received ‹_›
      · cases hstep
  | schedule channel => exact moved_of_schedule hstep
  | callback => exact moved_of_callback hstep
  | notify input => exact .quiet (quiet_of_notify hstep)
  | sendLocal name payload replyTo correlationId =>
      simp only [step, sendLocal] at hstep
      split at hstep
      · split at hstep <;> cases hstep
        · exact .quiet (quiet_of_same rfl (fun _ _ => id) rfl (fun _ => rfl) rfl rfl rfl)
        · exact .quiet quiet_of_put
      · cases hstep
  | get mailbox =>
      simp only [step, get] at hstep
      split at hstep
      · cases hstep
        refine .quiet (quiet_of_same rfl (fun _ _ => id) rfl (fun other => ?_) rfl rfl rfl)
        by_cases hother : other = mailbox
        · subst hother
          simp
        · simp [hother]
      · cases hstep
  | change effect =>
      simp only [step] at hstep
      split at hstep
      · cases hstep
      · rename_i hlocal
        cases hstep
        refine .quiet (quiet_of_same rfl (fun name channel => ?_) rfl (fun _ => rfl) rfl rfl rfl)
        cases effect <;> first | exact id | exact absurd rfl hlocal

end Inversion

/-! ### The stretches of `route` on a data frame -/

section Forward

variable (externals : Externals) (host : Host Object Payload) {bridge : Bridge Object Payload}
  {conn : ConnectionId} {peer : NodeId} {frame : Option Routed} {msg : WireMessage}
  {channel : Mailbox} {registration : Registration}

theorem route_found (hreader : bridge.readers conn = some ⟨peer, frame, .dispatch msg⟩)
    (hdata : msg.kind = .data) (hrouting : bridge.transport.routing msg.dstActor = some channel) :
    ∃ later new, bridge.step externals host (.route conn .go) = some later ∧
      later.readers conn = some ⟨peer, some new, .trySend channel msg⟩ ∧
      new.mailbox = (bridge.registrations[channel]?).map (·.mailbox) ∧
      later.registrations = bridge.registrations ∧ later.transport = bridge.transport := by
  have hview : bridge.view.routing msg.dstActor = some channel := hrouting
  simp only [step, route, hreader, Route.move, hdata, hview]
  exact ⟨_, _, rfl, Function.update_self _ _ _, rfl, rfl, rfl⟩

theorem route_accepted (hreader : bridge.readers conn = some ⟨peer, frame, .trySend channel msg⟩)
    (hchannel : bridge.registrations[channel]? = some registration)
    (hroom : registration.queue.length < channelCapacity) :
    bridge.step externals host (.route conn .go) =
      some { bridge with
        registrations := bridge.registrations.modify channel fun registration =>
          { registration with queue := registration.queue ++ frame.toList }
        readers := Function.update bridge.readers conn none } := by
  have hinbox : bridge.view.inboxes channel = registration.inbox := by simp [view, hchannel]
  have hlength : registration.inbox.queue.length < registration.inbox.capacity := by
    simpa [Registration.inbox] using hroom
  simp only [step, route, hreader, Route.move, hinbox, if_pos hlength]
  rfl

theorem route_overflowed (hreader : bridge.readers conn = some ⟨peer, frame, .trySend channel msg⟩)
    (hchannel : bridge.registrations[channel]? = some registration)
    (hfull : channelCapacity ≤ registration.queue.length) :
    ∃ later, bridge.step externals host (.route conn .go) = some later ∧
      later.readers conn = some ⟨peer, frame, .reportFull msg⟩ := by
  have hinbox : bridge.view.inboxes channel = registration.inbox := by simp [view, hchannel]
  have hlength : ¬ registration.inbox.queue.length < registration.inbox.capacity := by
    simpa [Registration.inbox] using hfull
  simp only [step, route, hreader, Route.move, hinbox, if_neg hlength]
  exact ⟨_, rfl, by simp [proceed]⟩

theorem route_reported (hreader : bridge.readers conn = some ⟨peer, frame, .reportFull msg⟩) :
    ∃ later, bridge.step externals host (.route conn .go) = some later ∧
      later.refused = bridge.refused ++ frame.toList := by
  simp only [step, route, hreader, Route.move]
  exact ⟨_, rfl, rfl⟩

end Forward

end Bridge

end LapinBeam
