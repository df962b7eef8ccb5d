import LapinBeam.Py.Stretch

/-!
# Unbounded mailboxes

A node made without `mailbox_capacity` gives its actors mailboxes without a bound, and so does
`ask_stream`. In front of each of them stands the channel of its registration, which has one: a
frame that finds 256 undrained frames there is dropped and reported as `mailbox_full`, whatever the
mailbox. Where every frame finds room in the channel, none that can be decoded is lost.
-/

namespace LapinBeam.Bridge

variable {Object Payload : Type}

section Conditions

variable (host : Host Object Payload)

def Routed.unbounded (frame : Routed) : Bool := frame.mailbox.any (host.maxsize · = 0)

def Routed.decodes (frame : Routed) : Bool :=
  (host.bytesToPy frame.msg.payload).any fun object => (host.decodePayload object).isOk

/-- A step in which a frame for a mailbox without a bound finds room in its channel. -/
def roomy (bridge : Bridge Object Payload) : Action Payload → Bool
  | .route conn _ =>
      (bridge.aim conn).all fun (channel, frame) =>
        frame.any (Routed.unbounded host) →
          (bridge.registrations[channel]?).all (·.queue.length < channelCapacity)
  | _ => true

end Conditions

inductive Placed (bridge : Bridge Object Payload) (frame : Routed) : Prop
  | sending (hsending : frame ∈ bridge.sending frame.conn)
  | channel {registration : Registration} (hregistration : registration ∈ bridge.registrations)
      (hheld : frame ∈ registration.held)
  | scheduled {call : Scheduled Object} (hcall : call ∈ bridge.ready) (hframe : call.frame = frame)
  | arrived {mailbox : MailboxId} (hmailbox : frame.mailbox = some mailbox)
      (harrived : frame ∈ (bridge.queues mailbox).arrived)

def targets (bridge : Bridge Object Payload) : List MailboxId :=
  bridge.registrations.map (·.mailbox)

structure Linked (host : Host Object Payload) (bridge : Bridge Object Payload) : Prop where
  routing : ∀ name channel, bridge.transport.routing name = some channel →
    ∃ mailbox, bridge.targets[channel]? = some mailbox
  aim : ∀ conn channel frame, bridge.aim conn = some (channel, frame) →
    ∃ sent mailbox, frame = some sent ∧ sent.conn = conn ∧ sent.mailbox = some mailbox ∧
      bridge.targets[channel]? = some mailbox
  held : ∀ registration ∈ bridge.registrations, ∀ frame ∈ registration.held,
    frame.mailbox = some registration.mailbox
  ready : ∀ call ∈ bridge.ready, call.frame.mailbox = some call.mailbox ∧
    host.bytesToPy call.frame.msg.payload = some call.object

structure Conserved (host : Host Object Payload) (bridge : Bridge Object Payload) : Prop where
  reporting : ∀ conn, ∀ frame ∈ bridge.reporting conn, frame.unbounded host = false
  refused : ∀ frame ∈ bridge.refused, frame.unbounded host = false
  placed : ∀ frame ∈ bridge.routed, frame.unbounded host = true → frame.decodes host = true →
    bridge.Placed frame

section Steps

variable {host : Host Object Payload} {bridge later : Bridge Object Payload}
  {action : Action Payload} {source : ConnectionId} {channel : Mailbox} {frame : Routed}
  {registration changed : Registration} {reader : Option Reader}

theorem targets_set (hchannel : bridge.registrations[channel]? = some registration)
    (hset : later.registrations = bridge.registrations.set channel changed)
    (hmailbox : changed.mailbox = registration.mailbox) : later.targets = bridge.targets := by
  obtain ⟨hlt, hget⟩ := List.getElem?_eq_some_iff.mp hchannel
  have hlt' : channel < (bridge.registrations.map (·.mailbox)).length := by simpa using hlt
  have htarget : (bridge.registrations.map (·.mailbox))[channel] = registration.mailbox := by
    rw [List.getElem_map, hget]
  rw [targets, hset, List.map_set, hmailbox, ← htarget, List.set_getElem_self, targets]

theorem Linked.of_same (hlinked : bridge.Linked host) (htargets : later.targets = bridge.targets)
    (hrouting : ∀ name channel, later.transport.routing name = some channel →
      bridge.transport.routing name = some channel)
    (haim : ∀ conn, later.aim conn = none ∨ later.aim conn = bridge.aim conn)
    (hheld : ∀ registration ∈ later.registrations, ∀ frame ∈ registration.held,
      frame.mailbox = some registration.mailbox)
    (hready : ∀ call ∈ later.ready, call.frame.mailbox = some call.mailbox ∧
      host.bytesToPy call.frame.msg.payload = some call.object) :
    later.Linked host where
  routing name channel hname := htargets ▸ hlinked.routing name channel (hrouting name channel hname)
  aim conn channel frame hframe := by
    rcases haim conn with hnone | hsame
    · rw [hnone] at hframe
      cases hframe
    · rw [htargets]
      exact hlinked.aim conn channel frame (hsame ▸ hframe)
  held := hheld
  ready := hready

theorem aim_idle (hreaders : later.readers = Function.update bridge.readers source reader)
    (hidle : ∀ peer frame channel msg, reader ≠ some ⟨peer, frame, .trySend channel msg⟩)
    (other : ConnectionId) : later.aim other = none ∨ later.aim other = bridge.aim other := by
  rw [aim_of_idle hreaders hidle]
  split
  · exact .inl rfl
  · exact .inr rfl

theorem Linked.sends (hlinked : bridge.Linked host) {peer : NodeId} {frame : Option Routed}
    {msg : WireMessage}
    (hreader : bridge.readers source = some ⟨peer, frame, .trySend channel msg⟩) :
    ∃ sent registration, frame = some sent ∧ sent.conn = source ∧
      sent.mailbox = some registration.mailbox ∧
      bridge.registrations[channel]? = some registration := by
  have haim : bridge.aim source = some (channel, frame) := by simp only [Bridge.aim, hreader]
  obtain ⟨sent, mailbox, hsent, hconn, hmailbox, htarget⟩ := hlinked.aim source channel frame haim
  rw [targets, List.getElem?_map, Option.map_eq_some_iff] at htarget
  obtain ⟨registration, hregistration, rfl⟩ := htarget
  exact ⟨sent, registration, hsent, hconn, hmailbox, hregistration⟩

theorem mem_set (hchannel : bridge.registrations[channel]? = some registration) :
    changed ∈ bridge.registrations.set channel changed :=
  List.mem_of_getElem? (List.getElem?_set_self (List.getElem?_eq_some_iff.mp hchannel).1)

theorem Conserved.reporting_idle (hconserved : bridge.Conserved host)
    (hreaders : later.readers = Function.update bridge.readers source reader)
    (hidle : ∀ peer frame msg, reader ≠ some ⟨peer, frame, .reportFull msg⟩) (other : ConnectionId)
    :
    ∀ frame ∈ later.reporting other, frame.unbounded host = false := by
  rw [reporting_of_idle hreaders hidle]
  split
  · exact fun _ => nofun
  · exact hconserved.reporting other

theorem modify_push {frame : Option Routed}
    (hchannel : bridge.registrations[channel]? = some registration) :
    (bridge.registrations.modify channel fun registration =>
        { registration with queue := registration.queue ++ frame.toList }) =
      bridge.registrations.set channel
        { registration with queue := registration.queue ++ frame.toList } := by
  rw [List.modify_eq_set_getElem?, hchannel]
  rfl

theorem Linked.held_set (hlinked : bridge.Linked host)
    (hchanged : ∀ frame ∈ changed.held, frame.mailbox = some changed.mailbox) :
    ∀ registration ∈ bridge.registrations.set channel changed, ∀ frame ∈ registration.held,
      frame.mailbox = some registration.mailbox := by
  intro registration hmem
  rcases List.mem_or_eq_of_mem_set hmem with hold | rfl
  · exact hlinked.held registration hold
  · exact hchanged

theorem Linked.next (hlinked : bridge.Linked host) (hmoved : Moved host bridge action later) :
    later.Linked host := by
  cases hmoved with
  | quiet hquiet =>
      refine hlinked.of_same ?_ hquiet.routing (fun conn => .inr (hquiet.aim conn)) ?_ ?_
      · rw [targets, hquiet.registrations, targets]
      · rw [hquiet.registrations]
        exact hlinked.held
      · rw [hquiet.ready]
        exact hlinked.ready
  | registered title target =>
      have htargets : ∀ channel mailbox, bridge.targets[channel]? = some mailbox →
          (bridge.targets ++ [target])[channel]? = some mailbox := fun channel mailbox hchannel =>
        (List.getElem?_append_left (List.getElem?_eq_some_iff.mp hchannel).1).trans hchannel
      refine ⟨fun name channel hname => ?_, fun conn channel frame hframe => ?_, ?_,
        hlinked.ready⟩ <;> simp only [targets, List.map_append, List.map_cons, List.map_nil]
      · by_cases htitle : name = title
        · subst htitle
          obtain rfl : bridge.registrations.length = channel := by
            simpa [Effect.apply] using hname
          exact ⟨target, by simp⟩
        · have hold : bridge.transport.routing name = some channel := by
            simpa [Effect.apply, htitle] using hname
          obtain ⟨mailbox, hmailbox⟩ := hlinked.routing name channel hold
          exact ⟨mailbox, htargets channel mailbox hmailbox⟩
      · obtain ⟨sent, mailbox, hsent, hconn, hmailbox, htarget⟩ :=
          hlinked.aim conn channel frame hframe
        exact ⟨sent, mailbox, hsent, hconn, hmailbox, htargets channel mailbox htarget⟩
      · intro registration hmem frame hframe
        rcases List.mem_append.mp hmem with hold | hnew
        · exact hlinked.held registration hold frame hframe
        · obtain rfl := List.mem_singleton.mp hnew
          cases hframe
  | @found source _ peer _ msg channel frame hreader hrouting hframe =>
      refine ⟨hlinked.routing, fun other channel' frame' haim => ?_, hlinked.held, hlinked.ready⟩
      by_cases hother : other = source
      · subst hother
        simp only [Bridge.aim, Function.update_self, Option.some.injEq, Prod.mk.injEq] at haim
        obtain ⟨rfl, rfl⟩ := haim
        obtain ⟨mailbox, hmailbox⟩ := hlinked.routing _ _ hrouting
        refine ⟨frame, mailbox, rfl, by rw [hframe], ?_, hmailbox⟩
        rw [targets, List.getElem?_map] at hmailbox
        rw [hframe, hmailbox]
      · refine hlinked.aim other channel' frame' (haim ▸ (aim_of_reader ?_).symm)
        exact Function.update_of_ne hother _ _
  | accepted hreader =>
      obtain ⟨sent, registration, rfl, -, hmailbox, hchannel⟩ := hlinked.sends hreader
      rw [modify_push hchannel]
      refine hlinked.of_same (targets_set hchannel rfl rfl) (fun _ _ => id)
        (aim_idle rfl (by simp)) (hlinked.held_set fun frame hframe => ?_) hlinked.ready
      have hheld := hlinked.held registration (List.mem_of_getElem? hchannel) frame
      simp only [Registration.held, List.mem_append, Option.toList_some, List.mem_singleton,
        ← or_assoc] at hframe hheld
      rcases hframe with hold | rfl
      · exact hheld hold
      · exact hmailbox
  | closed hreader hclosed | overflowed hreader hfull =>
      exact hlinked.of_same rfl (fun _ _ => id) (aim_idle rfl (by simp)) hlinked.held
        hlinked.ready
  | reported hreader hroute =>
      exact hlinked.of_same rfl (fun _ _ => id) (aim_idle rfl (by simp [hroute])) hlinked.held
        hlinked.ready
  | received hchannel =>
      have hheld := hlinked.held _ (List.mem_of_getElem? hchannel)
      exact hlinked.of_same (targets_set hchannel rfl rfl) (fun _ _ => id) (fun _ => .inr rfl)
        (hlinked.held_set hheld) hlinked.ready
  | unscheduled hchannel hpayload =>
      have hheld := hlinked.held _ (List.mem_of_getElem? hchannel)
      exact hlinked.of_same (targets_set hchannel rfl rfl) (fun _ _ => id) (fun _ => .inr rfl)
        (hlinked.held_set fun frame hframe => hheld frame (List.mem_cons_of_mem _ hframe))
        hlinked.ready
  | scheduled hchannel hpayload =>
      have hheld := hlinked.held _ (List.mem_of_getElem? hchannel)
      refine hlinked.of_same (targets_set hchannel rfl rfl) (fun _ _ => id) (fun _ => .inr rfl)
        (hlinked.held_set fun frame hframe => hheld frame (List.mem_cons_of_mem _ hframe))
        fun call hcall => ?_
      rcases List.mem_append.mp hcall with hold | hnew
      · exact hlinked.ready call hold
      · obtain rfl := List.mem_singleton.mp hnew
        exact ⟨hheld _ List.mem_cons_self, hpayload⟩
  | undecoded hready hpayload | refused hready hmaxsize | arrived hready =>
      refine hlinked.of_same rfl (fun _ _ => id) (fun _ => .inr rfl) hlinked.held fun call hcall => ?_
      exact hlinked.ready call (hready ▸ List.mem_cons_of_mem _ hcall)

theorem Conserved.of_placed (hconserved : bridge.Conserved host)
    (hrouted : later.routed = bridge.routed) (hrefused : later.refused = bridge.refused)
    (hreporting : ∀ conn, ∀ frame ∈ later.reporting conn, frame.unbounded host = false)
    (hplaced : ∀ frame, frame.unbounded host = true → frame.decodes host = true →
      bridge.Placed frame → later.Placed frame) : later.Conserved host where
  reporting := hreporting
  refused := hrefused ▸ hconserved.refused
  placed frame hmem hunbounded hdecodes :=
    hplaced frame hunbounded hdecodes
      (hconserved.placed frame (hrouted ▸ hmem) hunbounded hdecodes)

theorem Placed.of_set (hplaced : bridge.Placed frame)
    (hchannel : bridge.registrations[channel]? = some registration)
    (hset : later.registrations = bridge.registrations.set channel changed)
    (hown : frame ∈ registration.held → later.Placed frame)
    (hsending : frame ∈ bridge.sending frame.conn → later.Placed frame)
    (hready : ∀ call ∈ bridge.ready, call ∈ later.ready) (hqueues : later.queues = bridge.queues) :
    later.Placed frame := by
  cases hplaced with
  | sending hmem => exact hsending hmem
  | channel hregistration hheld =>
      obtain ⟨position, hposition⟩ := List.mem_iff_getElem?.mp hregistration
      by_cases hsame : position = channel
      · subst hsame
        obtain rfl := Option.some.inj (hchannel.symm.trans hposition)
        exact hown hheld
      · refine .channel (List.mem_of_getElem? (i := position) ?_) hheld
        rw [hset, List.getElem?_set_ne (Ne.symm hsame)]
        exact hposition
  | scheduled hcall hframe => exact .scheduled (hready _ hcall) hframe
  | arrived hmailbox harrived => exact .arrived hmailbox (hqueues ▸ harrived)

theorem Placed.of_readers (hplaced : bridge.Placed frame)
    (hreaders : later.readers = Function.update bridge.readers source reader)
    (hown : frame ∈ bridge.sending source → later.Placed frame)
    (hregistrations : later.registrations = bridge.registrations)
    (hready : later.ready = bridge.ready) (hqueues : later.queues = bridge.queues) :
    later.Placed frame := by
  cases hplaced with
  | sending hsending =>
      by_cases hconn : frame.conn = source
      · exact hown (hconn ▸ hsending)
      · have hsame : later.sending frame.conn = bridge.sending frame.conn :=
          sending_of_reader (by rw [hreaders, Function.update_of_ne hconn])
        exact .sending (hsame ▸ hsending)
  | channel hregistration hheld => exact .channel (hregistrations ▸ hregistration) hheld
  | scheduled hcall hframe => exact .scheduled (hready ▸ hcall) hframe
  | arrived hmailbox harrived => exact .arrived hmailbox (hqueues ▸ harrived)

theorem Placed.of_ready (hplaced : bridge.Placed frame) {call : Scheduled Object}
    (hready : bridge.ready = call :: later.ready) (hcall : call.frame = frame → later.Placed frame)
    (hregistrations : later.registrations = bridge.registrations)
    (hreaders : later.readers = bridge.readers)
    (hqueues : ∀ mailbox, (bridge.queues mailbox).arrived ⊆ (later.queues mailbox).arrived) :
    later.Placed frame := by
  cases hplaced with
  | sending hsending =>
      have hsame : later.sending frame.conn = bridge.sending frame.conn :=
        sending_of_reader (by rw [hreaders])
      exact .sending (hsame ▸ hsending)
  | channel hregistration hheld => exact .channel (hregistrations ▸ hregistration) hheld
  | scheduled hmem hframe =>
      rw [hready] at hmem
      rcases List.mem_cons.mp hmem with rfl | hold
      · exact hcall hframe
      · exact .scheduled hold hframe
  | arrived hmailbox harrived => exact .arrived hmailbox (hqueues _ harrived)

theorem Conserved.next (hlinked : bridge.Linked host) (hconserved : bridge.Conserved host)
    (hroomy : bridge.roomy host action = true) (hmoved : Moved host bridge action later) :
    later.Conserved host := by
  cases hmoved with
  | quiet hquiet =>
      refine hconserved.of_placed hquiet.routed hquiet.refused (fun conn => ?_)
        fun frame _ _ hplaced => ?_
      · rw [hquiet.reporting]
        exact hconserved.reporting conn
      · cases hplaced with
        | sending hsending => exact .sending (by rwa [Bridge.sending, hquiet.aim])
        | channel hregistration hheld => exact .channel (hquiet.registrations ▸ hregistration) hheld
        | scheduled hcall hframe => exact .scheduled (hquiet.ready ▸ hcall) hframe
        | arrived hmailbox harrived => exact .arrived hmailbox (hquiet.arrived _ ▸ harrived)
  | registered title target =>
      refine hconserved.of_placed rfl rfl hconserved.reporting fun frame _ _ hplaced => ?_
      cases hplaced with
      | sending hsending => exact .sending hsending
      | channel hregistration hheld => exact .channel (List.mem_append_left _ hregistration) hheld
      | scheduled hcall hframe => exact .scheduled hcall hframe
      | arrived hmailbox harrived => exact .arrived hmailbox harrived
  | @found source _ peer _ msg channel new hreader hrouting hnew =>
      refine ⟨hconserved.reporting_idle rfl (by simp), hconserved.refused,
        fun frame hmem hunbounded hdecodes => ?_⟩
      rcases List.mem_append.mp hmem with hold | hlast
      · refine (hconserved.placed frame hold hunbounded hdecodes).of_readers rfl
          (fun hsending => ?_) rfl rfl rfl
        rw [Bridge.sending, Bridge.aim, hreader] at hsending
        cases hsending
      · obtain rfl := List.mem_singleton.mp hlast
        have hconn : frame.conn = source := by rw [hnew]
        refine .sending ?_
        simp [Bridge.sending, Bridge.aim, hconn]
  | @accepted source _ peer _ msg channel hreader =>
      obtain ⟨sent, registration, rfl, -, hmailbox, hchannel⟩ := hlinked.sends hreader
      rw [modify_push hchannel]
      refine hconserved.of_placed rfl rfl (hconserved.reporting_idle rfl (by simp))
        fun frame _ _ hplaced => ?_
      refine hplaced.of_set hchannel rfl (fun hheld => ?_) (fun hsending => ?_) (fun _ => id) rfl
      · refine .channel (mem_set hchannel) ?_
        rw [Registration.held, ← List.append_assoc]
        exact List.mem_append_left _ hheld
      · by_cases hconn : frame.conn = source
        · rw [hconn, Bridge.sending, Bridge.aim, hreader] at hsending
          obtain rfl := List.mem_singleton.mp hsending
          refine .channel (mem_set hchannel) ?_
          simp [Registration.held]
        · refine .sending ?_
          simp only [Bridge.sending, Bridge.aim, Function.update_of_ne hconn] at hsending ⊢
          exact hsending
  | closed hreader hclosed =>
      obtain ⟨sent, registration, -, -, -, hchannel⟩ := hlinked.sends hreader
      simp [view, hchannel, Registration.inbox] at hclosed
  | @overflowed source _ peer _ msg channel hreader hfull =>
      obtain ⟨sent, registration, rfl, -, hmailbox, hchannel⟩ := hlinked.sends hreader
      have hbounded : sent.unbounded host = false := by
        simp only [view, hchannel, Option.elim_some, Registration.inbox, List.length_map] at hfull
        by_contra hunbounded
        simp [roomy, Bridge.aim, hreader, hchannel, hunbounded] at hroomy
        omega
      refine hconserved.of_placed rfl rfl (fun other frame hmem => ?_)
        fun frame hunbounded _ hplaced => ?_
      · by_cases hother : other = source
        · subst hother
          simp only [Bridge.reporting, Function.update_self, Option.toList_some,
            List.mem_singleton] at hmem
          exact hmem ▸ hbounded
        · simp only [Bridge.reporting, Function.update_of_ne hother] at hmem
          exact hconserved.reporting other frame hmem
      · refine hplaced.of_readers rfl (fun hsending => ?_) rfl rfl rfl
        rw [Bridge.sending, Bridge.aim, hreader] at hsending
        obtain rfl := List.mem_singleton.mp hsending
        exact absurd hunbounded (by simp [hbounded])
  | @reported source _ peer reported msg route hreader hroute =>
      refine ⟨hconserved.reporting_idle rfl (by simp [hroute]),
        fun frame hmem => ?_, fun frame hmem hunbounded hdecodes => ?_⟩
      · rcases List.mem_append.mp hmem with hold | hnew
        · exact hconserved.refused frame hold
        · refine hconserved.reporting source frame ?_
          rwa [Bridge.reporting, hreader]
      · refine (hconserved.placed frame hmem hunbounded hdecodes).of_readers rfl
          (fun hsending => ?_) rfl rfl rfl
        rw [Bridge.sending, Bridge.aim, hreader] at hsending
        cases hsending
  | received hchannel =>
      refine hconserved.of_placed rfl rfl hconserved.reporting fun frame _ _ hplaced => ?_
      refine hplaced.of_set hchannel rfl (fun hheld => ?_) (fun hsending => .sending hsending)
        (fun _ => id) rfl
      exact .channel (mem_set hchannel) hheld
  | unscheduled hchannel hpayload =>
      refine hconserved.of_placed rfl rfl hconserved.reporting fun frame _ hdecodes hplaced => ?_
      refine hplaced.of_set hchannel rfl (fun hheld => ?_) (fun hsending => .sending hsending)
        (fun _ => id) rfl
      rcases List.mem_cons.mp hheld with rfl | hqueue
      · simp [Routed.decodes, hpayload] at hdecodes
      · exact .channel (mem_set hchannel) hqueue
  | scheduled hchannel hpayload =>
      refine hconserved.of_placed rfl rfl hconserved.reporting fun frame _ hdecodes hplaced => ?_
      refine hplaced.of_set hchannel rfl (fun hheld => ?_) (fun hsending => .sending hsending)
        (fun _ => List.mem_append_left _) rfl
      rcases List.mem_cons.mp hheld with rfl | hqueue
      · exact .scheduled (List.mem_append_right _ (List.mem_singleton_self _)) rfl
      · exact .channel (mem_set hchannel) hqueue
  | undecoded hready hpayload =>
      refine hconserved.of_placed rfl rfl hconserved.reporting fun frame _ hdecodes hplaced => ?_
      refine hplaced.of_ready hready (fun hframe => ?_) rfl rfl fun _ _ => id
      subst hframe
      obtain ⟨-, hobject⟩ := hlinked.ready _ (hready ▸ List.mem_cons_self)
      simp [Routed.decodes, hobject, hpayload, Except.isOk, Except.toBool] at hdecodes
  | refused hready hmaxsize =>
      obtain ⟨hmailbox, -⟩ := hlinked.ready _ (hready ▸ List.mem_cons_self)
      have hbounded : ∀ {frame : Routed}, frame.mailbox = some _ → frame.unbounded host = false :=
        fun hframe => by simpa [Routed.unbounded, hframe] using Nat.ne_of_gt hmaxsize
      refine ⟨hconserved.reporting, fun frame hmem => ?_, fun frame hmem hunbounded hdecodes => ?_⟩
      · rcases List.mem_append.mp hmem with hold | hnew
        · exact hconserved.refused frame hold
        · obtain rfl := List.mem_singleton.mp hnew
          exact hbounded hmailbox
      · refine (hconserved.placed frame hmem hunbounded hdecodes).of_ready hready (fun hframe => ?_)
          rfl rfl fun _ _ => id
        subst hframe
        exact absurd hunbounded (by simp [hbounded hmailbox])
  | arrived hready =>
      refine hconserved.of_placed rfl rfl hconserved.reporting fun frame _ hdecodes hplaced => ?_
      refine hplaced.of_ready hready (fun hframe => ?_) rfl rfl fun mailbox sent hsent => ?_
      · subst hframe
        obtain ⟨hmailbox, -⟩ := hlinked.ready _ (hready ▸ List.mem_cons_self)
        exact .arrived hmailbox (by simp [put])
      · simp only [put, Function.update_apply]
        split
        · rename_i hsame
          subst hsame
          exact List.mem_append_left _ hsent
        · exact hsent

end Steps

/-- **No frame for an unbounded mailbox is lost** when each finds room in its channel: those that can be decoded are on their way or in the mailbox, and none is reported as `mailbox_full`. -/
theorem unbounded_mailbox_keeps_frames {externals : Externals} {host : Host Object Payload}
    {localId : NodeId} {config : TransportConfig} {bridge : Bridge Object Payload}
    (hreach : Machine.ReachableWhere (step externals host)
      (fun bridge action => bridge.roomy host action = true) (start localId config) bridge)
    {frame : Routed} (hrouted : frame ∈ bridge.routed) (hunbounded : frame.unbounded host = true) :
    (frame.decodes host = true → bridge.Placed frame) ∧ frame ∉ bridge.refused := by
  have hinvariant : (fun bridge => bridge.Linked host ∧ bridge.Conserved host) bridge := by
    have hstart : (start localId config : Bridge Object Payload).Linked host ∧
        (start localId config : Bridge Object Payload).Conserved host := by
      constructor <;> constructor
      · exact fun _ _ => nofun
      · exact fun _ _ _ => nofun
      · exact fun _ => nofun
      · exact fun _ => nofun
      · exact fun _ _ => nofun
      · exact fun _ => nofun
      · exact fun _ => nofun
    refine hreach.invariant hstart ?_
    rintro bridge action later ⟨hlinked, hconserved⟩ hroomy hstep
    have hmoved := moved_of_step hstep
    exact ⟨hlinked.next hmoved, hconserved.next hlinked hroomy hmoved⟩
  obtain ⟨-, hconserved⟩ := hinvariant
  refine ⟨hconserved.placed frame hrouted hunbounded, fun hrefused => ?_⟩
  exact absurd hunbounded (by simp [hconserved.refused frame hrefused])

theorem unbounded_mailbox_keeps_two :
    ∃ bridge, Machine.ReachableWhere (step Fixed.externals Fixed.host)
        (fun bridge action => bridge.roomy Fixed.host action = true) Fixed.node bridge ∧
      bridge.routed.length = 2 ∧
      ∀ frame ∈ bridge.routed, bridge.Placed frame ∧ frame ∉ bridge.refused := by
  have hrun : (Machine.runWhere (step Fixed.externals Fixed.host)
      (fun bridge action => bridge.roomy Fixed.host action = true) Fixed.node
      (.registerActor "x" 0 :: Fixed.routes 7 1 ++ Fixed.drains 0 ++ [.callback] ++
        Fixed.routes 7 2)).map
      (fun bridge => decide (bridge.routed.length = 2 ∧ ∀ frame ∈ bridge.routed,
        frame.unbounded Fixed.host = true ∧ frame.decodes Fixed.host = true)) = some true := by
    decide +kernel
  obtain ⟨bridge, hreach, hobserved⟩ := Machine.exists_reachableWhere hrun
  obtain ⟨hlength, hframes⟩ := of_decide_eq_true hobserved
  refine ⟨bridge, hreach, hlength, fun frame hrouted => ?_⟩
  obtain ⟨hunbounded, hdecodes⟩ := hframes frame hrouted
  obtain ⟨hplaced, hrefused⟩ := unbounded_mailbox_keeps_frames hreach hrouted hunbounded
  exact ⟨hplaced hdecodes, hrefused⟩

/-! ### A burst

Frames for an actor `x` that arrive while the interpreter is busy, so that nothing is drained. -/

namespace Burst

def Loaded (count : Nat) (bridge : Bridge Bytes Bytes) : Prop :=
  bridge.transport.routing "x" = some 0 ∧
    ∃ queue, bridge.registrations = [⟨"x", 0, queue, none⟩] ∧ queue.length = count

abbrev Reaches (bridge : Bridge Bytes Bytes) : Prop :=
  Machine.Reachable (step Fixed.externals Fixed.host) Fixed.node bridge

theorem exists_aimed {count : Nat} {bridge : Bridge Bytes Bytes} (hreach : Reaches bridge)
    (hloaded : Loaded count bridge) (hreader : bridge.readers 7 = none) :
    ∃ later frame, Reaches later ∧ Loaded count later ∧ frame.mailbox = some 0 ∧
      later.readers 7 = some ⟨Fixed.peer, some frame, .trySend 0 (Fixed.frame 1)⟩ := by
  obtain ⟨hrouting, queue, hregistrations, hcount⟩ := hloaded
  let taken : Bridge Bytes Bytes := { bridge with
    readers := Function.update bridge.readers 7
      (some ⟨Fixed.peer, none, .dispatch (Fixed.frame 1)⟩) }
  have htake : bridge.step Fixed.externals Fixed.host (.take 7 Fixed.peer (Fixed.frame 1)) =
      some taken := if_pos (by rw [hreader]; rfl)
  have hreader' : taken.readers 7 = some ⟨Fixed.peer, none, .dispatch (Fixed.frame 1)⟩ := by
    simp [taken]
  obtain ⟨later, frame, hroute, haimed, hmailbox, hsame, htransport⟩ :=
    route_found Fixed.externals Fixed.host hreader' rfl hrouting
  refine ⟨later, frame, .step _ (.step _ hreach trivial htake) trivial hroute,
    ⟨htransport ▸ hrouting, queue, hsame.trans hregistrations, hcount⟩, ?_, haimed⟩
  simpa [taken, hregistrations] using hmailbox

theorem exists_loaded {count : Nat} (hcount : count ≤ channelCapacity) :
    ∃ bridge, Reaches bridge ∧ Loaded count bridge ∧ bridge.readers 7 = none := by
  induction count with
  | zero => exact ⟨_, .step (.registerActor "x" 0) .start trivial rfl, ⟨rfl, [], rfl, rfl⟩, rfl⟩
  | succ count ih =>
      obtain ⟨bridge, hreach, hloaded, hidle⟩ := ih (Nat.le_of_succ_le hcount)
      obtain ⟨aimed, frame, hreach, ⟨hrouting, queue, hregistrations, rfl⟩, -, hreader⟩ :=
        exists_aimed hreach hloaded hidle
      have hchannel : aimed.registrations[0]? = some ⟨"x", 0, queue, none⟩ := by
        rw [hregistrations]
        rfl
      have hroute := route_accepted Fixed.externals Fixed.host hreader hchannel hcount
      refine ⟨_, .step _ hreach trivial hroute, ⟨hrouting, queue ++ [frame], ?_, ?_⟩, ?_⟩
      · simp [hregistrations]
      · simp
      · simp

end Burst

/-- 257 frames for an actor with an unbounded mailbox, none of them drained: the last is dropped and reported as `mailbox_full`. -/
theorem unbounded_mailbox_overflows :
    ∃ bridge, Machine.Reachable (step Fixed.externals Fixed.host) Fixed.node bridge ∧
      ∃ frame ∈ bridge.refused, frame.unbounded Fixed.host = true := by
  obtain ⟨bridge, hreach, hloaded, hidle⟩ := Burst.exists_loaded (Nat.le_refl channelCapacity)
  obtain ⟨aimed, frame, hreach, ⟨-, queue, hregistrations, hqueue⟩, hmailbox, hreader⟩ :=
    Burst.exists_aimed hreach hloaded hidle
  have hchannel : aimed.registrations[0]? = some ⟨"x", 0, queue, none⟩ := by
    rw [hregistrations]
    rfl
  obtain ⟨full, hoverflow, hreport⟩ :=
    route_overflowed Fixed.externals Fixed.host hreader hchannel hqueue.ge
  obtain ⟨later, hreported, hrefused⟩ := route_reported Fixed.externals Fixed.host hreport
  refine ⟨later, .step _ (.step _ hreach trivial hoverflow) trivial hreported, frame, ?_, ?_⟩
  · simp [hrefused]
  · simp [Routed.unbounded, hmailbox, Fixed.host]

end LapinBeam.Bridge
