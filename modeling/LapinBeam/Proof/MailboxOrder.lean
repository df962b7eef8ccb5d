import LapinBeam.Lib.Lanes
import LapinBeam.Py.Stretch

/-!
# Order across registrations

Between a read loop and a mailbox the frames pass through the channel of one registration, then
through the event loop. One channel keeps their order. Two do not: their drain loops run on
different threads, so a frame put in the channel of a later registration can overtake one that an
earlier channel still holds. Frames stay in order as long as a frame enters a channel only when no
other channel of its mailbox holds one of the same connection for the same actor.
-/

namespace LapinBeam.Bridge

variable {Object Payload : Type}

def Routed.flows (conn : ConnectionId) (name : String) (frame : Routed) : Bool :=
  frame.conn = conn ∧ frame.msg.dstActor = name

def overtakes (bridge : Bridge Object Payload) (channel : Mailbox) (frame : Routed) : Bool :=
  (bridge.registrations[channel]?).any fun registration =>
    bridge.registrations.zipIdx.any fun (other, position) =>
      position ≠ channel && other.mailbox = registration.mailbox &&
        other.held.any (Routed.flows frame.conn frame.msg.dstActor)

def orderly (bridge : Bridge Object Payload) : Action Payload → Bool
  | .route conn _ =>
      (bridge.aim conn).all fun (channel, frame) => !frame.any (bridge.overtakes channel)
  | _ => true

section Flow

variable (conn : ConnectionId) (name : String) (mailbox : MailboxId)

def share (target : MailboxId) (frames : List Routed) : List Routed :=
  if target = mailbox then frames.filter (Routed.flows conn name) else []

def lanes (registrations : List Registration) : List (List Routed) :=
  registrations.map fun registration =>
    share conn name mailbox registration.mailbox registration.held

def called (ready : List (Scheduled Object)) : List Routed :=
  ready.flatMap fun call => share conn name mailbox call.mailbox [call.frame]

variable (bridge : Bridge Object Payload)

/-- The flow from the mailbox back to the read loop, in the order in which its frames arrive when one channel at a time holds any of them. -/
def course : List Routed :=
  (bridge.queues mailbox).arrived.filter (Routed.flows conn name) ++
    (called conn name mailbox bridge.ready ++
      ((lanes conn name mailbox bridge.registrations).flatten ++
        (bridge.sending conn).filter (Routed.flows conn name)))

structure Ordered : Prop where
  single : Lanes.Single (lanes conn name mailbox bridge.registrations)
  tagged : ∀ other, ∀ frame ∈ bridge.sending other, frame.conn = other
  course : (bridge.course conn name mailbox).Sublist
    (bridge.routed.filter (Routed.flows conn name))

end Flow

section Steps

variable {conn source : ConnectionId} {name : String} {mailbox target : MailboxId}
  {host : Host Object Payload} {bridge later : Bridge Object Payload} {action : Action Payload}
  {registrations : List Registration} {channel : Mailbox} {registration : Registration}
  {frame : Routed}

theorem share_append (frames more : List Routed) :
    share conn name mailbox target (frames ++ more) =
      share conn name mailbox target frames ++ share conn name mailbox target more := by
  simp only [share]
  split <;> simp

theorem share_singleton (frame : Routed) :
    share conn name mailbox target [frame] =
      if target = mailbox ∧ frame.flows conn name then [frame] else [] := by
  simp only [share, List.filter_cons, List.filter_nil]
  split <;> simp_all

theorem called_cons (call : Scheduled Object) (ready : List (Scheduled Object)) :
    called conn name mailbox (call :: ready) =
      share conn name mailbox call.mailbox [call.frame] ++ called conn name mailbox ready :=
  rfl

theorem called_append (ready : List (Scheduled Object)) (call : Scheduled Object) :
    called conn name mailbox (ready ++ [call]) =
      called conn name mailbox ready ++ share conn name mailbox call.mailbox [call.frame] := by
  simp [called]

theorem arrived_put (item : Payload × MessageMeta) :
    ((bridge.put target item (some frame)).queues mailbox).arrived.filter
        (Routed.flows conn name) =
      (bridge.queues mailbox).arrived.filter (Routed.flows conn name) ++
        share conn name mailbox target [frame] := by
  by_cases htarget : target = mailbox
  · subst htarget
    simp [put, share]
  · simp [put, share, htarget, Ne.symm htarget]

theorem lanes_get (hchannel : registrations[channel]? = some registration) :
    (lanes conn name mailbox registrations)[channel]? =
      some (share conn name mailbox registration.mailbox registration.held) := by
  rw [lanes, List.getElem?_map, hchannel, Option.map_some]

theorem lanes_set :
    lanes conn name mailbox (registrations.set channel registration) =
      (lanes conn name mailbox registrations).set channel
        (share conn name mailbox registration.mailbox registration.held) :=
  List.map_set

theorem lanes_set_same (changed : Registration)
    (hchannel : registrations[channel]? = some registration)
    (hsame : share conn name mailbox changed.mailbox changed.held =
      share conn name mailbox registration.mailbox registration.held) :
    lanes conn name mailbox (registrations.set channel changed) =
      lanes conn name mailbox registrations := by
  have hlane : (lanes conn name mailbox registrations)[channel]? = _ := lanes_get hchannel
  obtain ⟨hlt, hget⟩ := List.getElem?_eq_some_iff.mp hlane
  rw [lanes_set, hsame, ← hget, List.set_getElem_self]

theorem lanes_recv {title : String} {queue : List Routed}
    (hchannel : registrations[channel]? = some ⟨title, target, frame :: queue, none⟩) :
    lanes conn name mailbox (registrations.set channel ⟨title, target, queue, some frame⟩) =
      lanes conn name mailbox registrations :=
  lanes_set_same _ hchannel rfl

theorem lanes_pop {title : String} {queue : List Routed}
    (hsingle : Lanes.Single (lanes conn name mailbox registrations))
    (hchannel : registrations[channel]? = some ⟨title, target, queue, some frame⟩) :
    (lanes conn name mailbox registrations).flatten =
        share conn name mailbox target [frame] ++
          (lanes conn name mailbox
            (registrations.set channel ⟨title, target, queue, none⟩)).flatten ∧
      Lanes.Single
        (lanes conn name mailbox (registrations.set channel ⟨title, target, queue, none⟩)) := by
  have hlane : (lanes conn name mailbox registrations)[channel]? = _ := lanes_get hchannel
  have hsplit :
      share conn name mailbox target (Registration.held ⟨title, target, queue, some frame⟩) =
        share conn name mailbox target [frame] ++ share conn name mailbox target queue :=
    share_append [frame] queue
  rw [share_singleton] at hsplit ⊢
  split at hsplit
  · rename_i hflows
    rw [if_pos hflows]
    rw [hsplit] at hlane
    rw [lanes_set]
    exact hsingle.pop hlane
  · rename_i hflows
    rw [if_neg hflows, lanes_set_same ⟨title, target, queue, none⟩ hchannel hsplit.symm]
    exact ⟨rfl, hsingle⟩

theorem alone_of_overtakes (hchannel : bridge.registrations[channel]? = some registration)
    (hmailbox : registration.mailbox = mailbox) (hclear : bridge.overtakes channel frame = false) :
    Lanes.Alone channel (lanes frame.conn frame.msg.dstActor mailbox bridge.registrations) := by
  intro position lane hne hlane
  rw [lanes, List.getElem?_map, Option.map_eq_some_iff] at hlane
  obtain ⟨other, hother, rfl⟩ := hlane
  simp only [overtakes, hchannel, Option.any_some, List.any_eq_false] at hclear
  have hheld := hclear (other, position) (List.mem_zipIdx_iff_getElem?.mpr hother)
  rw [share]
  split
  · rename_i hsame
    rw [List.filter_eq_nil_iff]
    simpa [hne, hsame, hmailbox] using hheld
  · rfl

theorem share_sublist (frames : List Routed) :
    (share conn name mailbox target frames).Sublist (frames.filter (Routed.flows conn name)) := by
  rw [share]
  split
  · exact .refl _
  · exact List.nil_sublist _

theorem lanes_push (hsingle : Lanes.Single (lanes conn name mailbox bridge.registrations))
    (hchannel : bridge.registrations[channel]? = some registration)
    (hclear : bridge.overtakes channel frame = false) :
    (lanes conn name mailbox (bridge.registrations.set channel
          { registration with queue := registration.queue ++ [frame] })).flatten =
        (lanes conn name mailbox bridge.registrations).flatten ++
          share conn name mailbox registration.mailbox [frame] ∧
      Lanes.Single (lanes conn name mailbox (bridge.registrations.set channel
        { registration with queue := registration.queue ++ [frame] })) := by
  have hshare : share conn name mailbox registration.mailbox
        (registration.hand.toList ++ (registration.queue ++ [frame])) =
      share conn name mailbox registration.mailbox registration.held ++
        share conn name mailbox registration.mailbox [frame] := by
    rw [← List.append_assoc, share_append]
    rfl
  rw [share_singleton] at hshare ⊢
  split at hshare
  · rename_i hflows
    rw [if_pos hflows, lanes_set, Registration.held, hshare]
    obtain ⟨hmailbox, hflow⟩ := hflows
    obtain ⟨rfl, rfl⟩ := of_decide_eq_true hflow
    exact (alone_of_overtakes hchannel hmailbox hclear).push (lanes_get hchannel)
  · rename_i hflows
    rw [if_neg hflows, List.append_nil, lanes_set_same _ hchannel (hshare.trans (List.append_nil _))]
    exact ⟨rfl, hsingle⟩

theorem idle_sublist (source other : ConnectionId) :
    (if other = source then [] else bridge.sending other).Sublist (bridge.sending other) := by
  split
  · exact List.nil_sublist _
  · exact .refl _

variable (hordered : bridge.Ordered conn name mailbox)

include hordered

theorem Ordered.of_course (hsingle : Lanes.Single (lanes conn name mailbox later.registrations))
    (hsending : ∀ other, (later.sending other).Sublist (bridge.sending other))
    (hcourse : (later.course conn name mailbox).Sublist (bridge.course conn name mailbox))
    (hrouted : later.routed = bridge.routed) : later.Ordered conn name mailbox where
  single := hsingle
  tagged other frame hmem := hordered.tagged other frame ((hsending other).subset hmem)
  course := hrouted ▸ hcourse.trans hordered.course

theorem Ordered.of_idle {reader : Option Reader}
    (hreaders : later.readers = Function.update bridge.readers source reader)
    (hidle : ∀ peer frame channel msg, reader ≠ some ⟨peer, frame, .trySend channel msg⟩)
    (hregistrations : later.registrations = bridge.registrations)
    (hready : later.ready = bridge.ready) (hqueues : later.queues = bridge.queues)
    (hrouted : later.routed = bridge.routed) : later.Ordered conn name mailbox := by
  have hsending : ∀ other, (later.sending other).Sublist (bridge.sending other) := by
    intro other
    rw [sending_of_idle hreaders hidle]
    exact idle_sublist source other
  refine hordered.of_course (hregistrations ▸ hordered.single) hsending ?_ hrouted
  rw [Bridge.course, Bridge.course, hregistrations, hready, hqueues]
  exact .append_left (.append_left (.append_left ((hsending conn).filter _) _) _) _

theorem Ordered.found {peer : NodeId} {old : Option Routed} {msg : WireMessage}
    (hreader : bridge.readers source = some ⟨peer, old, .dispatch msg⟩)
    (hframe : frame.conn = source) :
    Ordered conn name mailbox
      { bridge with
        routed := bridge.routed ++ [frame]
        readers := Function.update bridge.readers source
          (some ⟨peer, some frame, .trySend channel msg⟩) } := by
  have hbefore : bridge.sending source = [] := by simp [sending, aim, hreader]
  set later : Bridge Object Payload := { bridge with
    routed := bridge.routed ++ [frame]
    readers := Function.update bridge.readers source
      (some ⟨peer, some frame, .trySend channel msg⟩) } with hlater
  have hsource : later.sending source = [frame] := by simp [hlater, sending, aim]
  have hothers : ∀ other, other ≠ source → later.sending other = bridge.sending other :=
    fun other hother => sending_of_reader (by simp [hlater, hother])
  refine ⟨hordered.single, fun other sent hmem => ?_, ?_⟩
  · by_cases hother : other = source
    · subst hother
      rw [hsource, List.mem_singleton] at hmem
      exact hmem ▸ hframe
    · exact hordered.tagged other sent (hothers other hother ▸ hmem)
  · by_cases hconn : conn = source
    · subst hconn
      have hcourse := hordered.course.append (.refl ([frame].filter (Routed.flows conn name)))
      simp only [Bridge.course, hbefore, hsource, List.filter_nil, List.append_nil,
        List.append_assoc, ← List.filter_append] at hcourse ⊢
      exact hcourse
    · rw [Bridge.course, hothers conn hconn]
      exact hordered.course.trans ((List.sublist_append_left _ _).filter _)

theorem Ordered.accepted {peer : NodeId} {frame : Option Routed} {msg : WireMessage}
    (hreader : bridge.readers source = some ⟨peer, frame, .trySend channel msg⟩)
    (hclear : frame.any (bridge.overtakes channel) = false) :
    Ordered conn name mailbox
      { bridge with
        registrations := bridge.registrations.modify channel fun registration =>
          { registration with queue := registration.queue ++ frame.toList }
        readers := Function.update bridge.readers source none } := by
  cases hchannel : bridge.registrations[channel]? with
  | none =>
      rw [List.modify_eq_self (List.getElem?_eq_none_iff.mp hchannel)]
      exact hordered.of_idle rfl (by simp) rfl rfl rfl rfl
  | some registration =>
      rw [List.modify_eq_set_getElem?, hchannel, Option.map_eq_map, Option.map_some,
        Option.getD_some]
      cases frame with
      | none =>
          have hset : bridge.registrations.set channel
              { registration with queue := registration.queue ++ [] } = bridge.registrations := by
            obtain ⟨hlt, hget⟩ := List.getElem?_eq_some_iff.mp hchannel
            rw [List.append_nil, ← hget, List.set_getElem_self]
          exact hordered.of_idle rfl (by simp) hset rfl rfl rfl
      | some sent =>
          obtain ⟨hflatten, hsingle⟩ := lanes_push hordered.single hchannel hclear
          have hsource : bridge.sending source = [sent] := by simp [sending, aim, hreader]
          have htag := hordered.tagged source sent (hsource ▸ List.mem_singleton_self sent)
          have hsending : ∀ other, sending { bridge with
              registrations := bridge.registrations.set channel
                { registration with queue := registration.queue ++ [sent] }
              readers := Function.update bridge.readers source none } other =
                if other = source then [] else bridge.sending other :=
            sending_of_idle rfl (by simp)
          refine hordered.of_course hsingle (fun other => ?_) ?_ rfl
          · rw [Option.toList_some, hsending]
            exact idle_sublist source other
          · rw [Bridge.course, Bridge.course, Option.toList_some, hflatten, hsending,
              List.append_assoc]
            refine .append_left (.append_left (.append_left ?_ _) _) _
            split
            · rename_i hconn
              subst hconn
              rw [hsource, List.filter_nil, List.append_nil]
              exact share_sublist _
            · rename_i hconn
              rw [share_singleton, if_neg fun hflow =>
                hconn ((of_decide_eq_true hflow.2).1.symm.trans htag)]
              exact .refl _

theorem Ordered.next (horderly : bridge.orderly action = true)
    (hmoved : Moved host bridge action later) : later.Ordered conn name mailbox := by
  cases hmoved with
  | quiet hquiet =>
      have hsending : ∀ other, later.sending other = bridge.sending other := by
        intro other
        rw [sending, hquiet.aim, sending]
      refine hordered.of_course ?_ (fun other => hsending other ▸ .refl _) ?_ hquiet.routed
      · rw [hquiet.registrations]
        exact hordered.single
      · rw [Bridge.course, Bridge.course, hquiet.arrived, hquiet.ready, hquiet.registrations,
          hsending]
  | registered title target =>
      have hlanes : lanes conn name mailbox
            (bridge.registrations ++ [{ name := title, mailbox := target }]) =
          lanes conn name mailbox bridge.registrations ++ [[]] := by
        simp [lanes, share, Registration.held]
      refine hordered.of_course ?_ (fun _ => .refl _) ?_ rfl
      · rw [hlanes]
        exact Lanes.single_append_nil hordered.single
      · rw [Bridge.course, Bridge.course, hlanes, List.flatten_append, List.flatten_singleton,
          List.append_nil]
        exact .refl _
  | found hreader hrouting hframe => exact hordered.found hreader (by rw [hframe])
  | accepted hreader =>
      refine hordered.accepted hreader ?_
      simpa [orderly, aim, hreader] using horderly
  | closed hreader hclosed | overflowed hreader hfull =>
      exact hordered.of_idle rfl (by simp) rfl rfl rfl rfl
  | reported hreader hroute =>
      exact hordered.of_idle rfl (by simp [hroute]) rfl rfl rfl rfl
  | received hchannel =>
      refine hordered.of_course ?_ (fun _ => .refl _) ?_ rfl
      · rw [lanes_recv hchannel]
        exact hordered.single
      · rw [Bridge.course, Bridge.course, lanes_recv hchannel]
        exact .refl _
  | unscheduled hchannel hpayload =>
      obtain ⟨hflatten, hsingle⟩ := lanes_pop hordered.single hchannel
      refine hordered.of_course hsingle (fun _ => .refl _) ?_ rfl
      rw [Bridge.course, Bridge.course, hflatten]
      exact .append_left (.append_left (.append_right (List.sublist_append_right _ _) _) _) _
  | scheduled hchannel hpayload =>
      obtain ⟨hflatten, hsingle⟩ := lanes_pop hordered.single hchannel
      refine hordered.of_course hsingle (fun _ => .refl _) ?_ rfl
      rw [Bridge.course, Bridge.course, hflatten, called_append]
      simp only [List.append_assoc]
      exact .refl _
  | undecoded hready hpayload | refused hready hmaxsize =>
      refine hordered.of_course hordered.single (fun _ => .refl _) ?_ rfl
      rw [Bridge.course, Bridge.course, hready]
      exact .append_left (.append_right (List.sublist_append_right _ _) _) _
  | arrived hready =>
      refine hordered.of_course hordered.single (fun _ => .refl _) ?_ rfl
      rw [Bridge.course, Bridge.course, hready, called_cons, arrived_put]
      simp only [List.append_assoc]
      exact .refl _

end Steps

/-- **Frames keep their order** from a connection to an actor, however often the actor was registered, if none enters a channel while another channel of its mailbox holds a frame of that flow. -/
theorem frames_keep_order {externals : Externals} {host : Host Object Payload} {localId : NodeId}
    {config : TransportConfig} {bridge : Bridge Object Payload}
    (hreach : Machine.ReachableWhere (step externals host)
      (fun bridge action => bridge.orderly action = true) (start localId config) bridge)
    (conn : ConnectionId) (name : String) (mailbox : MailboxId) :
    ((bridge.queues mailbox).arrived.filter (Routed.flows conn name)).Sublist
      (bridge.routed.filter (Routed.flows conn name)) := by
  have hordered : bridge.Ordered conn name mailbox := by
    refine hreach.invariant ⟨?_, ?_, .refl _⟩ ?_
    · intro _ _ hlane
      cases hlane
    · intro _ _ hmem
      cases hmem
    · intro bridge action later hordered horderly hstep
      exact hordered.next horderly (moved_of_step hstep)
  exact (List.sublist_append_left _ _).trans hordered.course

theorem frames_keep_order_registered :
    ∃ bridge, Machine.ReachableWhere (step Fixed.externals Fixed.host)
        (fun bridge action => bridge.orderly action = true) Fixed.node bridge ∧
      ((bridge.queues 0).arrived.map (·.msg.msgId) = [1, 2] ∧ bridge.registrations.length = 2) ∧
      ((bridge.queues 0).arrived.filter (Routed.flows 7 "x")).Sublist
        (bridge.routed.filter (Routed.flows 7 "x")) := by
  have hrun : (Machine.runWhere (step Fixed.externals Fixed.host)
      (fun bridge action => bridge.orderly action = true) Fixed.node
      (.registerActor "x" 0 :: Fixed.routes 7 1 ++ Fixed.drains 0 ++ [.callback,
        .registerActor "x" 0] ++ Fixed.routes 7 2 ++ Fixed.drains 1 ++ [.callback])).map
      (fun bridge => decide ((bridge.queues 0).arrived.map (·.msg.msgId) = [1, 2] ∧
        bridge.registrations.length = 2)) = some true := by
    decide +kernel
  obtain ⟨bridge, hreach, hobserved⟩ := Machine.exists_reachableWhere hrun
  exact ⟨bridge, hreach, of_decide_eq_true hobserved, frames_keep_order hreach 7 "x" 0⟩

/-- `spawn` registers the actor and its first run registers it again. A frame routed in between is still in the first channel when the next one goes into the second, whose `drain_loop` is the faster. -/
theorem registration_reorders :
    ∃ bridge, Machine.Reachable (step Fixed.externals Fixed.host) Fixed.node bridge ∧
      ¬ ((bridge.queues 0).arrived.filter (Routed.flows 7 "x")).Sublist
        (bridge.routed.filter (Routed.flows 7 "x")) := by
  have hrun : (Machine.runWhere (step Fixed.externals Fixed.host) (fun _ _ => True) Fixed.node
      (.registerActor "x" 0 :: Fixed.routes 7 1 ++ [.registerActor "x" 0] ++ Fixed.routes 7 2 ++
        Fixed.drains 1 ++ Fixed.drains 0 ++ [.callback, .callback])).map
      (fun bridge => decide (((bridge.queues 0).arrived.filter (Routed.flows 7 "x")).Sublist
        (bridge.routed.filter (Routed.flows 7 "x")))) = some false := by
    decide +kernel
  obtain ⟨bridge, hreach, hobserved⟩ := Machine.exists_reachableWhere hrun
  exact ⟨bridge, hreach, of_decide_eq_false hobserved⟩

end LapinBeam.Bridge
