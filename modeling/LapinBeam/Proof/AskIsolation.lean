import LapinBeam.Proof.AskTraffic
import LapinBeam.Proof.PoolAccounting

/-!
# Replies go to the call that asked

Whoever handles a message, an actor or a worker of a pool, replies with the metadata the message
came with, and so to the call that sent it. A worker has it from the queue it shares with others
and binds it for as long as it is at work on the message (`Pool.Holds`).
-/

namespace LapinBeam

open Bridge (MessageMeta)
open Actor (Exc)

/-! ### The messages of a pool -/

namespace Pool

variable {Msg Key : Type} {settings : Settings Msg Key} {Fine : Item Msg Key → Prop}

def Worker.Holds (Fine : Item Msg Key → Prop) (worker : Worker Msg Key) : Prop :=
  match worker.stage with
  | .starting | .getting => True
  | .submitting job | .replying job | .exited job => Fine job.item
  | .handling job => Fine job.item ∧ worker.current = job.item.info

theorem Worker.Holds.item {worker : Worker Msg Key} {job : Job Msg Key}
    (hholds : worker.Holds Fine) (hjob : worker.session = some job.session) : Fine job.item := by
  unfold Worker.Holds at hholds
  unfold Worker.session at hjob
  split at hjob <;> simp_all [Job.session]

structure Holds (Fine : Item Msg Key → Prop) (pool : Pool settings) : Prop where
  queues : ∀ queue, ∀ item ∈ pool.queues queue, Fine item
  workers : ∀ index, (pool.workers index).Holds Fine

section Steps

variable {pool next : Pool settings} {index : Fin settings.nWorkers}

variable (hholds : pool.Holds Fine)

include hholds

theorem Holds.mono {Weak : Item Msg Key → Prop} (hweak : ∀ item, Fine item → Weak item) :
    pool.Holds Weak := by
  refine ⟨fun queue item hitem => hweak item (hholds.queues queue item hitem), fun index => ?_⟩
  have hworker := hholds.workers index
  unfold Worker.Holds at hworker ⊢
  split at hworker
  · trivial
  · trivial
  · exact hweak _ hworker
  · exact hweak _ hworker
  · exact hweak _ hworker
  · exact ⟨hweak _ hworker.1, hworker.2⟩

theorem Holds.setWorker (index : Fin settings.nWorkers) (worker : Worker Msg Key)
    (hworker : worker.Holds Fine) : (pool.setWorker index worker).Holds Fine := by
  refine ⟨hholds.queues, fun other => ?_⟩
  by_cases hother : other = index
  · subst hother
    simpa [Pool.setWorker] using hworker
  · simpa [Pool.setWorker, hother] using hholds.workers other

theorem Holds.record (entries : List (Entry Msg Key settings.nWorkers)) :
    (pool.record entries).Holds Fine :=
  ⟨hholds.queues, hholds.workers⟩

theorem Holds.setQueue (queue : Fin settings.nWorkers) {items : List (Item Msg Key)}
    (hitems : ∀ item ∈ items, Fine item) :
    { pool with queues := Function.update pool.queues queue items }.Holds Fine := by
  refine ⟨fun other item hitem => ?_, hholds.workers⟩
  by_cases hother : other = queue
  · subst hother
    exact hitems item (by simpa using hitem)
  · exact hholds.queues other item (by simpa [hother] using hitem)

theorem Holds.finish (job : Job Msg Key) : (pool.finish index job).Holds Fine :=
  (hholds.setWorker index ⟨job.token, .getting⟩ trivial).record _

theorem Holds.fail (job : Job Msg Key) (exc : Exc) : (pool.fail index job exc).Holds Fine :=
  (hholds.record _).finish job

theorem Holds.dispatch {job : Job Msg Key} (hjob : Fine job.item) :
    (pool.dispatch index job).Holds Fine := by
  have hcalled := (hholds.record [.called index job.item job.item.info]).setWorker index
    ⟨job.item.info, .handling { job with seen := some job.item.info }⟩ ⟨hjob, rfl⟩
  unfold Pool.dispatch
  split
  · exact hcalled
  · split
    · exact hcalled
    · exact hholds.fail job _
  · exact hholds.setWorker index _ hjob

theorem Holds.putNowait {queue : Fin settings.nWorkers} {item : Item Msg Key} (hitem : Fine item) :
    (pool.putNowait queue item).Holds Fine := by
  unfold Pool.putNowait
  split
  · exact ⟨hholds.queues, hholds.workers⟩
  · have hitems : ∀ other ∈ pool.queues queue ++ [item], Fine other := by
      simpa [or_imp, forall_and, hitem] using hholds.queues queue
    have hput := hholds.setQueue queue hitems
    exact ⟨hput.queues, hput.workers⟩

theorem Holds.receive {msg : Msg} {info : Option MessageMeta}
    (hfine : ∀ number key, Fine ⟨number, msg, info, key⟩) (keying : Keying Key) :
    (pool.receive msg info keying).Holds Fine := by
  unfold Pool.receive
  split
  · exact hholds.putNowait (hfine _ _)
  · split
    · exact ⟨hholds.queues, hholds.workers⟩
    · exact ⟨hholds.queues, hholds.workers⟩
    · split
      · exact ⟨hholds.queues, hholds.workers⟩
      · exact hholds.putNowait (hfine _ _)

theorem Holds.work {input : Input} (hwork : pool.work index input = some next) :
    next.Holds Fine := by
  have hitem (job : Job Msg Key) (hjob : (pool.workers index).session = some job.session) :
      Fine job.item := (hholds.workers index).item hjob
  revert hwork
  fun_cases Pool.work <;> rintro ⟨⟩
  case case1 => exact hholds.setWorker index _ trivial
  case case3 item rest hqueue hstage taken =>
    have hitems := hholds.queues (settings.workerQueue index)
    rw [hqueue] at hitems
    obtain ⟨hitem, hrest⟩ := List.forall_mem_cons.mp hitems
    exact ((hholds.setQueue _ hrest).record _).dispatch hitem
  case case5 current job hstage =>
    exact (hholds.record _).setWorker index _
      ⟨hitem job (by simp [Worker.session, hstage]), rfl⟩
  case case7 job hstage _ _ _ =>
    exact hholds.setWorker index _ (hitem job (by simp [Worker.session, hstage]))
  case case8 job hstage _ => exact hholds.finish job
  case case9 job hstage => exact hholds.finish job
  case case11 exc job hstage | case12 exc job hstage | case13 exc job hstage =>
    exact hholds.fail job exc
  case case15 job hstage | case16 job hstage | case17 job hstage =>
    exact hholds.setWorker index _ (hitem job (by simp [Worker.session, hstage]))

theorem Holds.step {action : Action Msg Key settings.nWorkers}
    (hfine : ∀ msg info keying, action = .receive msg info keying →
      ∀ number key, Fine ⟨number, msg, info, key⟩) (hstep : pool.step action = some next) :
    next.Holds Fine := by
  cases action with
  | receive msg info keying =>
      simp only [Pool.step, Option.ite_none_right_eq_some, Option.some.injEq] at hstep
      exact hstep.2 ▸ hholds.receive (hfine msg info keying rfl) keying
  | work index input => exact hholds.work hstep

end Steps

end Pool

/-! ### Handlers and callers together -/

namespace Ask

variable {Msg Key Value : Type} {pools : Pools Msg Key} {traffic : Traffic Msg Value}

namespace System

structure Mapped (traffic : Traffic Msg Value) (gather : Gather Msg) : Prop where
  length : gather.calls.length = gather.items.length
  calls : ∀ (i : Nat) (id : CallId), gather.calls[i]? = some id →
    ∃ call, traffic.calls[id]? = some call ∧ gather.items[i]? = some call.msg

structure Kept (roomy : Prop) (system : System pools Value) : Prop where
  traffic : system.traffic.Kept roomy
  requests : ∀ request ∈ system.requests,
    Traffic.Addressed system.traffic.ident request.home request.message.call (some request.info)
  inboxes : ∀ id, ∀ entry ∈ system.inboxes id,
    Traffic.Addressed system.traffic.ident (pools.home id) entry.1.call (some entry.2)
  pools : ∀ id, (system.pools id).Holds fun item =>
    Traffic.Addressed system.traffic.ident (pools.home id) item.msg.call item.info
  maps : ∀ gather ∈ system.maps, Mapped system.traffic gather

/-- If the next frame of a connection is for a stream, it finds room in its channel, and no reply to a stream is dropped because its payload cannot be read or decoded. -/
def roomy (system : System pools Value) : Action pools Value → Bool
  | .deliver source target => system.traffic.room source target
  | .drain id passed | .callback id passed => system.traffic.spares id passed
  | _ => true

section Steps

variable {system next : System pools Value} {roomy : Prop}

theorem Mapped.grows {later : Traffic Msg Value} {gather : Gather Msg}
    (hmapped : Mapped traffic gather) (hgrows : traffic.Grows later) : Mapped later gather := by
  refine ⟨hmapped.length, fun i id hid => ?_⟩
  obtain ⟨call, hcall, hmsg⟩ := hmapped.calls i id hid
  obtain ⟨after, hafter, hpersists⟩ := hgrows id call hcall
  exact ⟨after, hafter, hpersists.msg ▸ hmsg⟩

section

variable (hkept : system.Kept roomy)

include hkept

theorem Kept.withTraffic (htraffic : traffic.Kept roomy) (hgrows : system.traffic.Grows traffic) :
    (system.withTraffic traffic).Kept roomy where
  traffic := htraffic
  requests request hrequest := (hkept.requests request hrequest).extends hgrows.extends
  inboxes id entry hentry := (hkept.inboxes id entry hentry).extends hgrows.extends
  pools id := (hkept.pools id).mono fun _ haddressed => haddressed.extends hgrows.extends
  maps gather hgather := (hkept.maps gather hgather).grows hgrows

theorem Kept.accept {message : Tagged Msg} {info : MessageMeta} {target : Target}
    (haddressed : Traffic.Addressed system.traffic.ident (target.home pools)
      message.call (some info)) : (system.accept message info target).Kept roomy := by
  cases target with
  | actor home =>
      refine { hkept with requests := fun request hrequest => ?_ }
      rcases List.mem_append.mp hrequest with hbefore | hnew
      · exact hkept.requests request hbefore
      · obtain rfl := List.mem_singleton.mp hnew
        exact haddressed
  | pool id =>
      refine { hkept with inboxes := fun other entry hentry => ?_ }
      simp only [System.accept] at hentry
      by_cases hother : other = id
      · subst hother
        rw [Function.update_self] at hentry
        rcases List.mem_append.mp hentry with hbefore | hnew
        · exact hkept.inboxes other entry hbefore
        · obtain rfl := List.mem_singleton.mp hnew
          exact haddressed
      · rw [Function.update_of_ne hother] at hentry
        exact hkept.inboxes other entry hentry

theorem Kept.setPool {id : PoolId} {pool : Pool (pools.settings id)}
    (hpool : pool.Holds fun item =>
      Traffic.Addressed system.traffic.ident (pools.home id) item.msg.call item.info) :
    (system.setPool id pool).Kept roomy := by
  refine { hkept with pools := fun other => ?_ }
  simp only [System.setPool]
  by_cases hother : other = id
  · subst hother
    rw [Function.update_self]
    exact hpool
  · rw [Function.update_of_ne hother]
    exact hkept.pools other

theorem Kept.replier {id : PoolId} {index : Fin (pools.settings id).nWorkers} {message : Tagged Msg}
    {info : Option MessageMeta} (hreplier : system.replier id index = some (message, info)) :
    Traffic.Addressed system.traffic.ident (pools.home id) message.call info := by
  have hworker := (hkept.pools id).workers index
  unfold System.replier at hreplier
  unfold Pool.Worker.Holds at hworker
  split at hreplier
  · cases hreplier
  next job hstage _ =>
    obtain ⟨rfl, rfl⟩ := Prod.mk.inj (Option.some.inj hreplier)
    simp only [hstage] at hworker
    exact hworker.2 ▸ hworker.1
  next job hstage =>
    obtain ⟨rfl, rfl⟩ := Prod.mk.inj (Option.some.inj hreplier)
    simpa only [hstage] using hworker
  · cases hreplier

theorem Kept.send {id : CallId} {target : Option Target} {msgId : Option UInt64}
    {raised : Option Exc} (hnext : system.send id target msgId raised = some next) :
    next.Kept roomy := by
  unfold System.send at hnext
  split at hnext
  next call traffic hcall hsend =>
    obtain rfl := Option.some.inj hnext
    have hsent := hkept.withTraffic (hkept.traffic.send hsend) (hkept.traffic.grows_send hsend)
    cases target with
    | none => exact hsent
    | some target =>
        obtain ⟨name, hname, hasked⟩ := hkept.traffic.asked_of_send hcall hsend
        exact hsent.accept ⟨call.info msgId, rfl, .inr ⟨id, name, rfl, hname, hasked⟩⟩
  · cases hnext

theorem Kept.map (node : String) (items : List Msg) (returnExceptions : Bool) :
    ({ system with
      traffic := system.traffic.create node false items
      maps := system.maps ++ [⟨items, List.range' system.traffic.calls.length items.length,
        returnExceptions⟩] } : System pools Value).Kept roomy := by
  have hcreate := hkept.withTraffic (hkept.traffic.create node false items)
    (Traffic.grows_create node false items)
  refine { hcreate with maps := fun gather hgather => ?_ }
  rcases List.mem_append.mp hgather with hbefore | hnew
  · exact hcreate.maps gather hbefore
  · obtain rfl := List.mem_singleton.mp hnew
    refine ⟨List.length_range', fun i id hid => ?_⟩
    have hlt : i < items.length := by
      simpa using (List.getElem?_eq_some_iff.mp hid).1
    simp only [List.getElem?_range' hlt, one_mul, Option.some.injEq] at hid
    subst hid
    exact ⟨{ node, stream := false, msg := items[i] }, by simp [Traffic.create, hlt], by simp [hlt]⟩

theorem Kept.step {action : Action pools Value} (hroomy : roomy → system.roomy action = true)
    (hstep : system.step action = some next) : next.Kept roomy := by
  cases action with
  | ask node stream msg =>
      obtain rfl := Option.some.inj hstep
      exact hkept.withTraffic (hkept.traffic.create node stream [msg])
        (Traffic.grows_create node stream [msg])
  | map node items returnExceptions =>
      obtain rfl := Option.some.inj hstep
      exact hkept.map node items returnExceptions
  | register id =>
      obtain ⟨traffic, htraffic, rfl⟩ := Option.map_eq_some_iff.mp hstep
      exact hkept.withTraffic (hkept.traffic.register htraffic) (hkept.traffic.grows_register htraffic)
  | send id target msgId raised => exact hkept.send hstep
  | receive id =>
      obtain ⟨traffic, htraffic, rfl⟩ := Option.map_eq_some_iff.mp hstep
      exact hkept.withTraffic (hkept.traffic.receive htraffic) (Traffic.grows_receive htraffic)
  | resume id =>
      obtain ⟨traffic, htraffic, rfl⟩ := Option.map_eq_some_iff.mp hstep
      exact hkept.withTraffic (hkept.traffic.resume htraffic) (Traffic.grows_resume htraffic)
  | abort id exc =>
      obtain ⟨traffic, htraffic, rfl⟩ := Option.map_eq_some_iff.mp hstep
      exact hkept.withTraffic (hkept.traffic.abort htraffic) (Traffic.grows_abort htraffic)
  | tell msg target src correlationId msgId =>
      obtain rfl := Option.some.inj hstep
      exact hkept.accept ⟨_, rfl, .inl ⟨rfl, rfl⟩⟩
  | reply index reply failure =>
      obtain ⟨request, hrequest, rfl⟩ := Option.map_eq_some_iff.mp hstep
      have haddressed := hkept.requests request (List.mem_of_getElem? hrequest)
      exact hkept.withTraffic (hkept.traffic.answer haddressed reply failure)
        (Traffic.grows_answer _ _ _ _ _)
  | dispatch id keying =>
      simp only [System.step] at hstep
      split at hstep
      · cases hstep
      next message info inbox hinbox =>
      obtain ⟨pool, hpool, rfl⟩ := Option.map_eq_some_iff.mp hstep
      have hentries := hkept.inboxes id
      rw [hinbox] at hentries
      obtain ⟨hentry, hrest⟩ := List.forall_mem_cons.mp hentries
      have htaken : ({ system with
          inboxes := Function.update system.inboxes id inbox } : System pools Value).Kept roomy := by
        refine { hkept with inboxes := fun other entry hother => ?_ }
        by_cases hid : other = id
        · subst hid
          exact hrest entry (by simpa using hother)
        · exact hkept.inboxes other entry (by simpa [hid] using hother)
      refine htaken.setPool ((hkept.pools id).step ?_ hpool)
      rintro _ _ _ ⟨⟩ number key
      exact hentry
  | work id index input =>
      obtain ⟨pool, hpool, rfl⟩ := Option.map_eq_some_iff.mp hstep
      exact hkept.setPool ((hkept.pools id).step (by simp) hpool)
  | workerReply id index reply failure =>
      obtain ⟨⟨message, info⟩, hreplier, rfl⟩ := Option.map_eq_some_iff.mp hstep
      exact hkept.withTraffic (hkept.traffic.answer (hkept.replier hreplier) reply failure)
        (Traffic.grows_answer _ _ _ _ _)
  | deliver source target =>
      obtain ⟨traffic, htraffic, rfl⟩ := Option.map_eq_some_iff.mp hstep
      exact hkept.withTraffic (hkept.traffic.deliver hroomy htraffic)
        (Traffic.grows_deliver htraffic)
  | drain id readable =>
      obtain ⟨traffic, htraffic, rfl⟩ := Option.map_eq_some_iff.mp hstep
      exact hkept.withTraffic (hkept.traffic.drain hroomy htraffic) (Traffic.grows_drain htraffic)
  | callback id decodes =>
      obtain ⟨traffic, htraffic, rfl⟩ := Option.map_eq_some_iff.mp hstep
      exact hkept.withTraffic (hkept.traffic.callback hroomy htraffic)
        (Traffic.grows_callback htraffic)
  | registerActor node name =>
      simp only [System.step, Option.ite_none_right_eq_some, Option.some.injEq] at hstep
      obtain ⟨hfree, rfl⟩ := hstep
      refine hkept.withTraffic (hkept.traffic.setName ?_ (by simp)) (.refl rfl)
      simp [Option.isNone_iff_eq_none.mp hfree]
  | unregisterActor node name =>
      simp only [System.step, Option.ite_none_right_eq_some, Option.some.injEq] at hstep
      obtain ⟨hactor, rfl⟩ := hstep
      exact hkept.withTraffic (hkept.traffic.setName (by simp [hactor]) (by simp)) (.refl rfl)

end

theorem kept_start : ({} : System pools Value).Kept roomy where
  traffic := ⟨⟨by simp [Traffic.ident], by simp [Traffic.ident], by simp [Traffic.ident], by simp⟩,
    by simp⟩
  requests := by simp
  inboxes := by simp
  pools _ := ⟨by simp, fun _ => trivial⟩
  maps := by simp

theorem kept_of_reachable {allowed : System pools Value → Action pools Value → Prop}
    (hallowed : ∀ system action, allowed system action → roomy → system.roomy action = true)
    (hreach : Machine.ReachableWhere step allowed {} system) : system.Kept roomy :=
  hreach.invariant kept_start fun system action _ hkept hmeets hstep =>
    hkept.step (hallowed system action hmeets) hstep

end Steps

structure Isolated (traffic : Traffic Msg Value) (id : CallId) (call : Call Msg Value) : Prop where
  ask : call.stream = false → call.got.length ≤ 1 ∧ ∀ reply ∈ call.got, reply ∈ call.made
  stream : call.stream = true →
    call.got <+: throughFinal call.made ∧ ∀ reply ∈ call.got, ∀ value, reply ≠ .plain value
  exhausted : call.stream = true → call.stage = .ended none →
    call.got = throughFinal call.made ∧ Closed call.got
  pending : call.stream = true → call.ended = false →
    call.made = call.got ++ (call.held ++ traffic.air id call)
  unregistered : call.ended = true → ∀ node name, traffic.names node name ≠ some (.call id)

theorem isolated_of_kept {id : CallId} {call : Call Msg Value} (hkept : traffic.Kept True)
    (hcall : traffic.calls[id]? = some call) : Isolated traffic id call := by
  have hsound := hkept.sound hcall
  have hfront (hstream : call.stream = true) := (hsound.complete trivial hstream).1
  refine ⟨?_, ?_, ?_, ?_, ?_⟩
  · intro hask
    exact ⟨(hsound.once hask).1, fun reply hreply =>
      hsound.sublist.subset (List.mem_append_left _ hreply)⟩
  · intro hstream
    have hshape : Items call.got ∨ Closed call.got := by
      have hshape := hsound.shape hstream
      unfold Call.Shape at hshape
      split at hshape
      all_goals first | exact .inl hshape | exact .inr hshape | exact hshape
    rcases hshape with hitems | hclosed
    · exact ⟨hitems.front (hfront hstream), hitems.ne_plain⟩
    · exact ⟨(hclosed.eq (hfront hstream)) ▸ List.prefix_rfl, hclosed.ne_plain⟩
  · intro hstream hended
    have hshape := hsound.shape hstream
    simp only [Call.Shape, hended] at hshape
    exact ⟨hshape.eq (hfront hstream), hshape⟩
  · exact fun hstream => (hsound.complete trivial hstream).2
  · intro hended node name howner
    obtain ⟨known, hknown, hlive, _⟩ := hkept.directory.names.mp howner
    obtain rfl := Option.some.inj ((Traffic.ident_of hcall).symm.trans hknown)
    exact Bool.false_ne_true ((Call.live_of_ended hended).symm.trans hlive)

theorem forall₂_of_mapM {Input Output : Type} {function : Input → Option Output}
    {inputs : List Input} {outputs : List Output} (houtputs : inputs.mapM function = some outputs) :
    List.Forall₂ (fun input output => function input = some output) inputs outputs := by
  induction inputs generalizing outputs with
  | nil =>
      obtain rfl := Option.some.inj houtputs
      exact .nil
  | cons input inputs ih =>
      simp only [List.mapM_cons, Option.bind_eq_bind, Option.bind_eq_some_iff, Option.pure_def,
        Option.some.injEq] at houtputs
      obtain ⟨output, houtput, rest, hrest, rfl⟩ := houtputs
      exact .cons houtput (ih hrest)

theorem mem_got_of_result {call : Call Msg Value} {reply : Reply Value}
    (hresult : call.result = some (.ok reply)) : reply ∈ call.got := by
  unfold Call.result at hresult
  split at hresult
  next hgot =>
    obtain rfl := Except.ok.inj (Option.some.inj hresult)
    simp [hgot]
  · cases hresult
  · cases hresult

/-- Every call gets replies to its own message only, streams miss none and end with the final one, `map` returns a reply to each item in its place, and no mailbox outlives its call. -/
theorem calls_isolated {system : System pools Value}
    (hreach : Machine.ReachableWhere step (fun system action => system.roomy action = true) {}
      system) :
    (∀ (id : CallId) (call : Call Msg Value), system.traffic.calls[id]? = some call →
      Isolated system.traffic id call) ∧
    ∀ gather ∈ system.maps, ∀ returned, system.results gather = some returned →
      ∀ (i : Nat) (item : Msg), gather.items[i]? = some item →
        ∃ id call result, gather.calls[i]? = some id ∧ system.traffic.calls[id]? = some call ∧
          call.msg = item ∧ returned[i]? = some result ∧
          ∀ reply, result = .ok reply → reply ∈ call.made := by
  have hkept : system.Kept True := kept_of_reachable (fun _ _ hroomy _ => hroomy) hreach
  refine ⟨fun id call hcall => isolated_of_kept hkept.traffic hcall, ?_⟩
  intro gather hgather returned hreturned i item hitem
  obtain ⟨hlength, hcalls⟩ := hkept.maps gather hgather
  unfold System.results at hreturned
  split at hreturned
  · cases hreturned
  next outcomes houtcomes =>
  rw [Option.ite_none_right_eq_some, Option.some.injEq] at hreturned
  obtain ⟨_, rfl⟩ := hreturned
  have hi : i < gather.calls.length := hlength ▸ (List.getElem?_eq_some_iff.mp hitem).1
  have hall := forall₂_of_mapM houtcomes
  have hi' : i < outcomes.length := hall.length_eq ▸ hi
  obtain ⟨call, hcall, hmsg⟩ := hcalls i _ (List.getElem?_eq_getElem hi)
  refine ⟨_, call, outcomes[i], List.getElem?_eq_getElem hi, hcall,
    Option.some.inj (hmsg.symm.trans hitem), List.getElem?_eq_getElem hi', fun reply hreply => ?_⟩
  have hresult := hall.get hi hi'
  simp only [List.get_eq_getElem, hcall, Option.bind_some, hreply] at hresult
  exact (hkept.traffic.sound hcall).sublist.subset
    (List.mem_append_left _ (mem_got_of_result hresult))

end System

/-! ### Two nodes

On each of them is a pool with one worker. -/

namespace Fixed

def twoPools : Pools Nat Nat where
  settings _ := { name := "p", reprName := "'p'", noHandler := fun _ => "", nWorkers := 1,
                  nWorkers_pos := Nat.one_pos }
  home id := if id = 0 then "a@h:1" else "b@h:2"

abbrev Step := Action twoPools Nat

def worker (id : PoolId) : Fin (twoPools.settings id).nWorkers := (twoPools.settings id).shared

def asks (id : CallId) (target : Target) : List Step :=
  [.register id, .send id (some target) none none]

def answers (id : PoolId) (replies : List (Reply Nat)) : List Step :=
  .dispatch id .aborted :: .work id (worker id) .get ::
    replies.map (.workerReply id (worker id) · none) ++ [.work id (worker id) .returned]

def arrives (id : CallId) : List Step :=
  [.deliver "b@h:2" "a@h:1", .drain id true, .callback id true]

def consumes (id : CallId) : List Step := [.receive id, .resume id]

def stream : List Step :=
  .ask "a@h:1" true 7 :: .map "a@h:1" [8, 9] false ::
    .work 0 (worker 0) (.start none) :: .work 1 (worker 1) (.start none) ::
    (asks 0 (.pool 1) ++ asks 2 (.pool 0) ++ asks 1 (.pool 0) ++ answers 0 [.plain 30] ++
      answers 1 [.item 1, .final 2] ++ answers 0 [.plain 20, .plain 21] ++ arrives 0 ++ consumes 0 ++
      arrives 0 ++ consumes 0 ++ [.receive 1, .receive 2])

/-- An actor on the other node sends 257 replies before the first one is drained, and then the final one. -/
def burst : List Step :=
  .ask "a@h:1" true 7 :: asks 0 (.actor "b@h:2") ++
    List.replicate 257 (.reply 0 (.item 1) none) ++
    List.replicate 257 (.deliver "b@h:2" "a@h:1") ++
    (List.replicate 256 [.drain 0 true, .callback 0 true, .receive 0, .resume 0]).flatten ++
    .reply 0 (.final 2) none :: arrives 0 ++ consumes 0

end Fixed

namespace System

theorem calls_isolated_pools : ∃ system : System Fixed.twoPools Nat,
    Machine.ReachableWhere step (fun system action => system.roomy action = true) {} system ∧
    (system.traffic.calls.map (·.got) = [[.item 1, .final 2], [.plain 20], [.plain 30]] ∧
      (system.maps.filterMap system.results).map (·.filterMap Except.toOption) =
        [[.plain 20, .plain 30]]) ∧
    ∀ (id : CallId) (call : Call Nat Nat), system.traffic.calls[id]? = some call →
      Isolated system.traffic id call := by
  have hrun : (Machine.runWhere step (fun system action => system.roomy action = true)
      ({} : System Fixed.twoPools Nat) Fixed.stream).map (fun system => decide
        (system.traffic.calls.map (·.got) = [[.item 1, .final 2], [.plain 20], [.plain 30]] ∧
          (system.maps.filterMap system.results).map (·.filterMap Except.toOption) =
            [[.plain 20, .plain 30]])) = some true := by decide +kernel
  obtain ⟨system, hreach, hobserved⟩ := Machine.exists_reachableWhere hrun
  exact ⟨system, hreach, of_decide_eq_true hobserved, (calls_isolated hreach).1⟩

theorem stream_misses_reply : ∃ system : System Fixed.twoPools Nat,
    Machine.Reachable step {} system ∧
    ∃ call, system.traffic.calls[0]? = some call ∧ call.stream = true ∧ call.stage = .ended none ∧
      call.got ≠ throughFinal call.made := by
  have hrun : (Machine.runWhere step (fun _ _ => True)
      ({} : System Fixed.twoPools Nat) Fixed.burst).map (fun system =>
        (system.traffic.calls[0]?).any fun call => decide
          (call.stream = true ∧ call.stage = .ended none ∧ call.got ≠ throughFinal call.made)) =
      some true := by decide +kernel
  obtain ⟨system, hreach, hobserved⟩ := Machine.exists_reachableWhere hrun
  rw [Option.any_eq_true] at hobserved
  obtain ⟨call, hcall, hmissed⟩ := hobserved
  exact ⟨system, hreach, call, hcall, of_decide_eq_true hmissed⟩

end System

end Ask

end LapinBeam
