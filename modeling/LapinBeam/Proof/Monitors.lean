import LapinBeam.Actor.Cluster
import LapinBeam.Proof.Generations

/-!
# A monitor fires at most once

Five sources may produce a `Down` for one reference: the end of the target, its absence, here or on
the other node, the message of the other node, and the loss of the connection. Each of them goes
through `_deliver_down`, which takes the entry of `_monitors` first and does nothing without one.
Only `monitor()` makes an entry, for a reference that is new; so once the entry is taken, by a
`Down` or by `demonitor()`, there is none for the reference any more, on any node.
-/

namespace LapinBeam.Actor

open Asyncio (TaskId)

def Message.isDown (ref : Ref) : Message → Bool
  | .down other _ _ => other = ref
  | _ => false

def Mailbox.downs (ref : Ref) (mailbox : Mailbox) : Nat :=
  mailbox.accepted.countP (·.isDown ref)

def OneMore (ref : Ref) (mailbox : MailboxId) (before after : Runtime) : Prop :=
  ∀ other, (after.mailboxes other).downs ref ≤
    (before.mailboxes other).downs ref + if other = mailbox then 1 else 0

structure Silent (ref : Ref) (before after : Runtime) : Prop where
  entry : after.signals.monitors ref = before.signals.monitors ref
  downs : ∀ mailbox, (after.mailboxes mailbox).downs ref ≤ (before.mailboxes mailbox).downs ref

inductive Watched (ref : Ref) (before after : Runtime) : Prop
  | silent (hsilent : Silent ref before after)
  | dropped (hentry : after.signals.monitors ref = none)
      (hdowns : ∀ mailbox,
        (after.mailboxes mailbox).downs ref ≤ (before.mailboxes mailbox).downs ref)
  | fired (mailbox : MailboxId) (hbefore : before.signals.monitors ref ≠ none)
      (hentry : after.signals.monitors ref = none) (hdowns : OneMore ref mailbox before after)

theorem Silent.of_eq {ref : Ref} {before after : Runtime}
    (hentry : after.signals.monitors ref = before.signals.monitors ref)
    (hmailboxes : after.mailboxes = before.mailboxes) : Silent ref before after :=
  ⟨hentry, fun mailbox => by rw [hmailboxes]⟩

theorem Silent.of_signals {ref : Ref} {before after : Runtime} (signals : Signals)
    (hentry : signals.monitors ref = before.signals.monitors ref)
    (hsilent : Silent ref { before with signals } after) : Silent ref before after :=
  ⟨hsilent.entry.trans hentry, hsilent.downs⟩

section Node

variable (ref : Ref) (runtime : Runtime)

theorem Mailbox.downs_put (mailbox : Mailbox) (msg : Message) :
    (mailbox.put msg).downs ref = mailbox.downs ref + if msg.isDown ref then 1 else 0 := by
  simp [downs, put, List.countP_append, List.countP_singleton]

@[simp]
theorem signals_sendLocal (name : String) (msg : Message) :
    (runtime.sendLocal name msg).signals = runtime.signals := by
  unfold Runtime.sendLocal
  split
  · rfl
  · split <;> rfl

theorem downs_sendLocal (name : String) (msg : Message) :
    ∃ mailbox, ∀ other, ((runtime.sendLocal name msg).mailboxes other).downs ref ≤
      (runtime.mailboxes other).downs ref +
        if other = mailbox ∧ msg.isDown ref = true then 1 else 0 := by
  unfold Runtime.sendLocal
  split
  · exact ⟨0, fun other => Nat.le_add_right _ _⟩
  · rename_i target _
    refine ⟨target, fun other => ?_⟩
    split
    · exact Nat.le_add_right _ _
    · by_cases heq : other = target
      · subst heq
        simp [Mailbox.downs_put]
      · simp [heq]

theorem silent_sendLocal (name : String) {msg : Message} (hother : msg.isDown ref = false) :
    Silent ref runtime (runtime.sendLocal name msg) := by
  refine ⟨by simp, fun mailbox => ?_⟩
  obtain ⟨target, hdowns⟩ := downs_sendLocal ref runtime name msg
  simpa [hother] using hdowns mailbox

theorem silent_deliverExit (fromLabel target reason : String) :
    Silent ref runtime (runtime.deliverExit fromLabel target reason) := by
  unfold Runtime.deliverExit
  split
  · exact silent_sendLocal ref runtime target rfl
  · split <;> exact .of_eq rfl rfl

theorem silent_deliverDown {other : Ref} (hne : other ≠ ref) (actorLabel reason : String) :
    Silent ref runtime (runtime.deliverDown other actorLabel reason) := by
  unfold Runtime.deliverDown
  split
  · exact .of_eq rfl rfl
  · have hother : (Message.down other actorLabel reason).isDown ref = false := by
      simp [Message.isDown, hne]
    refine .of_signals (runtime.signals.popMonitor other) ?_ (silent_sendLocal ref _ _ hother)
    simp [Signals.popMonitor, Function.update_of_ne hne.symm]

theorem watched_deliverDown (actorLabel reason : String) :
    Watched ref runtime (runtime.deliverDown ref actorLabel reason) := by
  unfold Runtime.deliverDown
  split
  · exact .silent (.of_eq rfl rfl)
  · rename_i monitor hentry
    obtain ⟨mailbox, hdowns⟩ := downs_sendLocal ref
      { runtime with signals := runtime.signals.popMonitor ref } monitor.watcher
      (.down ref actorLabel reason)
    refine .fired mailbox (by simp [hentry]) (by simp [Signals.popMonitor]) fun other => ?_
    simpa [Message.isDown] using hdowns other

theorem watched_down (other : Ref) (actorLabel reason : String) :
    Watched ref runtime (runtime.deliverDown other actorLabel reason) := by
  by_cases heq : other = ref
  · subst heq
    exact watched_deliverDown other runtime actorLabel reason
  · exact .silent (silent_deliverDown ref runtime heq actorLabel reason)

theorem silent_link (me : String) (other : Address) : Silent ref runtime (runtime.link me other) := by
  simp only [Runtime.link]
  split
  · split
    · exact .of_signals ((runtime.signals.addLink me other).addLink other.name ⟨none, me⟩) rfl
        (silent_deliverExit ref _ _ _ _)
    · exact .of_eq rfl rfl
  · exact .of_eq rfl rfl

theorem silent_monitor (me : String) (target : Address) {other : Ref} (hne : other ≠ ref) :
    Silent ref runtime (runtime.monitor me target other) := by
  have hentry : (runtime.signals.addMonitor other ⟨me, target⟩).monitors ref =
      runtime.signals.monitors ref := by
    simp [Signals.addMonitor, Function.update_of_ne hne.symm]
  simp only [Runtime.monitor]
  split
  · split
    · exact .of_signals
        ((runtime.signals.addMonitor other ⟨me, target⟩).addWatcher target.name other ⟨none, me⟩)
        hentry (silent_deliverDown ref _ hne _ _)
    · exact .of_eq hentry rfl
  · exact .of_eq hentry rfl

theorem monitor_cases (me : String) (target : Address) :
    (∀ mailbox, ((runtime.monitor me target ref).mailboxes mailbox).downs ref ≤
      (runtime.mailboxes mailbox).downs ref) ∨
    (runtime.monitor me target ref).signals.monitors ref = none ∧
      ∃ mailbox, OneMore ref mailbox runtime (runtime.monitor me target ref) := by
  simp only [Runtime.monitor]
  split
  · split
    · cases watched_deliverDown ref { runtime with signals := _ } target.name "noproc" with
      | silent hsilent => exact .inl hsilent.downs
      | dropped _ hdowns => exact .inl hdowns
      | fired mailbox _ hentry hdowns => exact .inr ⟨hentry, mailbox, hdowns⟩
    · exact .inl fun _ => Nat.le_refl _
  · exact .inl fun _ => Nat.le_refl _

theorem watched_demonitor (other : Ref) : Watched ref runtime (runtime.demonitor other) := by
  have hmailboxes : (runtime.demonitor other).mailboxes = runtime.mailboxes := by
    simp only [Runtime.demonitor]
    split
    · rfl
    · split <;> rfl
  by_cases heq : other = ref
  · subst heq
    cases hentry : runtime.signals.monitors other with
    | none => exact .silent (.of_eq (by simp [Runtime.demonitor, hentry]) hmailboxes)
    | some monitor =>
        refine .dropped ?_ fun mailbox => by rw [hmailboxes]
        simp only [Runtime.demonitor, hentry]
        split <;> simp [Runtime.post, Signals.popMonitor, Signals.dropWatcher]
  · refine .silent (.of_eq ?_ hmailboxes)
    have hne := Ne.symm heq
    simp only [Runtime.demonitor]
    split
    · rfl
    · split <;> simp [Runtime.post, Signals.popMonitor, Signals.dropWatcher, hne]

theorem watched_receive (msg : PeerMessage) : Watched ref runtime (runtime.receive msg) := by
  cases msg with
  | exit target actor reason fromNode => exact .silent (silent_deliverExit ref runtime _ _ _)
  | down other actor reason fromNode => exact watched_down ref runtime other _ _
  | link | monitor =>
      simp only [Runtime.receive]
      split <;> exact .silent (.of_eq rfl rfl)
  | unlink | demonitor => exact .silent (.of_eq rfl rfl)

theorem Effect.watched (effect : Effect)
    (hmonitor : ∀ me other, effect ≠ .monitor me other ref)
    (hsend : ∀ name msg, effect = .sendLocal name msg → msg.isDown ref = false) :
    Watched ref runtime (effect.apply runtime) := by
  cases effect with
  | deliver signal =>
      cases signal with
      | exit source target reason => exact .silent (silent_deliverExit ref runtime _ _ _)
      | down other actor reason => exact watched_down ref runtime other _ _
      | remoteExit | remoteDown => exact .silent (.of_eq rfl rfl)
  | sendLocal name msg => exact .silent (silent_sendLocal ref runtime name (hsend name msg rfl))
  | link me other => exact .silent (silent_link ref runtime me other)
  | unlink me other =>
      refine .silent ?_
      simp only [Effect.apply, Runtime.unlink]
      split <;> exact .of_eq rfl rfl
  | monitor me target other =>
      exact .silent (silent_monitor ref runtime me target fun heq => hmonitor me target (heq ▸ rfl))
  | demonitor other => exact watched_demonitor ref runtime other
  | receive msg => exact watched_receive ref runtime msg
  | dequeue other =>
      refine .silent ⟨rfl, fun mailbox => ?_⟩
      by_cases heq : mailbox = other
      · subst heq
        simp [Effect.apply, Mailbox.downs, Mailbox.take]
      · simp [Effect.apply, heq]
  | spawn supervisor name kind =>
      cases kind with
      | supervisor settings => exact .silent (.of_eq rfl rfl)
      | actor other =>
          refine .silent ⟨rfl, fun mailbox => ?_⟩
          by_cases heq : mailbox = other
          · subst heq
            simp [Effect.apply, Runtime.spawn, Mailbox.downs]
          · simp [Effect.apply, Runtime.spawn, heq]
  | denied child exc =>
      obtain ⟨_, _, _, heq⟩ : runtime.Booked ((Effect.denied child exc).apply runtime) :=
        Effect.booked rfl runtime
      rw [heq]
      exact .silent (.of_eq rfl rfl)
  | cleanup child takeExit => cases takeExit <;> exact .silent (.of_eq rfl rfl)
  | _ => exact .silent (.of_eq rfl rfl)

end Node

def Effect.byCall : Effect → Bool
  | .sendLocal _ _ | .monitor _ _ _ => true
  | _ => false

theorem Frame.call_of_byCall {runtime : Runtime} {self : TaskId} {frame : Frame} {input : Input}
    {move : Move} (hmove : frame.move runtime self input = some move)
    (hcall : move.effect.byCall = true) :
    ∃ call, input = .call call ∧ call.move runtime = some move := by
  cases frame with
  | outside rest =>
      cases rest with
      | nil =>
          cases input with
          | call call => exact ⟨call, rfl, hmove⟩
          | _ => cases hmove
      | cons =>
          cases input with
          | go => cases hmove; cases hcall
          | _ => cases hmove
  | child owner stage =>
      cases ChildStage.stretch_of_move hmove with
      | notified => split at hcall <;> cases hcall
      | _ => cases hcall
  | driver owner mailbox stage => cases DriverStage.stretch_of_move hmove <;> cases hcall
  | delivery signal =>
      cases input with
      | go => cases hmove; cases hcall
      | _ => cases hmove
  | delivered => cases hmove

theorem Call.cases_of_byCall {runtime : Runtime} {call : Call} {move : Move}
    (hmove : call.move runtime = some move) (hcall : move.effect.byCall = true) :
    (∃ me other ref, call = .monitor me other ref ∧
      move.effect = .monitor (runtime.children me).name other ref) ∨
    ∃ name msg, call = .sendLocal name msg ∧ move.effect = .sendLocal name msg := by
  cases call with
  | monitor me other ref => cases hmove; exact .inl ⟨me, other, ref, rfl, rfl⟩
  | sendLocal name msg => cases hmove; exact .inr ⟨name, msg, rfl, rfl⟩
  | spawn | spawnSupervisor | cancelTask =>
      simp only [Call.move, Option.ite_none_right_eq_some] at hmove
      cases hmove.2
      cases hcall
  | stopped =>
      simp only [Call.move] at hmove
      split at hmove
      · rw [Option.ite_none_right_eq_some] at hmove
        cases hmove.2
        cases hcall
      · cases hmove
  | _ => cases hmove; cases hcall

section Step

variable {ref : Ref} {system next : System} {action : Action}

theorem Watched.congr {before after other : Runtime} (hwatched : Watched ref before after)
    (hsignals : other.signals = after.signals) (hmailboxes : other.mailboxes = after.mailboxes) :
    Watched ref before other := by
  cases hwatched with
  | silent hsilent =>
      exact .silent ⟨by rw [hsignals, hsilent.entry], by rw [hmailboxes]; exact hsilent.downs⟩
  | dropped hentry hdowns => exact .dropped (by rw [hsignals, hentry]) (by rwa [hmailboxes])
  | fired mailbox hbefore hentry hdowns =>
      refine .fired mailbox hbefore (by rw [hsignals, hentry]) ?_
      simpa only [OneMore, hmailboxes] using hdowns

theorem watched_of_step (hstep : step system action = some next)
    (hmonitor : ∀ index me other, action ≠ .resume index (.call (.monitor me other ref)))
    (hsend : ∀ index name msg, action = .resume index (.call (.sendLocal name msg)) →
      msg.isDown ref = false) : Watched ref system.shared next.shared := by
  obtain ⟨index, input, task, move, rfl, -, -, hmove, rfl⟩ := step_cases hstep
  refine Watched.congr (Effect.watched ref system.shared move.effect ?_ ?_) rfl rfl
  · intro me other heffect
    obtain ⟨call, rfl, hcall⟩ := Frame.call_of_byCall hmove (by rw [heffect]; rfl)
    rcases Call.cases_of_byCall hcall (by rw [heffect]; rfl) with
      ⟨_, _, _, rfl, heq⟩ | ⟨_, _, -, heq⟩ <;> cases heffect.symm.trans heq
    exact hmonitor _ _ _ rfl
  · intro name msg heffect
    obtain ⟨call, rfl, hcall⟩ := Frame.call_of_byCall hmove (by rw [heffect]; rfl)
    rcases Call.cases_of_byCall hcall (by rw [heffect]; rfl) with
      ⟨_, _, _, -, heq⟩ | ⟨_, _, rfl, heq⟩ <;> cases heffect.symm.trans heq
    exact hsend _ _ _ rfl

theorem monitored_of_step {me : ChildId} {other : Address}
    (hstep : step system (.resume 0 (.call (.monitor me other ref))) = some next)
    (hnone : system.shared.signals.monitors ref = none) :
    (∀ mailbox, (next.shared.mailboxes mailbox).downs ref ≤
      (system.shared.mailboxes mailbox).downs ref) ∨
    next.shared.signals.monitors ref = none ∧
      ∃ mailbox, OneMore ref mailbox system.shared next.shared := by
  obtain ⟨index, input, task, move, heq, -, -, hmove, rfl⟩ := step_cases hstep
  cases heq
  cases hcall : move.effect.byCall with
  | true =>
      obtain ⟨call, heq, hcall'⟩ := Frame.call_of_byCall hmove hcall
      cases heq
      cases hcall'
      exact monitor_cases ref system.shared (system.shared.children me).name other
  | false =>
      have hwatched := Effect.watched ref system.shared move.effect
        (fun _ _ heffect => by rw [heffect] at hcall; cases hcall)
        (fun _ _ heffect => by rw [heffect] at hcall; cases hcall)
      cases hwatched with
      | silent hsilent => exact .inl hsilent.downs
      | dropped _ hdowns => exact .inl hdowns
      | fired _ hbefore => exact absurd hnone hbefore

end Step

namespace Cluster

variable {ref : Ref} {cluster after : Cluster} {action : ClusterAction} {node : String}
  {moved : System}

/-- How many `Down` messages for a reference a mailbox of a node has been given. -/
def downs (cluster : Cluster) (ref : Ref) (node : String) (mailbox : MailboxId) : Nat :=
  ((cluster.nodes node).shared.mailboxes mailbox).downs ref

theorem step_cases (ref : Ref) (hstep : cluster.step action = some after) :
    ∃ node moved, after.nodes = Function.update cluster.nodes node moved ∧
      cluster.nextRef ≤ after.nextRef ∧
      (Watched ref (cluster.nodes node).shared moved.shared ∨
        ref = cluster.nextRef ∧ ref < after.nextRef ∧
          ∃ me other, Actor.step (cluster.nodes node)
            (.resume 0 (.call (.monitor me other ref))) = some moved) := by
  cases action with
  | run node action =>
      simp only [step, Option.ite_none_right_eq_some, Option.map_eq_some_iff] at hstep
      obtain ⟨hordinary, moved, hafter, rfl⟩ := hstep
      refine ⟨node, moved, rfl, Nat.le_refl _, .inl (watched_of_step hafter ?_ ?_)⟩
      · rintro index me other rfl
        cases hordinary
      · rintro index name msg rfl
        cases msg with
        | user body => rfl
        | _ => cases hordinary
  | monitor node me other =>
      simp only [step, Option.map_eq_some_iff] at hstep
      obtain ⟨moved, hafter, rfl⟩ := hstep
      refine ⟨node, moved, rfl, Nat.le_succ _, ?_⟩
      by_cases hnew : ref = cluster.nextRef
      · subst hnew
        exact .inr ⟨rfl, Nat.lt_succ_self _, me, other, hafter⟩
      · refine .inl (watched_of_step hafter ?_ ?_)
        · intro index me other heq
          cases heq
          exact hnew rfl
        · intro index name msg heq
          cases heq
  | deliver index =>
      simp only [step] at hstep
      split at hstep
      · cases hstep
      · obtain ⟨moved, hafter, rfl⟩ := Option.map_eq_some_iff.mp hstep
        refine ⟨_, moved, rfl, Nat.le_refl _, .inl (watched_of_step hafter ?_ ?_)⟩
        · intro index me other heq
          cases heq
        · intro index name msg heq
          cases heq

structure Single (ref : Ref) (cluster : Cluster) : Prop where
  unique : ∀ node other, cluster.entry node ref ≠ none → cluster.entry other ref ≠ none →
    node = other
  fresh : cluster.nextRef ≤ ref → ∀ node, cluster.entry node ref = none

structure Settled (ref : Ref) (cluster : Cluster) : Prop where
  used : ref < cluster.nextRef
  gone : ∀ node, cluster.entry node ref = none

section

variable (hnodes : after.nodes = Function.update cluster.nodes node moved)

include hnodes

theorem entry_next (other : String) :
    after.entry other ref =
      if other = node then moved.shared.signals.monitors ref else cluster.entry other ref := by
  by_cases heq : other = node
  · subst heq
    simp [entry, hnodes]
  · simp [entry, hnodes, heq]

theorem downs_next (other : String) (mailbox : MailboxId) :
    after.downs ref other mailbox =
      if other = node then (moved.shared.mailboxes mailbox).downs ref
      else cluster.downs ref other mailbox := by
  by_cases heq : other = node
  · subst heq
    simp [downs, hnodes]
  · simp [downs, hnodes, heq]

theorem entry_of_watched (hwatched : Watched ref (cluster.nodes node).shared moved.shared)
    {other : String} (hsome : after.entry other ref ≠ none) : cluster.entry other ref ≠ none := by
  rw [entry_next hnodes] at hsome
  split at hsome
  next heq =>
    subst heq
    cases hwatched with
    | silent hsilent => rwa [hsilent.entry] at hsome
    | dropped hentry | fired _ _ hentry => exact absurd hentry hsome
  next => exact hsome

end

theorem Single.next (hsingle : Single ref cluster) (hstep : cluster.step action = some after) :
    Single ref after := by
  obtain ⟨node, moved, hnodes, hle, hcases⟩ := step_cases ref hstep
  rcases hcases with hwatched | ⟨hnew, hlt, -⟩
  · have hback : ∀ other, after.entry other ref ≠ none → cluster.entry other ref ≠ none :=
      fun _ => entry_of_watched hnodes hwatched
    exact ⟨fun first second hfirst hsecond =>
      hsingle.unique first second (hback first hfirst) (hback second hsecond),
      fun hfresh other => by_contra fun hsome =>
        hback other hsome (hsingle.fresh (hle.trans hfresh) other)⟩
  · have honly : ∀ other, after.entry other ref ≠ none → other = node := by
      intro other hsome
      by_contra hne
      rw [entry_next hnodes, if_neg hne] at hsome
      exact hsome (hsingle.fresh (Nat.le_of_eq hnew.symm) other)
    exact ⟨fun first second hfirst hsecond => (honly first hfirst).trans (honly second hsecond).symm,
      fun hfresh => absurd hlt (Nat.not_lt.mpr hfresh)⟩

theorem Settled.next (hsettled : Settled ref cluster) (hstep : cluster.step action = some after) :
    Settled ref after ∧ ∀ node mailbox, after.downs ref node mailbox ≤ cluster.downs ref node mailbox := by
  obtain ⟨node, moved, hnodes, hle, hcases⟩ := step_cases ref hstep
  have hwatched := hcases.resolve_right fun hnew => Nat.ne_of_lt hsettled.used hnew.1
  have hgone : (cluster.nodes node).shared.signals.monitors ref = none := hsettled.gone node
  have hentry : moved.shared.signals.monitors ref = none := by
    cases hwatched with
    | silent hsilent => exact hsilent.entry.trans hgone
    | dropped hentry | fired _ _ hentry => exact hentry
  have hdowns : ∀ mailbox, (moved.shared.mailboxes mailbox).downs ref ≤
      cluster.downs ref node mailbox := by
    cases hwatched with
    | silent hsilent => exact hsilent.downs
    | dropped _ hdowns => exact hdowns
    | fired _ hbefore => exact absurd hgone hbefore
  refine ⟨⟨Nat.lt_of_lt_of_le hsettled.used hle, fun other => ?_⟩, fun other mailbox => ?_⟩
  · rw [entry_next hnodes]
    split
    · exact hentry
    · exact hsettled.gone other
  · rw [downs_next hnodes]
    split
    next heq => exact heq ▸ hdowns mailbox
    next => exact Nat.le_refl _

theorem Single.settled (hsingle : Single ref cluster) (hstep : cluster.step action = some after)
    (hbefore : cluster.entry node ref ≠ none) (hafter : after.entry node ref = none) :
    Settled ref after := by
  obtain ⟨_, moved, hnodes, hle, hcases⟩ := step_cases ref hstep
  have hused : ref < cluster.nextRef := by
    by_contra hfresh
    exact hbefore (hsingle.fresh (Nat.le_of_not_lt hfresh) node)
  have hwatched := hcases.resolve_right fun hnew => Nat.ne_of_lt hused hnew.1
  refine ⟨Nat.lt_of_lt_of_le hused hle, fun other => ?_⟩
  by_contra hsome
  have heq := hsingle.unique other node (entry_of_watched hnodes hwatched hsome) hbefore
  exact hsome (heq ▸ hafter)

theorem Single.fires (hsingle : Single ref cluster) (hstep : cluster.step action = some after) :
    (∀ node mailbox, after.downs ref node mailbox ≤ cluster.downs ref node mailbox) ∨
    Settled ref after ∧ ∃ node mailbox, ∀ other slot, after.downs ref other slot ≤
      cluster.downs ref other slot + if other = node ∧ slot = mailbox then 1 else 0 := by
  obtain ⟨node, moved, hnodes, hle, hcases⟩ := step_cases ref hstep
  have hsame : (∀ mailbox, (moved.shared.mailboxes mailbox).downs ref ≤
        cluster.downs ref node mailbox) →
      ∀ other mailbox, after.downs ref other mailbox ≤ cluster.downs ref other mailbox := by
    intro hdowns other mailbox
    rw [downs_next hnodes]
    split
    next heq => exact heq ▸ hdowns mailbox
    next => exact Nat.le_refl _
  have hone : ∀ mailbox, OneMore ref mailbox (cluster.nodes node).shared moved.shared →
      ∀ other slot, after.downs ref other slot ≤
        cluster.downs ref other slot + if other = node ∧ slot = mailbox then 1 else 0 := by
    intro mailbox hdowns other slot
    rw [downs_next hnodes]
    split
    next heq =>
      subst heq
      simpa [downs] using hdowns slot
    next hne => simp [hne]
  have hentry : after.entry node ref = moved.shared.signals.monitors ref := by
    rw [entry_next hnodes, if_pos rfl]
  rcases hcases with hwatched | ⟨hnew, hlt, me, other, hmonitor⟩
  · cases hwatched with
    | silent hsilent => exact .inl (hsame hsilent.downs)
    | dropped _ hdowns => exact .inl (hsame hdowns)
    | fired mailbox hbefore hafter hdowns =>
        exact .inr ⟨hsingle.settled hstep hbefore (hentry.trans hafter), node, mailbox,
          hone mailbox hdowns⟩
  · have hfresh := hsingle.fresh (Nat.le_of_eq hnew.symm)
    rcases monitored_of_step hmonitor (hfresh node) with hdowns | ⟨hafter, mailbox, hdowns⟩
    · exact .inl (hsame hdowns)
    · refine .inr ⟨⟨hlt, fun other => ?_⟩, node, mailbox, hone mailbox hdowns⟩
      rw [entry_next hnodes]
      split
      · exact hafter
      · exact hfresh other

theorem single_of_reachable {mailboxCapacity : String → Option Nat}
    (hreach : Machine.Reachable step (start mailboxCapacity) cluster) (ref : Ref) :
    Single ref cluster := by
  refine hreach.invariant ⟨fun _ _ hsome => absurd rfl hsome, fun _ _ => rfl⟩ ?_
  intro cluster action after hsingle _ hstep
  exact hsingle.next hstep

def Demonitors (cluster : Cluster) (action : ClusterAction) (ref : Ref) (after : Cluster) : Prop :=
  ∃ node, action = .run node (.resume 0 (.call (.demonitor ref))) ∧
    cluster.entry node ref ≠ none ∧ after.entry node ref = none

/-- Every step of a cluster puts at most one `Down` for a reference into a mailbox. Once it has, or once `demonitor()` has taken the entry, no step does any more. -/
theorem monitor_fires_once {mailboxCapacity : String → Option Nat} {before : Cluster} {ref : Ref}
    (hbefore : Machine.Reachable step (start mailboxCapacity) before)
    (hstep : before.step action = some after) :
    (∃ node mailbox, ∀ other slot, after.downs ref other slot ≤
      before.downs ref other slot + if other = node ∧ slot = mailbox then 1 else 0) ∧
    ((∃ node mailbox, before.downs ref node mailbox < after.downs ref node mailbox) ∨
        Demonitors before action ref after →
      ∀ later last action', Machine.Reachable step after later → later.step action' = some last →
        ∀ node mailbox, last.downs ref node mailbox ≤ later.downs ref node mailbox) := by
  have hsingle := single_of_reachable hbefore ref
  have hfires := hsingle.fires hstep
  refine ⟨?_, fun hgone later last action' hlater hlast => ?_⟩
  · rcases hfires with hnone | ⟨-, hone⟩
    · exact ⟨"", 0, fun other slot => (hnone other slot).trans (Nat.le_add_right _ _)⟩
    · exact hone
  · have hsettled : Settled ref after := by
      rcases hgone with ⟨node, mailbox, hlt⟩ | ⟨node, -, hsome, hnone⟩
      · rcases hfires with hnone | ⟨hsettled, -⟩
        · exact absurd hlt (Nat.not_lt.mpr (hnone node mailbox))
        · exact hsettled
      · exact hsingle.settled hstep hsome hnone
    have hlater : Settled ref later :=
      hlater.invariant hsettled fun _ _ _ hsettled _ hstep =>
        (hsettled.next hstep).1
    exact (hlater.next hlast).2

end Cluster

namespace Fixed

def monitored : List ClusterAction :=
  ([ask (.newSupervisor {}), ask (.spawn 0 "watcher")] ++ launch 1 2).map (.run "a") ++
    ([ask (.newSupervisor {}), ask (.spawn 0 "worker")] ++ launch 1 2).map (.run "b") ++
    [.monitor "a" 0 ⟨some "b", "worker"⟩, .deliver 0] ++
    [ask (.cancelTask 0), go 0, go 2, go 1, go 1, go 3].map (.run "b")

end Fixed

theorem Cluster.monitor_fires_once_redelivered :
    ∃ before after last, Machine.Reachable Cluster.step (Cluster.start fun _ => none) before ∧
      before.step (.deliver 1) = some after ∧ after.step (.deliver 1) = some last ∧
      before.downs 0 "a" 0 = 0 ∧ after.downs 0 "a" 0 = 1 ∧ last.downs 0 "a" 0 ≤ 1 := by
  have hrun : (Machine.runWhere Cluster.step (fun _ _ => True) (Cluster.start fun _ => none)
      Fixed.monitored).map (fun before => (before.downs 0 "a" 0,
        (before.step (.deliver 1)).bind fun after =>
          (after.step (.deliver 1)).map fun _ => after.downs 0 "a" 0)) =
      some (0, some 1) := by
    decide +kernel
  obtain ⟨before, hreach, hobserved⟩ := Machine.exists_reachableWhere hrun
  obtain ⟨hnone, hrest⟩ := Prod.mk.inj hobserved
  obtain ⟨after, hafter, hrest⟩ := Option.bind_eq_some_iff.mp hrest
  obtain ⟨last, hlast, hone⟩ := Option.map_eq_some_iff.mp hrest
  refine ⟨before, after, last, hreach, hafter, hlast, hnone, hone, ?_⟩
  have hfired : before.downs 0 "a" 0 < after.downs 0 "a" 0 := by rw [hnone, hone]; decide
  exact hone ▸ (monitor_fires_once hreach hafter).2 (.inl ⟨"a", 0, hfired⟩) after last _ .start hlast
    "a" 0

end LapinBeam.Actor
