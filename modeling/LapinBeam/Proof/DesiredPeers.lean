import LapinBeam.Proof.PeerEntries
import LapinBeam.Proof.ReconnectSupervisor

/-!
# Desired peers

A desired peer is connected, or some task is responsible for getting it back. Responsibility passes
from a dial to the peers map, from the map to the task that takes the entry out, from that task to
the supervisor with the disconnect event, and from the supervisor to a reconnect loop, which dials
until it has failed as often as it may.
-/

namespace LapinBeam

open TaskSystem

def ReconnectLoop.active : ReconnectLoop → Bool
  | .announcing | .returned => false
  | _ => true

def Task.pursues : Task → Option NodeId
  | .dial _ peer stage => if stage.registered = none then some peer else none
  | .dialed _ peer false => some peer
  | .reconnectLoop peer _ stage => if stage.active then some peer else none
  | _ => none

def Task.announces : Task → Option NodeId
  | .forgetPeer peer (.emitting _) => some peer
  | .readLoop _ (.emitting peer _) => some peer
  | _ => none

def Supervision.attends : Supervision → Option NodeId
  | .checkingDesired peer | .spawning peer => some peer
  | _ => none

def Task.Attends (transport : Transport) (peer : NodeId) : Task → Prop
  | .reconnectSupervisor cursor stage =>
      stage.attends = some peer ∨ stage ≠ .returned ∧
        ∃ emission ∈ transport.events.unread cursor, emission.event = .peerDisconnected peer
  | _ => False

def Task.Covers (transport : Transport) (task : Task) (peer : NodeId) : Prop :=
  task.pursues = some peer ∨ task.announces = some peer ∨ task.Attends transport peer

theorem Task.not_covers_of_bystander (transport : Transport) {task : Task} {peer : NodeId}
    (hbystander : task.bystander = true) : ¬ task.Covers transport peer := by
  rintro (h | h | h) <;> cases task <;> first | (cases hbystander; done) | cases h

section Step

variable {transport : Transport} {task : Task} {move : Move} {peer : NodeId}

theorem Task.Covers.apply (effect : Effect) (hcovers : task.Covers transport peer) :
    task.Covers (effect.apply transport) peer := by
  refine hcovers.imp_right (Or.imp_right fun hattends => ?_)
  cases task with
  | reconnectSupervisor cursor stage =>
      refine hattends.imp_right (And.imp_right fun hunread => ?_)
      obtain ⟨emission, hmem, hevent⟩ := hunread
      refine ⟨emission, ?_, hevent⟩
      rw [Broadcast.Channel.unread, Effect.log_apply, List.drop_append]
      exact List.mem_append_left _ hmem
  | _ => cases hattends

section

variable (hstretch : Stretch transport task move)

include hstretch

theorem Stretch.pursues (hreconnect : transport.config.reconnect = true)
    (hpursues : task.pursues = some peer)
    (hdesired : peer ∈ (move.effect.apply transport).desired) :
    (move.effect.apply transport).hasPeer peer = true ∨
      ∃ holder ∈ move.task :: move.spawned, holder.pursues = some peer := by
  cases hstretch with
  | other hbefore =>
      exact absurd (.inl hpursues) (Task.not_covers_of_bystander transport hbefore)
  | dialFailed hcancellable =>
      simp_all [Task.pursues, Dial.registered_of_cancellable hcancellable]
  | _ =>
      simp_all [Task.pursues, ReconnectLoop.active, Dial.registered, Effect.apply,
        Transport.hasPeer, Transport.refuses]

theorem Stretch.announces (hannounces : task.announces = some peer) :
    ∃ removed, move.effect = .emit (.peerDisconnected peer) removed := by
  cases hstretch with
  | other hbefore =>
      exact absurd (.inr (.inl hannounces)) (Task.not_covers_of_bystander transport hbefore)
  | _ => simp_all [Task.announces]

theorem Stretch.attends (hreconnect : transport.config.reconnect = true)
    (hkeeps : ∀ cursor ∈ task.polls, transport.events.lagging cursor = false)
    (hattends : task.Attends transport peer) (hdesired : peer ∈ transport.desired) :
    ∃ holder ∈ move.task :: move.spawned, holder.pursues = some peer ∨
      holder.Attends (move.effect.apply transport) peer := by
  cases hstretch with
  | other hbefore =>
      exact absurd (.inr (.inr hattends)) (Task.not_covers_of_bystander transport hbefore)
  | lag hrecv =>
      have hlag := Broadcast.Channel.recv_eq_lagged hrecv
      rw [hkeeps _ rfl] at hlag
      cases hlag
  | heed hrecv hevent =>
      refine ⟨_, List.mem_cons_self, .inr ?_⟩
      obtain ⟨⟨⟩⟩ | ⟨-, emission, hmem, hevent'⟩ := hattends
      rw [(Broadcast.Channel.recv_eq_item hrecv).1] at hmem
      rcases List.mem_cons.mp hmem with rfl | hlater
      · exact .inl (congrArg some (Event.peerDisconnected.inj (hevent.symm.trans hevent')))
      · exact .inr ⟨nofun, emission, hlater, hevent'⟩
  | ignore hrecv hevent =>
      refine ⟨_, List.mem_cons_self, .inr ?_⟩
      obtain ⟨⟨⟩⟩ | ⟨-, emission, hmem, hevent'⟩ := hattends
      rw [(Broadcast.Channel.recv_eq_item hrecv).1] at hmem
      rcases List.mem_cons.mp hmem with rfl | hlater
      · exact absurd hevent' (hevent peer)
      · exact .inr ⟨nofun, emission, hlater, hevent'⟩
  | wanted => exact ⟨_, List.mem_cons_self, .inr (hattends.imp_right fun h => ⟨nofun, h.2⟩)⟩
  | unwanted hunwanted =>
      refine ⟨_, List.mem_cons_self, .inr (.inr ?_)⟩
      rcases hattends with hself | ⟨-, hunread⟩
      · obtain rfl := Option.some.inj hself
        exact absurd hdesired (hunwanted hreconnect)
      · exact ⟨nofun, hunread⟩
  | restart =>
      rcases hattends with hself | ⟨-, hunread⟩
      · obtain rfl := Option.some.inj hself
        exact ⟨_, List.mem_cons_of_mem _ List.mem_cons_self, .inl rfl⟩
      · exact ⟨_, List.mem_cons_self, .inr (.inr ⟨nofun, hunread⟩)⟩
  | _ => cases hattends

theorem Stretch.desired_of_desired (hdesired : peer ∈ (move.effect.apply transport).desired) :
    peer ∈ transport.desired ∨ move.task.pursues = some peer := by
  cases hstretch with
  | other hbefore hafter hquiet =>
      exact .inl ((move.effect.undisturbed hquiet transport).desired ▸ hdesired)
  | introduce hbefore hafter hquiet | routeOn hquiet | routed hquiet =>
      exact .inl ((Effect.undisturbed hquiet transport).desired ▸ hdesired)
  | desire =>
      rcases Finset.mem_insert.mp hdesired with rfl | hold
      · exact .inr rfl
      · exact .inl hold
  | _ => simp_all [Effect.apply]

theorem Stretch.announces_of_remove {removed : PeerHandle}
    (heffect : move.effect = .removePeer peer removed) : move.task.announces = some peer := by
  cases hstretch <;> simp_all [Effect.quiet, Task.announces]

theorem Stretch.shutdown_of_takePeers (heffect : move.effect = .takePeers) :
    task = .shutdown .takingPeers := by
  cases hstretch <;> simp_all [Effect.quiet]

end

theorem Effect.stopped_apply (effect : Effect) (hstopped : transport.stopped = true) :
    (effect.apply transport).stopped = true := by
  cases effect <;> first | exact hstopped | rfl

def Task.StopsFirst (transport : Transport) (task : Task) : Prop :=
  ∀ stage, task = .shutdown stage → stage ≠ .stopping → transport.stopped = true

theorem Stretch.stopsFirst (hstretch : Stretch transport task move)
    (htask : task.StopsFirst transport) :
    ∀ holder ∈ move.task :: move.spawned, holder.StopsFirst (move.effect.apply transport) := by
  cases hstretch with
  | other hbefore hafter hquiet hspawned =>
      simp only [hspawned, List.mem_singleton, forall_eq]
      rintro stage heq
      simp [heq, Task.bystander] at hafter
  | stop => simp [Task.StopsFirst, Effect.apply]
  | clearDesired | takePeers =>
      simpa [Task.StopsFirst, Effect.apply] using htask _ rfl (by simp)
  | _ => simp [Task.StopsFirst]

end Step

namespace Transport

variable {externals : Externals} {localId : NodeId} {config : TransportConfig}
  {inboxes : Mailbox → Inbox} {system next : System} {action : Action}

theorem stopsFirst_of_reachable {allowed : System → Action → Prop}
    (hreach : Machine.ReachableWhere (step externals) allowed (start localId config inboxes)
      system) :
    Each (fun transport => transport.config = config) (fun transport task =>
      task.StopsFirst transport) system := by
  refine invariant_each ⟨rfl, fun task hmem => ?_⟩ ?_ ?_ ?_ hreach
  · rintro stage rfl
    rcases List.mem_pair.mp hmem with heq | heq <;> cases heq
  · rintro shared task - hentry stage rfl hstage
    cases stage <;> first | exact absurd rfl hstage | cases hentry
  · intro shared task input out hconfig htask hout
    obtain ⟨move, hstretch, rfl⟩ := perform_eq_some hout
    exact ⟨move.effect.config_apply.trans hconfig, hstretch.stopsFirst htask⟩
  · intro shared task input out other _ _ hout hother stage heq hstage
    obtain ⟨move, -, rfl⟩ := perform_eq_some hout
    exact move.effect.stopped_apply (hother stage heq hstage)

def DesiredCovered (system : System) : Prop :=
  system.shared.stopped = false → ∀ peer ∈ system.shared.desired, system.shared.hasPeer peer = true ∨
    Held (fun transport task peer => task.Covers transport peer) system peer

theorem attends_of_emit {transport : Transport} {task : Task} {peer : NodeId}
    (removed : Option PeerHandle) (hsupervises : task.Supervises transport) :
    task.Attends ((Effect.emit (.peerDisconnected peer) removed).apply transport) peer := by
  cases task with
  | reconnectSupervisor cursor stage =>
      refine .inr ⟨hsupervises.1, ⟨.peerDisconnected peer, removed⟩, ?_, rfl⟩
      change _ ∈ (transport.events.send _).unread cursor
      rw [Broadcast.Channel.unread_send _ hsupervises.2]
      exact List.mem_append_right _ List.mem_cons_self
  | _ => cases hsupervises

theorem DesiredCovered.of_hasPeer {task : Task} {move : Move} {peer : NodeId}
    (hstretch : Stretch system.shared task move)
    (hstopped : system.shared.stopped = false) (hstops : task.StopsFirst system.shared)
    (hpeer : system.shared.hasPeer peer = true) :
    (move.effect.apply system.shared).hasPeer peer = true ∨
      ∃ holder ∈ move.task :: move.spawned,
        holder.Covers (move.effect.apply system.shared) peer := by
  by_cases hkept : (move.effect.apply system.shared).hasPeer peer = true
  · exact .inl hkept
  · obtain ⟨handle, hentry⟩ := Option.isSome_iff_exists.mp hpeer
    have hgone : (move.effect.apply system.shared).peers peer = none := by
      simpa [hasPeer] using hkept
    rcases move.effect.removed_of_peers_none hentry hgone with htake | ⟨removed, hremove⟩
    · have := hstops _ (hstretch.shutdown_of_takePeers htake) nofun
      rw [hstopped] at this
      cases this
    · exact .inr ⟨_, List.mem_cons_self, .inr (.inl (hstretch.announces_of_remove hremove))⟩

theorem DesiredCovered.resume {index : Nat} {task : Task} {move : Move}
    (hcovered : DesiredCovered system) (hsupervised : Supervised system)
    (hkeeps : ∀ cursor ∈ task.polls, system.shared.events.lagging cursor = false)
    (hreconnect : system.shared.config.reconnect = true)
    (hstops : task.StopsFirst system.shared)
    (htask : system.tasks[index]? = some task) (hstretch : Stretch system.shared task move) :
    DesiredCovered (system.after index (move.outcome system.shared)) := by
  intro hrunning peer hdesired
  have hstopped : system.shared.stopped = false :=
    Bool.eq_false_iff.mpr fun h => Bool.eq_false_iff.mp hrunning (move.effect.stopped_apply h)
  rcases hstretch.desired_of_desired hdesired with hbefore | hpursues
  swap
  · exact .inr (held_after htask ⟨_, List.mem_cons_self, .inl hpursues⟩)
  rcases hcovered hstopped peer hbefore with hpeer | ⟨position, holder, hlookup, hcovers⟩
  · exact (DesiredCovered.of_hasPeer hstretch hstopped hstops hpeer).imp_right
      (held_after htask)
  by_cases heq : position = index
  swap
  · exact .inr ⟨position, holder, lookup_other heq hlookup, hcovers.apply move.effect⟩
  subst heq
  obtain rfl : holder = task := Option.some.inj (hlookup.symm.trans htask)
  rcases hcovers with hpursues | hannounces | hattends
  · rcases hstretch.pursues hreconnect hpursues hdesired with hpeer | ⟨other, hmem, hother⟩
    · exact .inl hpeer
    · exact .inr (held_after htask ⟨other, hmem, .inl hother⟩)
  · -- the event goes to the supervisor, which is another task
    obtain ⟨removed, heffect⟩ := hstretch.announces hannounces
    obtain ⟨place, supervisor, hsupervisor, hsupervises⟩ := hsupervised
    have hne : place ≠ position := by
      rintro rfl
      obtain rfl := Option.some.inj (hsupervisor.symm.trans htask)
      cases supervisor with
      | reconnectSupervisor => cases hannounces
      | _ => cases hsupervises
    refine .inr ⟨place, supervisor, lookup_other hne hsupervisor, .inr (.inr ?_)⟩
    change supervisor.Attends (move.effect.apply system.shared) peer
    rw [heffect]
    exact attends_of_emit removed hsupervises
  · obtain ⟨other, hmem, hother⟩ := hstretch.attends hreconnect hkeeps hattends hbefore
    exact .inr (held_after htask ⟨other, hmem, hother.imp_right .inr⟩)

theorem desiredCovered_of_reachable (hreconnect : config.reconnect = true)
    (hreach : Machine.ReachableWhere (step externals) KeepsUp (start localId config inboxes)
      system) : DesiredCovered system := by
  refine hreach.invariant_of_reachable ?_ ?_
  · exact fun _ peer hdesired => absurd hdesired (Finset.notMem_empty peer)
  · intro state action next hbefore hcovered hkeeps hstep
    obtain ⟨task, rfl, -, rfl⟩ | ⟨index, input, task, move, rfl, htask, hstretch, rfl⟩ :=
      step_cases hstep
    · exact fun hstopped peer hdesired => (hcovered hstopped peer hdesired).imp_right held_call
    · obtain ⟨hconfig, hstops⟩ := stopsFirst_of_reachable hbefore
      exact hcovered.resume (supervised_of_reachable hbefore) (hkeeps _ htask)
        (hconfig ▸ hreconnect) (hstops task (List.mem_of_getElem? htask)) htask hstretch

/-- Before `shutdown`, in a run without lag and with reconnection on, every desired peer is connected, or is being dialed, or its disconnect has still to be processed. -/
theorem no_desired_peer_abandoned (hreconnect : config.reconnect = true)
    (hreach : Machine.ReachableWhere (step externals) KeepsUp (start localId config inboxes)
      system)
    (hstopped : system.shared.stopped = false) :
    ∀ peer ∈ system.shared.desired, system.shared.hasPeer peer = true ∨
      ∃ task ∈ system.tasks, task.pursues = some peer ∨ task.announces = some peer ∨
        task.Attends system.shared peer := by
  intro peer hdesired
  refine (desiredCovered_of_reachable hreconnect hreach hstopped peer hdesired).imp_right ?_
  rintro ⟨position, task, hlookup, hcovers⟩
  exact ⟨task, List.mem_of_getElem? hlookup, hcovers⟩

theorem no_desired_peer_abandoned_lost :
    ∃ system, Machine.ReachableWhere (step Fixed.externals) KeepsUp Fixed.start system ∧
      system.shared.hasPeer Fixed.peer = false ∧
      ∃ task ∈ system.tasks, task.pursues = some Fixed.peer ∨
        task.announces = some Fixed.peer ∨ task.Attends system.shared Fixed.peer := by
  have hrun : (Machine.runWhere (step Fixed.externals) KeepsUp Fixed.start
      (Fixed.dialed ++ [.resume 3 (.read .eof), .resume 3 .go, .resume 3 .go])).map
        (fun system => (system.shared.stopped, system.shared.hasPeer Fixed.peer,
          system.shared.desired)) = some (false, false, {Fixed.peer}) := by
    decide +kernel
  obtain ⟨system, hreach, hobserved⟩ := Machine.exists_reachableWhere hrun
  simp only [Prod.mk.injEq] at hobserved
  obtain ⟨hstopped, hpeer, hdesired⟩ := hobserved
  refine ⟨system, hreach, hpeer, ?_⟩
  refine (no_desired_peer_abandoned rfl hreach hstopped Fixed.peer ?_).resolve_left ?_
  · simp [hdesired]
  · simp [hpeer]

end Transport

def Dialer.failed : Dialer → Nat
  | .connect => 0
  | .reconnectLoop attempts => attempts

/-- The failed dials of a reconnect loop; the last one it may still have to count. -/
def Task.failures : Task → Option Nat
  | .dial (.reconnectLoop attempts) _ _ | .dialed (.reconnectLoop attempts) _ true => some attempts
  | .dialed (.reconnectLoop attempts) _ false => some (attempts + 1)
  | .reconnectLoop _ attempts _ => some attempts
  | _ => none

def Task.dialFailed : Task → Bool
  | .dialed (.reconnectLoop _) _ false => true
  | _ => false

section Attempts

variable {externals : Externals} {transport : Transport} {input : Input} {move : Move}

theorem Stretch.failures {task : Task} (hstretch : Stretch transport task move) :
    ∀ count ∈ move.task.failures, ∃ before ∈ task.failures,
      count = before + move.task.dialFailed.toNat := by
  cases hstretch with
  | other hbefore hafter hquiet hspawned =>
      intro count hcount
      cases hother : move.task <;> simp_all [Task.bystander, Task.failures]
  | @present caller | @dialFailed caller | @yield caller | @handOver caller | @absent caller
  | @desire caller | @connected caller | @dialRegister caller | @introduce caller =>
      cases caller <;> simp [Task.failures, Task.dialFailed]
  | _ => simp [Task.failures, Task.dialFailed]

theorem Stretch.failures_spawned {task : Task} (hstretch : Stretch transport task move) :
    ∀ holder ∈ move.spawned, ∀ count ∈ holder.failures, count = 0 := by
  cases hstretch with
  | other hbefore hafter hquiet hspawned => simp [hspawned]
  | _ => simp [Task.failures]

end Attempts

namespace Transport

/-- The failed dials of the reconnect loop at `index`, one step at a time. -/
def failedDials (externals : Externals) (index : Nat) (system : System) : Action → Nat
  | .call _ => 0
  | .resume position input =>
      if position = index then
        ((step externals system (.resume position input)).bind (·.tasks[index]?)).elim 0
          (·.dialFailed.toNat)
      else 0

/-- The counter of the loop at `index` and the log of its dials say the same; the tasks to come have failed no dial. -/
def Logged (index sum : Nat) (system : System) : Prop :=
  (∀ task, system.tasks[index]? = some task → ∀ count ∈ task.failures, count = sum) ∧
    (system.tasks.length ≤ index → sum = 0)

theorem Logged.step {externals : Externals} {index sum : Nat} {system next : System}
    {action : Action} (hlogged : Logged index sum system)
    (hstep : step externals system action = some next) :
    Logged index (sum + failedDials externals index system action) next := by
  obtain ⟨hcount, hnone⟩ := hlogged
  have hstep' := hstep
  rcases step_cases hstep with
    ⟨task, rfl, hentry, rfl⟩ | ⟨position, input, task, move, rfl, htask, hstretch, rfl⟩
  · refine ⟨fun other hlookup count hfailures => ?_, fun hlength => hnone ?_⟩
    · rcases lookup_of_call hlookup with hold | rfl
      · exact hcount other hold count hfailures
      · cases Task.entry_cases hentry <;> cases hfailures
    · rw [State.call, List.length_append] at hlength
      exact Nat.le_of_add_right_le hlength
  have hlt : position < system.tasks.length := (List.getElem?_eq_some_iff.mp htask).1
  refine ⟨fun other hlookup count hfailures => ?_, fun hlength => ?_⟩
  · rcases lookup_after hlookup with ⟨rfl, rfl⟩ | ⟨hne, hold⟩ | ⟨hlength, hspawned⟩
    · obtain ⟨before, hbefore, rfl⟩ := hstretch.failures count hfailures
      simp [failedDials, hstep', lookup_self htask, hcount task htask before hbefore, Move.outcome]
    · simpa [failedDials, Ne.symm hne] using hcount other hold count hfailures
    · have hne : position ≠ index := by omega
      obtain rfl := hstretch.failures_spawned other (List.mem_of_getElem? hspawned) count hfailures
      simpa [failedDials, hne] using (hnone hlength).symm
  · simp only [State.after, List.length_append, List.length_set] at hlength
    have hne : position ≠ index := by omega
    simpa [failedDials, hne] using hnone (by omega)

/-- The dial of `connect` is refused, and the first dial of the loop it starts runs into its deadline. -/
def Fixed.redialed : List Action :=
  [.call (.dial .connect Fixed.peer .checkingPeer), .resume 2 .go, .resume 2 .go,
    .resume 2 .refused, .resume 2 .go, .resume 3 .go, .resume 3 .go, .resume 3 .go,
    .resume 3 .timedOut, .resume 3 .go]

end Transport

end LapinBeam
