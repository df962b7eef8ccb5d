import LapinBeam.Actor.Requests
import LapinBeam.Proof.Generations
import LapinBeam.Proof.PeerSpelling
import LapinBeam.Proof.Serializers

/-!
# Failed links and monitors

A request to another node is recorded before it is sent, and what is recorded stays when the send
raises. So a call that fails has no effect only if it did not get that far, or if there was nothing
to add; otherwise the caller is told, or killed, when that peer disconnects.
-/

namespace LapinBeam.Actor

open LapinBeam.Convert (Obj)

structure Core.Accepts (core : Core) (peerId : String) (payload : Obj) : Prop where
  running : core.running = true
  queued : ∃ peer, NodeId.parse peerId = .ok peer ∧ core.enqueue peer = .ok ()
  fits : ∃ bytes, Convert.pyToJsonBytes core.serde payload = .ok bytes ∧
    bytes.length ≤ maxFrameSize

def Harmless {α : Type} (runtime : Runtime) (call : Except Exc α × Runtime) : Prop :=
  ∀ exc, call.1 = .error exc → call.2.signals = runtime.signals

/-- A call that raises changes nothing about whom the loss of a peer is told to. -/
def Unheard {α : Type} (runtime : Runtime) (call : Except Exc α × Runtime) : Prop :=
  ∀ exc, call.1 = .error exc → ∀ peer, call.2.signals.lost peer = runtime.signals.lost peer

theorem Harmless.unheard {α : Type} {runtime : Runtime} {call : Except Exc α × Runtime}
    (hharmless : Harmless runtime call) : Unheard runtime call := by
  intro exc hraised peer
  rw [hharmless exc hraised]

section Sends

variable {core : Core} {runtime : Runtime} {peerId : String} {payload : Obj}

theorem Core.sendData_ok_iff : core.sendData peerId payload = .ok () ↔
    core.Accepts peerId payload := by
  constructor
  · intro hsent
    simp only [sendData] at hsent
    split at hsent
    · cases hsent
    rename_i peer hpeer
    split at hsent
    · cases hsent
    rename_i bytes hbytes
    split at hsent
    · cases hsent
    rename_i hrunning
    split at hsent
    · cases hsent
    rename_i henqueued
    split at henqueued
    · cases henqueued
    rename_i hfits
    exact ⟨by simpa using hrunning, ⟨peer, hpeer, henqueued⟩, bytes, hbytes, Nat.not_lt.mp hfits⟩
  · rintro ⟨hrunning, ⟨peer, hpeer, hqueued⟩, bytes, hbytes, hfits⟩
    simp [sendData, hpeer, hbytes, hrunning, Nat.not_lt.mpr hfits, hqueued]

theorem Runtime.sendRemote_ok_iff : runtime.sendRemote core peerId payload = .ok () ↔
    runtime.started = true ∧ core.Accepts peerId payload := by
  unfold sendRemote
  split
  · simp_all
  · rw [Core.sendData_ok_iff]
    simp_all

theorem Runtime.sendRemote_cases (core : Core) (runtime : Runtime) (peerId : String)
    (payload : Obj) :
    (runtime.started = true ∧ core.Accepts peerId payload) ∧
        runtime.sendRemote core peerId payload = .ok () ∨
      ¬ (runtime.started = true ∧ core.Accepts peerId payload) ∧
        ∃ exc, runtime.sendRemote core peerId payload = .error exc := by
  rw [← sendRemote_ok_iff]
  cases runtime.sendRemote core peerId payload with
  | error exc => exact .inr ⟨by simp, exc, rfl⟩
  | ok => exact .inl ⟨rfl, rfl⟩

end Sends

section Requests

variable (core : Core) (runtime : Runtime) (me : Option String) (other : Address)

/-- A request to another node, if the call makes one, is sent, or is for a link that is there already. -/
def LinkTaken : Prop :=
  ∀ name peer, me = some name → other.node = some peer →
    (runtime.started = true ∧ core.Accepts peer (runtime.linkRequest name other.name)) ∨
      name ∈ runtime.signals.linkKeys ∧ other ∈ runtime.signals.links name

def MonitorTaken (refText : String) : Prop :=
  ∀ name peer, me = some name → other.node = some peer →
    runtime.started = true ∧ core.Accepts peer (runtime.monitorRequest name other.name refText)

variable {core runtime me other} {ref : Ref} {refText : String}

theorem addLink_of_linked {signals : Signals} {name : String} (hkey : name ∈ signals.linkKeys)
    (hlinked : other ∈ signals.links name) : signals.addLink name other = signals := by
  simp [Signals.addLink, hkey, List.insert_of_mem hlinked]

theorem harmless_tryLink (htaken : LinkTaken core runtime me other) :
    Harmless runtime (runtime.tryLink core me other) := by
  intro exc hraised
  cases me with
  | none => rfl
  | some name =>
      cases hnode : other.node with
      | none =>
          simp only [Runtime.tryLink, hnode] at hraised
          cases hraised
      | some peer =>
          rcases Runtime.sendRemote_cases core runtime peer (runtime.linkRequest name other.name) with
            ⟨-, hsent⟩ | ⟨hfails, failure, hsent⟩
          · simp only [Runtime.tryLink, hnode, hsent] at hraised
            cases hraised
          · obtain ⟨hkey, hlinked⟩ := (htaken name peer rfl hnode).resolve_left hfails
            simp only [Runtime.tryLink, hnode, hsent, addLink_of_linked hkey hlinked]

theorem linkTaken_of_unheard (hunheard : Unheard runtime (runtime.tryLink core me other)) :
    LinkTaken core runtime me other := by
  rintro name peer rfl hnode
  rcases Runtime.sendRemote_cases core runtime peer (runtime.linkRequest name other.name) with
    ⟨htaken, -⟩ | ⟨-, exc, hsent⟩
  · exact .inl htaken
  · right
    obtain ⟨node, target⟩ := other
    obtain rfl : node = some peer := hnode
    have hlost := hunheard exc (by simp only [Runtime.tryLink, hsent]) peer
    simp only [Runtime.tryLink, hsent] at hlost
    rw [← Signals.exit_mem_lost_iff, ← hlost, Signals.exit_mem_lost_iff]
    exact ⟨Signals.mem_linkKeys_addLink _ _, by simp [Signals.addLink]⟩

theorem harmless_tryMonitor (htaken : MonitorTaken core runtime me other refText) :
    Harmless runtime (runtime.tryMonitor core me other ref refText) := by
  intro exc hraised
  cases me with
  | none => rfl
  | some name =>
      cases hnode : other.node with
      | none =>
          simp only [Runtime.tryMonitor, hnode] at hraised
          cases hraised
      | some peer =>
          have hsent := Runtime.sendRemote_ok_iff.mpr (htaken name peer rfl hnode)
          simp only [Runtime.tryMonitor, hnode, hsent] at hraised
          cases hraised

theorem monitorTaken_of_unheard (hfresh : runtime.signals.monitors ref = none)
    (hunheard : Unheard runtime (runtime.tryMonitor core me other ref refText)) :
    MonitorTaken core runtime me other refText := by
  rintro name peer rfl hnode
  rcases Runtime.sendRemote_cases core runtime peer
    (runtime.monitorRequest name other.name refText) with ⟨htaken, -⟩ | ⟨-, exc, hsent⟩
  · exact htaken
  · obtain ⟨node, target⟩ := other
    obtain rfl : node = some peer := hnode
    have hlost := hunheard exc (by simp only [Runtime.tryMonitor, hsent]) peer
    simp only [Runtime.tryMonitor, hsent] at hlost
    have hdown : .down ref (peer ++ "/" ++ target) "noconnection" ∈
        (runtime.signals.addMonitor ref ⟨name, some peer, target⟩).lost peer :=
      Signals.down_mem_lost_addMonitor_iff.mpr rfl
    rw [hlost, Signals.down_mem_lost_iff, hfresh] at hdown
    obtain ⟨-, watcher, hnone⟩ := hdown
    cases hnone

/-- **A failed link or monitor changes nothing exactly if its request is taken, or there was nothing to add**, in the tables and in what the loss of any peer leads to. -/
theorem failed_requests_harmless_iff (hfresh : runtime.signals.monitors ref = none) :
    (Harmless runtime (runtime.tryLink core me other) ↔ LinkTaken core runtime me other) ∧
    (Unheard runtime (runtime.tryLink core me other) ↔ LinkTaken core runtime me other) ∧
    (Harmless runtime (runtime.tryMonitor core me other ref refText) ↔
      MonitorTaken core runtime me other refText) ∧
    (Unheard runtime (runtime.tryMonitor core me other ref refText) ↔
      MonitorTaken core runtime me other refText) := by
  refine ⟨⟨fun hharmless => ?_, harmless_tryLink⟩,
    ⟨linkTaken_of_unheard, fun htaken => (harmless_tryLink htaken).unheard⟩,
    ⟨fun hharmless => ?_, harmless_tryMonitor⟩,
    ⟨monitorTaken_of_unheard hfresh, fun htaken => (harmless_tryMonitor htaken).unheard⟩⟩
  · exact linkTaken_of_unheard hharmless.unheard
  · exact monitorTaken_of_unheard hfresh hharmless.unheard

end Requests

namespace Fixed

def lonely : Core := ⟨Convert.Fixed.serde, true, fun _ => .error .peerNotFound⟩

def remote : Address := ⟨some "b@h:2", "other"⟩

/-- A node whose actor has linked to one on the peer while that was connected. -/
def partnered : Runtime :=
  { Runtime.start "a@h:1" none with signals := ({} : Signals).addLink "worker" remote }

def handling : List Action :=
  [ask (.newSupervisor {}), ask (.spawn 0 "worker")] ++ launch 1 2 ++ busy "worker" 2

/-- The actor links, which fails, and goes on; then the peer disconnects, and the task that is created for the link runs. -/
def afterFailedLink (system : System) : Option System :=
  Machine.run step ⟨(system.shared.tryLink lonely (some "worker") remote).2, system.tasks⟩
    [ask (.disconnected "b@h:2"), go 3]

end Fixed

theorem failed_requests_harmless_iff_linked :
    (Fixed.partnered.tryLink Fixed.lonely (some "worker") Fixed.remote).1 =
        .error ⟨"ValueError", "send failed: peer not connected"⟩ ∧
      Harmless Fixed.partnered (Fixed.partnered.tryLink Fixed.lonely (some "worker") Fixed.remote) ∧
      ¬ Unheard Fixed.partnered
        (Fixed.partnered.tryMonitor Fixed.lonely (some "worker") Fixed.remote 0 "0") := by
  have hiff := @failed_requests_harmless_iff Fixed.lonely Fixed.partnered (some "worker")
    Fixed.remote 0 "0" rfl
  refine ⟨by decide +kernel, hiff.1.mpr ?_, fun hunheard => ?_⟩
  · rintro _ _ ⟨⟩ ⟨⟩
    exact .inr ⟨Signals.mem_linkKeys_addLink _ _, by simp [Fixed.partnered, Signals.addLink]⟩
  · obtain ⟨-, haccepts⟩ := hiff.2.2.2.mp hunheard "worker" "b@h:2" rfl rfl
    obtain ⟨_, -, hqueued⟩ := haccepts.queued
    cases hqueued

/-- `link` raises, and the actor is killed for the link when the peer disconnects. -/
theorem failed_link_kills :
    ∃ system after, Machine.Reachable step (start "a@h:1" none) system ∧
      (system.shared.tryLink Fixed.lonely (some "worker") Fixed.remote).1 =
        .error ⟨"ValueError", "send failed: peer not connected"⟩ ∧
      Fixed.afterFailedLink system = some after ∧
      (after.shared.children 0).pendingExit =
        some ⟨"RuntimeError", "linked actor 'b@h:2/other' exited: noconnection"⟩ := by
  have hrun : (Machine.runWhere step (fun _ _ => True) (start "a@h:1" none) Fixed.handling).map
      (fun system => ((system.shared.tryLink Fixed.lonely (some "worker") Fixed.remote).1,
        (Fixed.afterFailedLink system).map fun after => (after.shared.children 0).pendingExit)) =
      some (.error ⟨"ValueError", "send failed: peer not connected"⟩,
        some (some ⟨"RuntimeError", "linked actor 'b@h:2/other' exited: noconnection"⟩)) := by
    decide +kernel
  obtain ⟨system, hreach, hobserved⟩ := Machine.exists_reachableWhere hrun
  obtain ⟨hraised, hkilled⟩ := Prod.mk.inj hobserved
  obtain ⟨after, hafter, hpending⟩ := Option.map_eq_some_iff.mp hkilled
  exact ⟨system, after, hreach, hraised, hafter, hpending⟩

end LapinBeam.Actor
