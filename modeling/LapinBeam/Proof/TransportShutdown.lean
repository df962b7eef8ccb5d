import LapinBeam.Proof.DesiredSet

/-!
# After shutdown

`shutdown` raises the stop flag, empties the desired set and takes the peers map. An inbound
handshake looks at the flag, but only before it waits for the lock of the map, and `dial` never
looks at it. What is under way when `shutdown` is called can still put entries in afterwards. When
nothing is put in once the flag is up, both stay empty.
-/

namespace LapinBeam

open TaskSystem

def Task.adds (transport : Transport) : Task → Input → Bool
  | .dial _ _ .desiring, .go => true
  | .dial _ peer (.registering _), .go => !transport.refuses peer true
  | .readLoop _ (.registering peer _), .go => !transport.refuses peer false
  | _, _ => false

section Step

variable {externals : Externals} {transport : Transport} {task : Task} {input : Input} {move : Move}

theorem peers_removePeer {other : NodeId} (peer : NodeId) (removed : PeerHandle)
    (hnone : transport.peers other = none) :
    ((Effect.removePeer peer removed).apply transport).peers other = none := by
  by_cases hother : other = peer <;> simp [Effect.apply, hother, hnone]

theorem Task.adds_cases (hmove : task.move externals transport input = some move) :
    (transport.stopped = true → (move.effect.apply transport).stopped = true) ∧
    (task.adds transport input = true ∨
      (∀ peer, transport.peers peer = none → (move.effect.apply transport).peers peer = none) ∧
        (move.effect.apply transport).desired ⊆ transport.desired) := by
  cases Task.stretch_of_move hmove with
  | other _ _ hquiet | introduce _ _ hquiet | routeOn hquiet | routed hquiet =>
      have hsame := Effect.undisturbed hquiet transport
      rw [hsame.stopped, hsame.peers, hsame.desired]
      exact ⟨id, .inr ⟨fun _ => id, Finset.Subset.refl _⟩⟩
  | @desire caller peer =>
      have hgo : input = .go := by
        cases caller <;> cases input <;> first | rfl | simp [Task.move, Dial.move] at hmove
      exact ⟨id, .inl (hgo ▸ rfl)⟩
  | @dialRegister caller peer conn hadmits =>
      have hgo : input = .go := by
        cases caller <;> cases input <;> first | rfl | simp [Task.move, Dial.move] at hmove
      exact ⟨id, .inl (by simp [hgo, Task.adds, hadmits])⟩
  | register hadmits =>
      have hgo : input = .go := by
        cases input <;> first | rfl | simp [Task.move, ReadLoop.move] at hmove
      exact ⟨id, .inl (by simp [hgo, Task.adds, hadmits])⟩
  | forgetEntry | evict => exact ⟨id, .inr ⟨fun _ => peers_removePeer _ _, Finset.Subset.refl _⟩⟩
  | abandon | forget => exact ⟨id, .inr ⟨fun _ => id, Finset.erase_subset _ _⟩⟩
  | clearDesired => exact ⟨id, .inr ⟨fun _ => id, Finset.empty_subset _⟩⟩
  | stop => exact ⟨fun _ => rfl, .inr ⟨fun _ => id, Finset.Subset.refl _⟩⟩
  | takePeers => exact ⟨id, .inr ⟨fun _ _ => rfl, Finset.Subset.refl _⟩⟩
  | _ => exact ⟨id, .inr ⟨fun _ => id, Finset.Subset.refl _⟩⟩

end Step

def Task.Emptied (transport : Transport) : Task → Prop
  | .shutdown .clearingDesired => transport.stopped = true
  | .shutdown .takingPeers => transport.stopped = true ∧ transport.desired = ∅
  | .shutdown .returned =>
      transport.stopped = true ∧ transport.desired = ∅ ∧ transport.peers = fun _ => none
  | _ => True

theorem Task.emptied_of_bystander {transport : Transport} {task : Task}
    (hbystander : task.bystander = true) : task.Emptied transport := by
  cases task <;> trivial

theorem Stretch.emptied {transport : Transport} {task : Task} {move : Move}
    (hstretch : Stretch transport task move) (hemptied : task.Emptied transport) :
    ∀ holder ∈ move.task :: move.spawned, holder.Emptied (move.effect.apply transport) := by
  cases hstretch with
  | other _ hafter _ hspawned =>
      simpa [hspawned] using Task.emptied_of_bystander hafter
  | stop => simp [Task.Emptied, Effect.apply]
  | clearDesired | takePeers => simpa [Task.Emptied, Effect.apply] using hemptied
  | _ => simp [Task.Emptied]

namespace Transport

variable {externals : Externals} {localId : NodeId} {config : TransportConfig}
  {inboxes : Mailbox → Inbox} {system next later : System} {action : Action}

/-- Peers are put into the desired set and the peers map only while the stop flag is down. -/
def addsRunning (system : System) : Action → Bool
  | .call _ => true
  | .resume index input =>
      !system.shared.stopped || !system.tasks[index]?.any fun task => task.adds system.shared input

theorem kept_of_stopped (hallowed : addsRunning system action = true)
    (hstep : step externals system action = some next) (hstopped : system.shared.stopped = true) :
    next.shared.stopped = true ∧
      (∀ peer, system.shared.peers peer = none → next.shared.peers peer = none) ∧
      next.shared.desired ⊆ system.shared.desired := by
  cases action with
  | call task =>
      obtain ⟨-, rfl⟩ := step_call_eq_some hstep
      exact ⟨hstopped, fun _ => id, Finset.Subset.refl _⟩
  | resume index input =>
      obtain ⟨task, out, htask, hout, rfl⟩ := step_resume_eq_some hstep
      obtain ⟨move, hmove, rfl⟩ := Option.map_eq_some_iff.mp hout
      obtain ⟨hflag, hadds | hkept⟩ := Task.adds_cases hmove
      · simp [addsRunning, hstopped, htask, hadds] at hallowed
      · exact ⟨hflag hstopped, hkept⟩

theorem emptied_step {task : Task} (hallowed : addsRunning system action = true)
    (hstep : step externals system action = some next)
    (hemptied : task.Emptied system.shared) : task.Emptied next.shared := by
  have hdesired (hkept : next.shared.desired ⊆ system.shared.desired)
      (hempty : system.shared.desired = ∅) : next.shared.desired = ∅ :=
    Finset.subset_empty.mp (hempty ▸ hkept)
  cases task with
  | shutdown stage =>
      cases stage with
      | stopping => trivial
      | clearingDesired => exact (kept_of_stopped hallowed hstep hemptied).1
      | takingPeers =>
          obtain ⟨hstopped, -, hkept⟩ := kept_of_stopped hallowed hstep hemptied.1
          exact ⟨hstopped, hdesired hkept hemptied.2⟩
      | returned =>
          obtain ⟨hstopped, hpeers, hkept⟩ := kept_of_stopped hallowed hstep hemptied.1
          exact ⟨hstopped, hdesired hkept hemptied.2.1,
            funext fun peer => hpeers peer (congrFun hemptied.2.2 peer)⟩
  | _ => trivial

def Emptied (system : System) : Prop := ∀ task ∈ system.tasks, task.Emptied system.shared

theorem emptied_of_reachable
    (hreach : Machine.ReachableWhere (step externals) (fun system action =>
      addsRunning system action = true) (start localId config inboxes) system) : Emptied system := by
  refine hreach.invariant ?_ fun system action next hemptied hallowed hstep => ?_
  · intro task hmem
    rcases List.mem_pair.mp hmem with rfl | rfl <;> trivial
  · have hold : ∀ task ∈ system.tasks, task.Emptied next.shared := fun task hmem =>
      emptied_step hallowed hstep (hemptied task hmem)
    obtain ⟨task, rfl, hentry, rfl⟩ | ⟨index, input, task, move, rfl, htask, hstretch, rfl⟩ :=
      step_cases hstep
    · intro holder hmem
      rcases mem_call hmem with hbefore | rfl
      · exact hold holder hbefore
      · cases Task.entry_cases hentry <;> trivial
    · intro holder hmem
      rcases mem_after hmem with ⟨position, -, hlookup⟩ | hnew
      · exact hold holder (List.mem_of_getElem? hlookup)
      · exact hstretch.emptied (hemptied task (List.mem_of_getElem? htask)) holder hnew

/-- Once `shutdown` has returned there are no peers and nobody is desired, for good. -/
theorem shutdown_is_final
    (hreach : Machine.ReachableWhere (step externals) (fun system action =>
      addsRunning system action = true) (start localId config inboxes) system)
    (hreturned : .shutdown .returned ∈ system.tasks)
    (hlater : Machine.ReachableWhere (step externals) (fun system action =>
      addsRunning system action = true) system later) :
    later.shared.peers = (fun _ => none) ∧ later.shared.desired = ∅ := by
  have hemptied : (Task.shutdown .returned).Emptied later.shared := by
    induction hlater with
    | start => exact emptied_of_reachable hreach _ hreturned
    | step action _ hallowed hstep ih => exact emptied_step hallowed hstep ih
  exact ⟨hemptied.2.2, hemptied.2.1⟩

def shutDown : List Action :=
  Fixed.dialed ++ [.call (.shutdown .stopping), .resume 5 .go, .resume 5 .go, .resume 5 .go]

theorem shutdown_is_final_dialed :
    ∃ system, Machine.ReachableWhere (step Fixed.externals) (fun system action =>
        addsRunning system action = true) Fixed.start system ∧
      .shutdown .returned ∈ system.tasks ∧
      ∀ later, Machine.ReachableWhere (step Fixed.externals) (fun system action =>
        addsRunning system action = true) system later →
        later.shared.peers = (fun _ => none) ∧ later.shared.desired = ∅ := by
  have hrun : (Machine.runWhere (step Fixed.externals) (fun system action =>
      addsRunning system action = true) Fixed.start shutDown).map (fun system => system.tasks[5]?) =
        some (some (.shutdown .returned)) := by
    decide +kernel
  obtain ⟨system, hreach, htask⟩ := Machine.exists_reachableWhere hrun
  have hreturned := List.mem_of_getElem? htask
  exact ⟨system, hreach, hreturned, fun later => shutdown_is_final hreach hreturned⟩

def shutDownDialing : List Action :=
  [.call (.dial .connect Fixed.peer .checkingPeer), .resume 2 .go,
    .call (.shutdown .stopping), .resume 3 .go, .resume 3 .go, .resume 3 .go]

def dialOn : List Action := [.resume 2 .go, .resume 2 (.connected 1), .resume 2 .go]

def isResume : Action → Bool
  | .resume _ _ => true
  | .call _ => false

/-- `shutdown` has returned and nothing else is called, but the dial goes on. -/
theorem shutdown_resurrected :
    ∃ system later, Machine.Reachable (step Fixed.externals) Fixed.start system ∧
      .shutdown .returned ∈ system.tasks ∧
      Machine.ReachableWhere (step Fixed.externals) (fun _ action => isResume action = true)
        system later ∧
      later.shared.peers Fixed.peer = some ⟨Fixed.peer, 1⟩ ∧ Fixed.peer ∈ later.shared.desired := by
  have hrun : ((Machine.runWhere (step Fixed.externals) (fun _ _ => True) Fixed.start
      shutDownDialing).map fun system => (system.tasks[3]?,
        (Machine.runWhere (step Fixed.externals) (fun _ action => isResume action = true) system
          dialOn).map fun later => (later.shared.peers Fixed.peer, later.shared.desired))) =
      some (some (.shutdown .returned), some (some ⟨Fixed.peer, 1⟩, {Fixed.peer})) := by
    decide +kernel
  obtain ⟨system, hreach, hobserved⟩ := Machine.exists_reachableWhere hrun
  obtain ⟨htask, hlater⟩ := Prod.mk.inj hobserved
  obtain ⟨later, hlater, hobserved⟩ := Machine.exists_reachableWhere hlater
  obtain ⟨hpeers, hdesired⟩ := Prod.mk.inj hobserved
  exact ⟨system, later, hreach, List.mem_of_getElem? htask, hlater, hpeers, by simp [hdesired]⟩

end Transport

end LapinBeam
