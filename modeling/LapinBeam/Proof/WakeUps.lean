import LapinBeam.Proof.EventTruth
import LapinBeam.Proof.ReconnectSupervisor
import LapinBeam.Py.Connecting

/-!
# No wake-up is missed

A call that waits has looked for its peer after it registered its future. If the peer was not in the
map then and is in it now, some task has inserted it since; that task owes the `PeerConnected` event
until it has sent it, and an event that is sent is read, queued and delivered, in this order. When
it is delivered, the future is still registered and gets its result.
-/

namespace LapinBeam

open TaskSystem

section Core

variable {externals : Externals} {system later : Transport.System} {action : Transport.Action}
  {peer : NodeId} {cursor : Nat}

def Transport.Announces (peer : NodeId) (cursor : Nat) (system : Transport.System) : Prop :=
  (∃ task ∈ system.tasks, task.unsent = some (.peerConnected peer)) ∨
    ∃ emission ∈ system.shared.events.unread cursor, emission.event = .peerConnected peer

theorem Effect.unread_subset (effect : Effect) (transport : Transport) (cursor : Nat) :
    transport.events.unread cursor ⊆ (effect.apply transport).events.unread cursor := by
  cases effect with
  | emit event removed =>
      simp only [Effect.apply, Broadcast.Channel.unread, Broadcast.Channel.log_send,
        List.drop_append]
      exact List.subset_append_left _ _
  | _ => exact List.Subset.refl _

theorem Effect.mem_unread_of_tells {effect : Effect} {transport : Transport} {event : Event}
    (htells : effect.tells = some event) (hcursor : cursor ≤ transport.events.log.length) :
    ∃ emission ∈ (effect.apply transport).events.unread cursor, emission.event = event := by
  cases effect with
  | emit sent removed =>
      refine ⟨⟨sent, removed⟩, ?_, ?_⟩
      · rw [Effect.apply, Broadcast.Channel.unread_send _ hcursor]
        simp
      · cases sent <;> simp_all [Effect.tells]
  | _ => cases htells

namespace Transport

theorem announces_of_owed {task : Task} {move : Move} (hbooked : Booked task move)
    (hcursor : cursor ≤ system.shared.events.log.length)
    (hunsent : task.unsent = some (.peerConnected peer)) :
    move.task.unsent = some (.peerConnected peer) ∨
      ∃ emission ∈ (move.effect.apply system.shared).events.unread cursor,
        emission.event = .peerConnected peer := by
  cases hchange : move.effect.callsFor with
  | some event => simp [(hbooked.changes event hchange).1] at hunsent
  | none =>
      cases htells : move.effect.tells with
      | some event =>
          have howed := (hbooked.tells event htells).1
          rw [hunsent, Option.some.injEq] at howed
          exact .inr (howed ▸ Effect.mem_unread_of_tells htells hcursor)
      | none => exact .inl ((hbooked.keeps hchange htells).trans hunsent)

theorem Announces.next (hannounces : Announces peer cursor system)
    (hcursor : cursor ≤ system.shared.events.log.length)
    (hstep : step externals system action = some later) : Announces peer cursor later := by
  cases action with
  | call task =>
      obtain ⟨-, rfl⟩ := step_call_eq_some hstep
      rcases hannounces with ⟨holder, hmem, hunsent⟩ | hunread
      · exact .inl ⟨holder, List.mem_append_left _ hmem, hunsent⟩
      · exact .inr hunread
  | resume index input =>
      obtain ⟨task, out, htask, hout, rfl⟩ := step_resume_eq_some hstep
      obtain ⟨move, hmove, rfl⟩ := Option.map_eq_some_iff.mp hout
      rcases hannounces with ⟨holder, hmem, hunsent⟩ | ⟨emission, hmem, hevent⟩
      · obtain ⟨position, hholder⟩ := List.mem_iff_getElem?.mp hmem
        by_cases hposition : position = index
        · subst hposition
          obtain rfl := Option.some.inj (hholder.symm.trans htask)
          refine (announces_of_owed (Task.booked_of_move hmove) hcursor hunsent).imp_left ?_
          exact fun howed => ⟨_, List.mem_of_getElem? (lookup_self htask), howed⟩
        · exact .inl ⟨holder, List.mem_of_getElem? (lookup_other hposition hholder), hunsent⟩
      · exact .inr ⟨emission, Effect.unread_subset _ _ _ hmem, hevent⟩

theorem announces_of_hasPeer (hstep : step externals system action = some later)
    (hbefore : system.shared.hasPeer peer = false) (hafter : later.shared.hasPeer peer = true) :
    Announces peer cursor later := by
  cases action with
  | call task =>
      obtain ⟨-, rfl⟩ := step_call_eq_some hstep
      exact absurd hafter (Bool.eq_false_iff.mp hbefore)
  | resume index input =>
      obtain ⟨task, out, htask, hout, rfl⟩ := step_resume_eq_some hstep
      obtain ⟨move, hmove, rfl⟩ := Option.map_eq_some_iff.mp hout
      have hmoved : (move.effect.apply system.shared).hasPeer peer = true := hafter
      cases hchange : move.effect.callsFor with
      | some event =>
          have hconnected : event = .peerConnected peer := by
            rw [hasPeer_of_callsFor hchange] at hmoved
            split at hmoved
            · exact of_decide_eq_true hmoved
            · exact absurd hmoved (Bool.eq_false_iff.mp hbefore)
          obtain ⟨-, howed⟩ := (Task.booked_of_move hmove).changes event hchange
          exact .inl ⟨_, List.mem_of_getElem? (lookup_self htask), hconnected ▸ howed⟩
      | none =>
          by_cases htake : move.effect = .takePeers
          · rw [htake] at hmoved
            cases hmoved
          · rw [hasPeer, peers_of_silent hchange htake] at hmoved
            exact absurd hmoved (Bool.eq_false_iff.mp hbefore)

theorem length_log_le_of_step (hstep : step externals system action = some later) :
    system.shared.events.log.length ≤ later.shared.events.log.length := by
  rcases step_cases hstep with ⟨task, -, -, rfl⟩ | ⟨index, input, task, move, -, -, -, rfl⟩
  · exact Nat.le_refl _
  · exact move.effect.length_log_le system.shared

end Transport

end Core

namespace Connecting

def Stage.awaits : Stage → Bool
  | .rechecking | .waiting => true
  | _ => false

def Stage.listed : Stage → Bool
  | .cleaning _ => true
  | stage => stage.awaits

theorem Stage.listed_of_awaits {stage : Stage} (hawaits : stage.awaits = true) :
    stage.listed = true := by
  cases stage <;> first | rfl | cases hawaits

namespace State

def Announces (state : State) (peer : NodeId) : Prop :=
  Transport.Announces peer state.cursor state.core ∨ .peerConnected peer ∈ state.ready

/-- The ids given are canonical, and the drain loop does not lag. -/
def ordinary (state : State) : Action → Bool
  | .connectPeer peerId => (NodeId.parse peerId).toOption.all (·.toFull == peerId)
  | .drain => !state.core.shared.events.lagging state.cursor
  | _ => true

end State

structure Listed (state : State) : Prop where
  nonempty : ∀ peerId, state.waiters peerId ≠ some []
  nodup : ∀ peerId, (state.waitersOf peerId).Nodup
  owner : ∀ peerId id, id ∈ state.waitersOf peerId →
    ∃ call, state.calls[id]? = some call ∧ call.peerId = peerId ∧ call.stage.listed = true
  kept : ∀ id call, state.calls[id]? = some call → call.stage.awaits = true →
    state.futures id = .pending → id ∈ state.waitersOf call.peerId

structure Woken (state : State) : Prop where
  cursor : state.cursor ≤ state.core.shared.events.log.length
  canonical : ∀ call ∈ state.calls, call.peer.toFull = call.peerId
  announced : ∀ id call, state.calls[id]? = some call → call.stage = .waiting →
    state.futures id = .pending → state.core.shared.hasPeer call.peer = true →
    state.Announces call.peer

inductive Advance (state : State) (index : Nat) (call : Call) : State → Stage → Prop
  | look {stage} (hbefore : call.stage = .checking) (hafter : stage.listed = false) :
      Advance state index call state stage
  | register (hbefore : call.stage = .registering) :
      Advance state index call (state.register index call.peerId) .rechecking
  | wait (hbefore : call.stage = .rechecking)
      (hpeer : state.core.shared.hasPeer call.peer = false) :
      Advance state index call state .waiting
  | leave (hbefore : call.stage.awaits = true) (outcome : Outcome) :
      Advance state index call state (.cleaning outcome)
  | abandon (hbefore : call.stage = .waiting) (outcome : Outcome) :
      Advance state index call (state.abandon index) (.cleaning outcome)
  | cleanup {outcome} (hbefore : call.stage = .cleaning outcome) :
      Advance state index call (state.cleanup index call.peerId) (.ended outcome)

section Calls

variable {externals : Externals} {state next changed : State} {index id : Nat} {call other : Call}
  {stage : Stage}

theorem advance_cases {wake : Wake}
    (hadvance : state.advance index call call.stage wake = some next) :
    ∃ changed stage, Advance state index call changed stage ∧
      next = changed.setStage index call stage := by
  generalize hbefore : call.stage = before at hadvance
  revert hadvance
  fun_cases State.advance <;> intro hadvance <;> cases hadvance
  case case1 | case2 | case3 => exact ⟨_, _, .look hbefore rfl, rfl⟩
  case case4 => exact ⟨_, _, .register hbefore, rfl⟩
  case case5 | case6 => exact ⟨_, _, .leave (by rw [hbefore]; rfl) _, rfl⟩
  case case7 hpeer => exact ⟨_, _, .wait hbefore (by simpa using hpeer), rfl⟩
  case case9 | case10 | case11 => exact ⟨_, _, .leave (by rw [hbefore]; rfl) _, rfl⟩
  case case12 | case13 => exact ⟨_, _, .abandon hbefore _, rfl⟩
  case case14 => exact ⟨_, _, .cleanup hbefore, rfl⟩

theorem lookup_set (hlookup : (state.calls.set index { call with stage })[id]? = some other) :
    (id = index ∧ other = { call with stage }) ∨ (id ≠ index ∧ state.calls[id]? = some other) := by
  rw [List.getElem?_set] at hlookup
  split at hlookup
  · rename_i heq
    split at hlookup
    · exact .inl ⟨heq.symm, (Option.some.inj hlookup).symm⟩
    · cases hlookup
  · rename_i hne
    exact .inr ⟨Ne.symm hne, hlookup⟩

section

variable (hlisted : Listed state) (hcall : state.calls[index]? = some call)

include hlisted hcall

theorem Listed.moved (hcalls : changed.calls = state.calls)
    (hnonempty : ∀ peerId, changed.waiters peerId ≠ some [])
    (hnodup : ∀ peerId, (changed.waitersOf peerId).Nodup) (hothers : ∀ peerId id, id ≠ index →
      (id ∈ changed.waitersOf peerId ↔ id ∈ state.waitersOf peerId))
    (hfutures : ∀ id, id ≠ index → changed.futures id = state.futures id)
    (hself : ∀ peerId, index ∈ changed.waitersOf peerId →
      call.peerId = peerId ∧ stage.listed = true)
    (hkept : stage.awaits = true → changed.futures index = .pending →
      index ∈ changed.waitersOf call.peerId) : Listed (changed.setStage index call stage) where
  nonempty := hnonempty
  nodup := hnodup
  owner := by
    intro peerId id hmem
    have hlt : index < state.calls.length := (List.getElem?_eq_some_iff.mp hcall).1
    simp only [State.setStage, hcalls]
    by_cases hid : id = index
    · subst hid
      exact ⟨_, List.getElem?_set_self hlt, hself peerId hmem⟩
    · obtain ⟨other, hother, howner⟩ := hlisted.owner peerId id ((hothers peerId id hid).mp hmem)
      exact ⟨other, (List.getElem?_set_ne (Ne.symm hid)).trans hother, howner⟩
  kept := by
    intro id other hother hawaits hpending
    simp only [State.setStage, hcalls] at hother
    rcases lookup_set hother with ⟨rfl, rfl⟩ | ⟨hne, hold⟩
    · exact hkept hawaits hpending
    · exact (hothers _ id hne).mpr
        (hlisted.kept id other hold hawaits ((hfutures id hne).symm.trans hpending))

theorem Listed.setStage (hstays : call.stage.listed = true → stage.listed = true)
    (hawaits : stage.awaits = true → call.stage.awaits = true) :
    Listed (state.setStage index call stage) := by
  refine hlisted.moved hcall rfl hlisted.nonempty hlisted.nodup (fun _ _ _ => Iff.rfl)
    (fun _ _ => rfl) ?_ fun hafter => hlisted.kept index call hcall (hawaits hafter)
  intro peerId hmem
  obtain ⟨owner, howner, hpeerId, hbefore⟩ := hlisted.owner peerId index hmem
  obtain rfl := Option.some.inj (hcall.symm.trans howner)
  exact ⟨hpeerId, hstays hbefore⟩

theorem Listed.notMem (hunlisted : call.stage.listed = false) (peerId : String) :
    index ∉ state.waitersOf peerId := by
  intro hmem
  obtain ⟨owner, howner, -, hbefore⟩ := hlisted.owner peerId index hmem
  obtain rfl := Option.some.inj (hcall.symm.trans howner)
  exact absurd hbefore (Bool.eq_false_iff.mp hunlisted)

end

theorem waitersOf_update (state : State) (peerId key : String) (list : Option (List Nat)) :
    { state with waiters := Function.update state.waiters peerId list }.waitersOf key =
      if key = peerId then list.getD [] else state.waitersOf key := by
  by_cases hkey : key = peerId <;> simp [State.waitersOf, hkey]

theorem waitersOf_register (state : State) (index : Nat) (peerId key : String) :
    (state.register index peerId).waitersOf key =
      if key = peerId then state.waitersOf peerId ++ [index] else state.waitersOf key :=
  waitersOf_update ..

theorem Listed.register (hlisted : Listed state) (hcall : state.calls[index]? = some call)
    (hbefore : call.stage = .registering) :
    Listed ((state.register index call.peerId).setStage index call .rechecking) := by
  have hnotMem := hlisted.notMem hcall (by rw [hbefore]; rfl)
  refine hlisted.moved hcall rfl ?_ ?_ ?_ (fun _ _ => rfl) ?_ ?_
  · intro peerId
    by_cases hkey : peerId = call.peerId
    · simp [State.register, hkey]
    · simpa [State.register, hkey] using hlisted.nonempty peerId
  · intro peerId
    rw [waitersOf_register]
    split
    · exact List.nodup_append.mpr ⟨hlisted.nodup call.peerId, List.nodup_singleton _, by grind⟩
    · exact hlisted.nodup peerId
  · intro peerId id hne
    rw [waitersOf_register]
    split
    · rename_i hkey
      simp [hkey, hne]
    · exact Iff.rfl
  · intro peerId hmem
    rw [waitersOf_register] at hmem
    split at hmem
    · rename_i hkey
      exact ⟨hkey.symm, rfl⟩
    · exact absurd hmem (hnotMem peerId)
  · intro _ _
    simp [waitersOf_register]

theorem waitersOf_cleanup (state : State) (index : Nat) (peerId key : String) :
    (state.cleanup index peerId).waitersOf key =
      if key = peerId then (state.waitersOf peerId).erase index else state.waitersOf key := by
  unfold State.cleanup
  split
  · rw [waitersOf_update]
    split
    · by_cases hrest : (state.waitersOf peerId).erase index = []
      · rw [if_pos hrest, hrest, Option.getD_none]
      · rw [if_neg hrest, Option.getD_some]
    · rfl
  · rename_i hnotMem
    split
    · rename_i hkey
      rw [hkey, List.erase_of_not_mem hnotMem]
    · rfl

theorem Listed.cleanup {outcome : Outcome} (hlisted : Listed state)
    (hcall : state.calls[index]? = some call) :
    Listed ((state.cleanup index call.peerId).setStage index call (.ended outcome)) := by
  have hgone : ∀ peerId, index ∉ (state.cleanup index call.peerId).waitersOf peerId := by
    intro peerId hmem
    rw [waitersOf_cleanup] at hmem
    split at hmem
    · exact (hlisted.nodup call.peerId).not_mem_erase hmem
    · rename_i hkey
      obtain ⟨owner, howner, hpeerId, -⟩ := hlisted.owner peerId index hmem
      obtain rfl := Option.some.inj (hcall.symm.trans howner)
      exact hkey hpeerId.symm
  have hsame : (state.cleanup index call.peerId).calls = state.calls ∧
      (state.cleanup index call.peerId).futures = state.futures := by
    unfold State.cleanup
    split <;> exact ⟨rfl, rfl⟩
  refine hlisted.moved hcall hsame.1 ?_ ?_ ?_ (fun id _ => congrFun hsame.2 id)
    (fun peerId hmem => absurd hmem (hgone peerId)) (fun hawaits => by cases hawaits)
  · intro peerId
    unfold State.cleanup
    split
    · by_cases hkey : peerId = call.peerId
      · subst hkey
        simp only [Function.update_self]
        split <;> simp_all
      · simpa [hkey] using hlisted.nonempty peerId
    · exact hlisted.nonempty peerId
  · intro peerId
    rw [waitersOf_cleanup]
    split
    · exact (hlisted.nodup call.peerId).erase index
    · exact hlisted.nodup peerId
  · intro peerId id hne
    rw [waitersOf_cleanup]
    split
    · rename_i hkey
      rw [List.mem_erase_of_ne hne, hkey]
    · exact Iff.rfl

theorem Listed.advance (hlisted : Listed state) (hcall : state.calls[index]? = some call)
    (hadvance : Advance state index call changed stage) :
    Listed (changed.setStage index call stage) := by
  cases hadvance with
  | look hbefore hafter =>
      refine hlisted.setStage hcall (fun hlisted => ?_) fun hawaits => ?_
      · rw [hbefore] at hlisted
        cases hlisted
      · exact absurd (Stage.listed_of_awaits hawaits) (Bool.eq_false_iff.mp hafter)
  | register hbefore => exact hlisted.register hcall hbefore
  | wait hbefore => exact hlisted.setStage hcall (fun _ => rfl) fun _ => by rw [hbefore]; rfl
  | leave => exact hlisted.setStage hcall (fun _ => rfl) fun hawaits => by cases hawaits
  | abandon hbefore =>
      refine hlisted.moved hcall rfl hlisted.nonempty hlisted.nodup (fun _ _ _ => Iff.rfl) ?_ ?_ ?_
      · intro id hne
        simp [State.abandon, hne]
      · intro peerId hmem
        obtain ⟨owner, howner, hpeerId, -⟩ := hlisted.owner peerId index hmem
        obtain rfl := Option.some.inj (hcall.symm.trans howner)
        exact ⟨hpeerId, rfl⟩
      · intro hawaits
        cases hawaits
  | cleanup => exact hlisted.cleanup hcall

theorem unchanged_of_advance (hadvance : Advance state index call changed stage) :
    changed.core = state.core ∧ changed.cursor = state.cursor ∧ changed.ready = state.ready ∧
      changed.calls = state.calls ∧
      ∀ id, changed.futures id = .pending → state.futures id = .pending := by
  cases hadvance with
  | abandon =>
      refine ⟨rfl, rfl, rfl, rfl, fun id hpending => ?_⟩
      simp only [State.abandon] at hpending
      split at hpending
      · cases hpending
      · exact hpending
  | cleanup =>
      unfold State.cleanup
      split <;> exact ⟨rfl, rfl, rfl, rfl, fun _ => id⟩
  | _ => exact ⟨rfl, rfl, rfl, rfl, fun _ => id⟩

theorem Woken.advance (hwoken : Woken state) (hcall : state.calls[index]? = some call)
    (hadvance : Advance state index call changed stage) :
    Woken (changed.setStage index call stage) := by
  obtain ⟨hcore, hcursor, hready, hcalls, hfutures⟩ := unchanged_of_advance hadvance
  have hlookup : ∀ {id : Nat} {other : Call},
      (changed.setStage index call stage).calls[id]? = some other →
      (id = index ∧ other = { call with stage }) ∨ (id ≠ index ∧ state.calls[id]? = some other) := by
    intro id other hother
    simp only [State.setStage, hcalls] at hother
    exact lookup_set hother
  refine ⟨?_, ?_, ?_⟩
  · simpa [State.setStage, hcore, hcursor] using hwoken.cursor
  · intro other hmem
    obtain ⟨id, hother⟩ := List.mem_iff_getElem?.mp hmem
    rcases hlookup hother with ⟨-, rfl⟩ | ⟨-, hold⟩
    · exact hwoken.canonical call (List.mem_of_getElem? hcall)
    · exact hwoken.canonical other (List.mem_of_getElem? hold)
  · intro id other hother hwaiting hpending hpeer
    have hpeer' : state.core.shared.hasPeer other.peer = true := by
      simpa [State.setStage, hcore] using hpeer
    have hannounced : state.Announces other.peer := by
      rcases hlookup hother with ⟨rfl, rfl⟩ | ⟨-, hold⟩
      · cases hadvance with
        | look hbefore hafter =>
            obtain rfl : stage = .waiting := hwaiting
            cases hafter
        | wait hbefore habsent => exact absurd hpeer' (Bool.eq_false_iff.mp habsent)
        | _ => cases hwaiting
      · exact hwoken.announced id other hold hwaiting (hfutures id hpending) hpeer'
    simpa [State.Announces, State.setStage, hcore, hcursor, hready] using hannounced

end Calls

section Node

variable {externals : Externals} {state later : State} {action : Action}

theorem step_cases (hstep : step externals state action = some later) :
    (∃ act core, action = .core act ∧ Transport.step externals state.core act = some core ∧
      later = { state with core }) ∨
    (∃ cursor, action = .drain ∧
      state.core.shared.events.recv state.cursor = .lagged cursor ∧
      later = { state with cursor }) ∨
    (∃ emission cursor, action = .drain ∧
      state.core.shared.events.recv state.cursor = .item emission cursor ∧
      later = { state with cursor, ready := state.ready ++ [emission.event] }) ∨
    (∃ event ready, state.ready = event :: ready ∧
      later = { state with ready }.onCoreEvent event) ∨
    (∃ peerId peer, action = .connectPeer peerId ∧ NodeId.parse peerId = .ok peer ∧
      later = { state with
        core := state.core.call (.dial .connect peer .checkingPeer)
        calls := state.calls ++ [⟨peerId, peer, .checking⟩] }) ∨
    (∃ index call changed stage, state.calls[index]? = some call ∧
      Advance state index call changed stage ∧ later = changed.setStage index call stage) ∨
    later = state.stop := by
  revert hstep
  fun_cases step <;> intro hstep
  case case1 act =>
      obtain ⟨core, hcore, rfl⟩ := Option.map_eq_some_iff.mp hstep
      exact .inl ⟨act, core, rfl, hcore, rfl⟩
  case case3 hrecv =>
      cases hstep
      exact .inr (.inl ⟨_, rfl, hrecv, rfl⟩)
  case case4 hrecv =>
      cases hstep
      exact .inr (.inr (.inl ⟨_, _, rfl, hrecv, rfl⟩))
  case case6 hready =>
      cases hstep
      exact .inr (.inr (.inr (.inl ⟨_, _, hready, rfl⟩)))
  case case8 hparse =>
      cases hstep
      exact .inr (.inr (.inr (.inr (.inl ⟨_, _, rfl, hparse, rfl⟩))))
  case case11 hcall =>
      obtain ⟨changed, stage, hadvance, rfl⟩ := advance_cases hstep
      exact .inr (.inr (.inr (.inr (.inr (.inl ⟨_, _, changed, stage, hcall, hadvance, rfl⟩)))))
  case case12 =>
      cases hstep
      exact .inr (.inr (.inr (.inr (.inr (.inr rfl)))))
  all_goals cases hstep

theorem Listed.onCoreEvent (hlisted : Listed state) (event : Event) :
    Listed (state.onCoreEvent event) := by
  cases event with
  | peerConnected peer =>
      refine ⟨hlisted.nonempty, hlisted.nodup, hlisted.owner, ?_⟩
      intro id call hcall hawaits hpending
      simp only [State.onCoreEvent] at hpending
      split at hpending
      · cases hpending
      · exact hlisted.kept id call hcall hawaits hpending
  | _ => exact hlisted

theorem Listed.call (hlisted : Listed state) (peerId : String) (peer : NodeId) :
    Listed { state with
      core := state.core.call (.dial .connect peer .checkingPeer)
      calls := state.calls ++ [⟨peerId, peer, .checking⟩] } := by
  refine ⟨hlisted.nonempty, hlisted.nodup, ?_, ?_⟩
  · intro key id hmem
    obtain ⟨call, hcall, howner⟩ := hlisted.owner key id hmem
    have hlt := (List.getElem?_eq_some_iff.mp hcall).1
    exact ⟨call, (List.getElem?_append_left hlt).trans hcall, howner⟩
  · intro id call hcall hawaits hpending
    rw [List.getElem?_append] at hcall
    split at hcall
    · exact hlisted.kept id call hcall hawaits hpending
    · obtain rfl := List.mem_singleton.mp (List.mem_of_getElem? hcall)
      cases hawaits

theorem pending_stop (hlisted : Listed state) {id : Nat} {call : Call}
    (hcall : state.calls[id]? = some call) (hawaits : call.stage.awaits = true) :
    state.stop.futures id ≠ .pending := by
  intro hpending
  simp only [State.stop] at hpending
  split at hpending
  · cases hpending
  · rename_i hnot
    refine hnot ⟨?_, hpending⟩
    simpa [State.registered, hcall] using hlisted.kept id call hcall hawaits hpending

theorem Listed.next (hlisted : Listed state) (hstep : step externals state action = some later) :
    Listed later := by
  rcases step_cases hstep with ⟨act, core, -, -, rfl⟩ | ⟨cursor, -, -, rfl⟩ |
    ⟨emission, cursor, -, -, rfl⟩ | ⟨event, ready, -, rfl⟩ | ⟨peerId, peer, -, -, rfl⟩ |
    ⟨index, call, changed, stage, hcall, hadvance, rfl⟩ | rfl
  · exact ⟨hlisted.nonempty, hlisted.nodup, hlisted.owner, hlisted.kept⟩
  · exact ⟨hlisted.nonempty, hlisted.nodup, hlisted.owner, hlisted.kept⟩
  · exact ⟨hlisted.nonempty, hlisted.nodup, hlisted.owner, hlisted.kept⟩
  · refine Listed.onCoreEvent ?_ event
    exact ⟨hlisted.nonempty, hlisted.nodup, hlisted.owner, hlisted.kept⟩
  · exact hlisted.call peerId peer
  · exact hlisted.advance hcall hadvance
  · refine ⟨fun _ => by simp [State.stop], fun _ => by simp [State.stop, State.waitersOf], ?_, ?_⟩
    · intro peerId id hmem
      simp [State.stop, State.waitersOf] at hmem
    · intro id call hcall hawaits hpending
      exact absurd hpending (pending_stop hlisted hcall hawaits)

theorem Woken.deliver {event : Event} {ready : List Event} (hwoken : Woken state)
    (hlisted : Listed state) (hready : state.ready = event :: ready) :
    Woken ({ state with ready }.onCoreEvent event) := by
  have hlater : ∀ {id : Nat} {call : Call}, state.calls[id]? = some call → call.stage = .waiting →
      state.futures id = .pending → state.core.shared.hasPeer call.peer = true →
      event ≠ .peerConnected call.peer → { state with ready }.Announces call.peer := by
    intro id call hcall hwaiting hpending hpeer hevent
    refine (hwoken.announced id call hcall hwaiting hpending hpeer).imp_right fun hmem => ?_
    rw [hready, List.mem_cons] at hmem
    exact hmem.resolve_left (Ne.symm hevent)
  cases event with
  | peerConnected peer =>
      refine ⟨hwoken.cursor, hwoken.canonical, fun id call hcall hwaiting hpending hpeer => ?_⟩
      simp only [State.onCoreEvent] at hpending
      split at hpending
      · cases hpending
      · rename_i hnot
        refine hlater hcall hwaiting hpending hpeer ?_
        rintro ⟨⟩
        refine hnot ⟨?_, hpending⟩
        rw [hwoken.canonical call (List.mem_of_getElem? hcall)]
        exact hlisted.kept id call hcall (by rw [hwaiting]; rfl) hpending
  | _ =>
      refine ⟨hwoken.cursor, hwoken.canonical, fun id call hcall hwaiting hpending hpeer => ?_⟩
      exact hlater hcall hwaiting hpending hpeer nofun

theorem Woken.next (hwoken : Woken state) (hlisted : Listed state)
    (hordinary : state.ordinary action = true)
    (hstep : step externals state action = some later) : Woken later := by
  rcases step_cases hstep with ⟨act, core, -, hcore, rfl⟩ | ⟨cursor, rfl, hrecv, rfl⟩ |
    ⟨emission, cursor, -, hrecv, rfl⟩ | ⟨event, ready, hready, rfl⟩ |
    ⟨peerId, peer, rfl, hparse, rfl⟩ | ⟨index, call, changed, stage, hcall, hadvance, rfl⟩ | rfl
  · refine ⟨hwoken.cursor.trans (Transport.length_log_le_of_step hcore), hwoken.canonical, ?_⟩
    intro id call hcall hwaiting hpending hpeer
    cases hbefore : state.core.shared.hasPeer call.peer with
    | false => exact .inl (Transport.announces_of_hasPeer hcore hbefore hpeer)
    | true =>
        refine (hwoken.announced id call hcall hwaiting hpending hbefore).imp_left ?_
        exact fun hannounces => hannounces.next hwoken.cursor hcore
  · have hlagging := Broadcast.Channel.recv_eq_lagged hrecv
    simp [State.ordinary, hlagging] at hordinary
  · obtain ⟨hunread, hcursor⟩ := Broadcast.Channel.recv_eq_item hrecv
    refine ⟨hcursor, hwoken.canonical, fun id call hcall hwaiting hpending hpeer => ?_⟩
    rcases hwoken.announced id call hcall hwaiting hpending hpeer with
      (howed | ⟨sent, hmem, hsent⟩) | hmem
    · exact .inl (.inl howed)
    · rw [hunread, List.mem_cons] at hmem
      rcases hmem with rfl | hrest
      · exact .inr (List.mem_append_right _ (by simp [hsent]))
      · exact .inl (.inr ⟨sent, hrest, hsent⟩)
    · exact .inr (List.mem_append_left _ hmem)
  · exact hwoken.deliver hlisted hready
  · refine ⟨hwoken.cursor, fun call hmem => ?_, fun id call hcall hwaiting hpending hpeer => ?_⟩
    · rcases List.mem_append.mp hmem with hold | hnew
      · exact hwoken.canonical call hold
      · obtain rfl := List.mem_singleton.mp hnew
        simpa [State.ordinary, hparse, Except.toOption] using hordinary
    · rw [List.getElem?_append] at hcall
      split at hcall
      · refine (hwoken.announced id call hcall hwaiting hpending hpeer).imp_left ?_
        refine Or.imp_left ?_
        rintro ⟨task, hmem, hunsent⟩
        exact ⟨task, List.mem_append_left _ hmem, hunsent⟩
      · obtain rfl := List.mem_singleton.mp (List.mem_of_getElem? hcall)
        cases hwaiting
  · exact hwoken.advance hcall hadvance
  · refine ⟨hwoken.cursor, hwoken.canonical, fun id call hcall hwaiting hpending _ => ?_⟩
    exact absurd hpending (pending_stop hlisted hcall (by rw [hwaiting]; rfl))

end Node

theorem listed_of_reachable {externals : Externals} {localId : NodeId} {config : TransportConfig}
    {inboxes : Mailbox → Inbox} {allowed : State → Action → Prop} {state : State}
    (hreach : Machine.ReachableWhere (step externals) allowed (start localId config inboxes) state) :
    Listed state := by
  refine hreach.invariant ⟨?_, ?_, ?_, ?_⟩ fun _ _ _ hlisted _ hstep => hlisted.next hstep
  all_goals simp [start, State.waitersOf]

/-- **`connect_peer` misses no wake-up.** While a call waits and its peer is in the map, a `PeerConnected` event about the peer is still to come; ended calls are registered nowhere, and no empty list is left. -/
theorem connectPeer_wakes {externals : Externals} {localId : NodeId} {config : TransportConfig}
    {inboxes : Mailbox → Inbox} {state : State}
    (hreach : Machine.ReachableWhere (step externals)
      (fun state action => state.ordinary action = true) (start localId config inboxes) state) :
    (∀ id call, state.calls[id]? = some call → call.stage = .waiting →
      state.futures id = .pending → state.core.shared.hasPeer call.peer = true →
      state.Announces call.peer) ∧
    (∀ id call outcome, state.calls[id]? = some call → call.stage = .ended outcome →
      ∀ peerId, id ∉ state.waitersOf peerId) ∧
    ∀ peerId, state.waiters peerId ≠ some [] := by
  have hlisted := listed_of_reachable hreach
  have hwoken : Woken state := by
    refine hreach.invariant_of_reachable ⟨?_, ?_, ?_⟩ ?_
    · simp [start]
    · simp [start]
    · simp [start]
    · intro before action after hbefore hwoken hordinary hstep
      exact hwoken.next (listed_of_reachable hbefore) hordinary hstep
  refine ⟨hwoken.announced, fun id call outcome hcall hended => ?_, hlisted.nonempty⟩
  exact hlisted.notMem hcall (by rw [hended]; rfl)

namespace Fixed

def waiting : List Action :=
  [.connectPeer "a@h:2", .resume 0 .go, .resume 0 .go, .resume 0 .go,
    .connectPeer "a@h:2", .resume 1 .go, .resume 1 .go, .resume 1 .go] ++
  ([.resume 2 .go, .resume 2 .go, .resume 2 (.connected 1), .resume 2 .go,
    .resume 2 (.nonce [])] : List Transport.Action).map .core

def start : State :=
  Connecting.start ⟨"m", "h", 1⟩ {} fun _ => { capacity := 1 }

end Fixed

theorem connectPeer_wakes_waiting :
    ∃ state, Machine.ReachableWhere (step LapinBeam.Fixed.externals)
        (fun state action => state.ordinary action = true) Fixed.start state ∧
      state.calls[1]? = some ⟨"a@h:2", LapinBeam.Fixed.peer, .waiting⟩ ∧
      state.waiters "a@h:2" = some [0, 1] ∧ state.Announces LapinBeam.Fixed.peer := by
  have hrun : (Machine.runWhere (step LapinBeam.Fixed.externals)
      (fun state action => state.ordinary action = true) Fixed.start Fixed.waiting).map
      (fun state => (state.calls[1]?, state.waiters "a@h:2", state.futures 1,
        state.core.shared.hasPeer LapinBeam.Fixed.peer)) =
      some (some ⟨"a@h:2", LapinBeam.Fixed.peer, .waiting⟩, some [0, 1], .pending, true) := by
    decide +kernel
  obtain ⟨state, hreach, hobserved⟩ := Machine.exists_reachableWhere hrun
  simp only [Prod.mk.injEq] at hobserved
  obtain ⟨hcall, hwaiters, hpending, hpeer⟩ := hobserved
  exact ⟨state, hreach, hcall, hwaiters, (connectPeer_wakes hreach).1 1 _ hcall rfl hpending hpeer⟩

end Connecting

end LapinBeam
