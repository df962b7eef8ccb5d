import LapinBeam.Transport.Stretch
import LapinBeam.Transport.Timed

/-!
# Silence

A peer that has sent nothing for `peer_timeout` is to be dropped. The timeout is created inside the
`select!` of `read_loop`, so it starts anew whenever the loop goes round, and the loop also goes
round for events that have nothing to do with the peer: as long as such events come more often than
`peer_timeout`, a silent peer stays.
-/

namespace LapinBeam.Transport

def Connection.dismissed (events : Broadcast.Channel Emission) (connection : Connection) : Bool :=
  match connection.registered, events.recv connection.cursor with
  | some handle, .item emission _ => emission.event = .peerDisconnected handle.peerId
  | _, _ => false

/-- When a read loop goes round, no time has passed since it last read something or started. -/
def prompt (timed : Timed) : TimedAction → Bool
  | .act (.resume index input) =>
      match timed.system.tasks[index]?, input with
      | some (.readLoop connection .selecting), .recv =>
          Connection.dismissed timed.system.shared.events connection ||
            timed.lastRead index = timed.now
      | some (.readLoop _ (.handling [])), .go => timed.lastRead index = timed.now
      | _, _ => true
  | _ => true

def Punctual (timed : Timed) : Prop :=
  ∀ (index : Nat) (connection : Connection),
    timed.system.tasks[index]? = some (.readLoop connection .selecting) →
    timed.deadline index ≤ timed.lastRead index + timed.peerTimeout

section Step

variable {externals : Externals} {transport : Transport} {task : Task} {input : Input} {move : Move}

theorem Stretch.not_selecting (hstretch : Stretch transport task move) {other : Task}
    (hmem : other ∈ move.spawned) : other.selecting = false := by
  cases hstretch with
  | other _ _ _ hspawned => simp [hspawned] at hmem
  | _ => first | (cases hmem; done) | (simp at hmem; rcases hmem with rfl | rfl <;> rfl)

theorem not_dismissed_of_recv (externals : Externals) {connection : Connection}
    (hmove : ReadLoop.selecting.move externals transport connection .recv = some move)
    (hafter : move.task.selecting = true) :
    Connection.dismissed transport.events connection = false := by
  simp only [ReadLoop.move] at hmove
  split at hmove
  · cases hmove
  · rename_i handle hregistered
    split at hmove
    · cases hmove
    · rename_i next hrecv
      simp [Connection.dismissed, hregistered, hrecv]
    · rename_i emission next hrecv
      split at hmove
      · cases hmove
        cases hafter
      · rename_i hevent
        simp [Connection.dismissed, hregistered, hrecv, hevent]

theorem selecting_cases (hmove : task.move externals transport input = some move)
    (hafter : move.task.selecting = true) :
    task.hears input = true ∨
    (∃ connection, task = .readLoop connection .selecting ∧ input = .recv ∧
      Connection.dismissed transport.events connection = false) ∨
    ∃ connection, task = .readLoop connection (.handling []) ∧ input = .go := by
  cases Task.stretch_of_move hmove with
  | other _ hbystander =>
      cases hother : move.task <;> simp [hother, Task.selecting, Task.bystander] at hafter hbystander
  | subscribe => exact .inl rfl
  | @overhear connection =>
      right
      left
      cases input with
      | recv => exact ⟨connection, rfl, rfl, not_dismissed_of_recv externals hmove hafter⟩
      | read result => cases result <;> simp [Task.move, ReadLoop.move] at hmove
      | _ => cases hmove
  | @handled connection =>
      right
      right
      cases input with
      | go => exact ⟨connection, rfl, rfl⟩
      | _ => cases hmove
  | _ => cases hafter

variable {timed after : Timed} {action : TimedAction}

theorem Punctual.next (hpunctual : Punctual timed) (hprompt : prompt timed action = true)
    (hstep : timedStep externals timed action = some after) : Punctual after := by
  cases action with
  | wait duration =>
      cases hstep
      exact hpunctual
  | act action =>
      simp only [timedStep, Option.ite_none_left_eq_some, Option.map_eq_some_iff] at hstep
      obtain ⟨-, system, hsystem, rfl⟩ := hstep
      intro position connection hat
      cases action with
      | call task =>
          obtain ⟨hentry, rfl⟩ := TaskSystem.step_call_eq_some hsystem
          simp only [Timed.advance, TaskSystem.State.call, List.getElem?_append] at hat ⊢
          split at hat
          · exact hpunctual position connection hat
          · obtain rfl := List.mem_singleton.mp (List.mem_of_getElem? hat)
            cases hentry
      | resume index input =>
          obtain ⟨task, out, htask, hout, rfl⟩ := TaskSystem.step_resume_eq_some hsystem
          obtain ⟨move, hmove, rfl⟩ := Option.map_eq_some_iff.mp hout
          rcases TaskSystem.lookup_after hat with ⟨rfl, hself⟩ | ⟨hne, hold⟩ | ⟨-, hspawned⟩
          · -- The deadline is new, and so is the time of the last read, or it is now.
            have hafter : move.task.selecting = true := by
              show (move.outcome timed.system.shared).task.selecting = true
              rw [← hself]
              rfl
            have hread : (if timed.system.tasks[position]?.any (·.hears input) then
                Function.update timed.lastRead position timed.now else timed.lastRead) position =
                timed.now := by
              rw [htask, Option.any_some]
              rcases selecting_cases hmove hafter with
                hhears | ⟨connection, rfl, rfl, hdismissed⟩ | ⟨connection, rfl, rfl⟩
              · rw [if_pos hhears, Function.update_self]
              · simpa [prompt, htask, hdismissed, Task.hears] using hprompt
              · simpa [prompt, htask, Task.hears] using hprompt
            simp only [Timed.advance, hread, TaskSystem.lookup_self htask, Option.any_some]
            show (if move.task.selecting = true then _ else timed.deadline) position ≤ _
            rw [if_pos hafter, Function.update_self]
          · have hdeadline := hpunctual position connection hold
            simp only [Timed.advance]
            split <;> split <;> simpa [Function.update_of_ne hne] using hdeadline
          · have hother := Stretch.not_selecting (Task.stretch_of_move hmove)
              (List.mem_of_getElem? hspawned)
            cases hother

end Step

/-- When no time passes between a read and the next `select!`, and no event is heeded later than the last read: a read loop waits for at most `peer_timeout` from its last read. -/
theorem silence_from_last_read {externals : Externals} {localId : NodeId} {config : TransportConfig}
    {inboxes : Mailbox → Inbox} {peerTimeout : Nat} {timed : Timed} {index : Nat}
    {connection : Connection}
    (hreach : Machine.ReachableWhere (timedStep externals) (fun timed action => prompt timed action = true)
      (timedStart (Transport.start localId config inboxes) peerTimeout) timed)
    (hat : timed.system.tasks[index]? = some (.readLoop connection .selecting)) :
    timed.deadline index ≤ timed.lastRead index + timed.peerTimeout ∧
      (timed.lastRead index + timed.peerTimeout ≤ timed.now →
        (timedStep externals timed (.act (.resume index (.read .elapsed)))).isSome = true) := by
  have hpunctual : Punctual timed := by
    refine hreach.invariant ?_ fun before action after hpunctual hprompt hstep =>
      hpunctual.next hprompt hstep
    intro position other hother
    have hmem := List.mem_of_getElem? hother
    simp [timedStart, Transport.start] at hmem
  have hdeadline := hpunctual index connection hat
  refine ⟨hdeadline, fun helapsed => ?_⟩
  have hlate : timed.early (.resume index (.read .elapsed)) = false := by
    simp only [Timed.early, decide_eq_false_iff_not]
    omega
  have hperform : (Transport.program externals).perform timed.system.shared
      (.readLoop connection .selecting) (.read .elapsed) =
      some (Move.outcome ⟨.skip, .readLoop connection .closing, []⟩ timed.system.shared) := rfl
  rw [timedStep, hlate, step, TaskSystem.step_resume_of_perform hat hperform]
  rfl

namespace Fixed

def silent : List TimedAction := LapinBeam.Fixed.dialed.map .act ++ [.wait 9]

def elsewhere : List TimedAction :=
  ([.call (.dial .connect ⟨"b", "h", 3⟩ .checkingPeer), .resume 5 .go, .resume 5 .go,
    .resume 5 (.connected 2), .resume 5 .go, .resume 5 (.nonce []), .resume 5 .go,
    .resume 5 .go] : List Action).map .act

def waiting (cursor : Nat) : Task :=
  .readLoop ⟨1, false, some ⟨LapinBeam.Fixed.peer, 1⟩, cursor⟩ .selecting

def timing (timed : Timed) : Option Task × Nat × Nat × Nat :=
  (timed.system.tasks[3]?, timed.now, timed.lastRead 3, timed.deadline 3)

end Fixed

theorem silence_from_last_read_dialed :
    ∃ timed, Machine.ReachableWhere (timedStep LapinBeam.Fixed.externals)
        (fun timed action => prompt timed action = true) (timedStart LapinBeam.Fixed.start 10) timed ∧
      timed.system.tasks[3]? = some (Fixed.waiting 1) ∧ timed.now = 19 ∧ timed.lastRead 3 = 9 ∧
      timed.deadline 3 ≤ 9 + timed.peerTimeout := by
  have hrun : (Machine.runWhere (timedStep LapinBeam.Fixed.externals)
      (fun timed action => prompt timed action = true) (timedStart LapinBeam.Fixed.start 10)
      (Fixed.silent ++ [.act (.resume 3 (.read (.frames []))), .act (.resume 3 .go),
        .wait 10])).map Fixed.timing = some (some (Fixed.waiting 1), 19, 9, 19) := by
    decide +kernel
  obtain ⟨timed, hreach, hobserved⟩ := Machine.exists_reachableWhere hrun
  simp only [Fixed.timing, Prod.mk.injEq] at hobserved
  obtain ⟨hat, hnow, hread, -⟩ := hobserved
  exact ⟨timed, hreach, hat, hnow, hread, hread ▸ (silence_from_last_read hreach hat).1⟩

/-- A peer has been silent for longer than the timeout of ten, and the read loop is to wait for it until 19, because another peer was connected to at nine. -/
theorem silence_postponed :
    ∃ timed, Machine.Reachable (timedStep LapinBeam.Fixed.externals)
        (timedStart LapinBeam.Fixed.start 10) timed ∧
      timed.system.tasks[3]? = some (Fixed.waiting 2) ∧ timed.now = 14 ∧ timed.lastRead 3 = 0 ∧
      timed.deadline 3 = 19 := by
  have hrun : (Machine.runWhere (timedStep LapinBeam.Fixed.externals) (fun _ _ => True)
      (timedStart LapinBeam.Fixed.start 10)
      (Fixed.silent ++ Fixed.elsewhere ++ [.act (.resume 3 .recv), .wait 5])).map Fixed.timing =
      some (some (Fixed.waiting 2), 14, 0, 19) := by
    decide +kernel
  obtain ⟨timed, hreach, hobserved⟩ := Machine.exists_reachableWhere hrun
  simp only [Fixed.timing, Prod.mk.injEq] at hobserved
  exact ⟨timed, hreach, hobserved⟩

end LapinBeam.Transport
