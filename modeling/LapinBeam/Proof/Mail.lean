import LapinBeam.Proof.Generations

/-!
# Queued mail survives restarts

The mailbox belongs to the child, not to a generation: it is created by `spawn`, every driver of the
child reads it, and neither a crash nor a kill nor a sweep replaces it. A `get()` that is cancelled
takes nothing. So whatever `_send_local` has accepted was dequeued by some generation, in order, or
is still waiting (`Mailbox.Accounted`).
-/

namespace LapinBeam.Actor

open Asyncio (TaskId)

def Mailbox.Accounted (mailbox : Mailbox) : Prop :=
  mailbox.accepted = mailbox.dequeued ++ mailbox.queue

theorem Mailbox.accounted_put {mailbox : Mailbox} (haccounted : mailbox.Accounted) (msg : Message) :
    (mailbox.put msg).Accounted := by
  simp only [Accounted] at haccounted ⊢
  simp [put, haccounted]

theorem Mailbox.accounted_take {mailbox : Mailbox} (haccounted : mailbox.Accounted) :
    mailbox.take.Accounted := by
  simp only [Accounted, take] at haccounted ⊢
  cases hqueue : mailbox.queue <;> simp [haccounted, hqueue]

def Mailbox.Posted (before after : Mailbox) : Prop :=
  after = before ∨ ∃ msg, before.full = false ∧ after = before.put msg

section Posted

variable (runtime : Runtime) (mailbox : MailboxId)

theorem posted_sendLocal (name : String) (msg : Message) :
    Mailbox.Posted (runtime.mailboxes mailbox) ((runtime.sendLocal name msg).mailboxes mailbox) := by
  unfold Runtime.sendLocal
  split
  · exact .inl rfl
  · rename_i target _
    split
    · exact .inl rfl
    · rename_i hroom
      by_cases heq : mailbox = target
      · subst heq
        exact .inr ⟨msg, Bool.eq_false_iff.mpr hroom, by simp⟩
      · exact .inl (by simp [heq])

theorem posted_deliverDown (ref : Ref) (actorLabel reason : String) :
    Mailbox.Posted (runtime.mailboxes mailbox)
      ((runtime.deliverDown ref actorLabel reason).mailboxes mailbox) := by
  unfold Runtime.deliverDown
  split
  · exact .inl rfl
  · exact posted_sendLocal { runtime with signals := runtime.signals.popMonitor ref } mailbox _ _

theorem posted_deliverExit (fromLabel target reason : String) :
    Mailbox.Posted (runtime.mailboxes mailbox)
      ((runtime.deliverExit fromLabel target reason).mailboxes mailbox) := by
  unfold Runtime.deliverExit
  split
  · exact posted_sendLocal runtime mailbox _ _
  · split <;> exact .inl rfl

theorem posted_link (me : String) (other : Address) :
    Mailbox.Posted (runtime.mailboxes mailbox) ((runtime.link me other).mailboxes mailbox) := by
  simp only [Runtime.link]
  split
  · split
    · exact posted_deliverExit { runtime with signals := _ } mailbox _ _ _
    · exact .inl rfl
  · exact .inl rfl

theorem posted_monitor (me : String) (other : Address) (ref : Ref) :
    Mailbox.Posted (runtime.mailboxes mailbox) ((runtime.monitor me other ref).mailboxes mailbox) := by
  simp only [Runtime.monitor]
  split
  · split
    · exact posted_deliverDown { runtime with signals := _ } mailbox _ _ _
    · exact .inl rfl
  · exact .inl rfl

theorem posted_receive (msg : PeerMessage) :
    Mailbox.Posted (runtime.mailboxes mailbox) ((runtime.receive msg).mailboxes mailbox) := by
  cases msg with
  | exit target actor reason fromNode => exact posted_deliverExit runtime mailbox _ _ _
  | down ref actor reason fromNode => exact posted_deliverDown runtime mailbox _ _ _
  | link | monitor =>
      simp only [Runtime.receive]
      split <;> exact .inl rfl
  | unlink | demonitor => exact .inl rfl

theorem Effect.mailbox_cases (effect : Effect) :
    Mailbox.Posted (runtime.mailboxes mailbox) ((effect.apply runtime).mailboxes mailbox) ∨
    (effect = .dequeue mailbox ∧
      (effect.apply runtime).mailboxes mailbox = (runtime.mailboxes mailbox).take) ∨
    ∃ supervisor name, effect = .spawn supervisor name (.actor mailbox) ∧
      (effect.apply runtime).mailboxes mailbox = { maxsize := runtime.mailboxCapacity.getD 0 } := by
  cases effect with
  | dequeue other =>
      by_cases heq : mailbox = other
      · subst heq
        exact .inr (.inl ⟨rfl, by simp [Effect.apply]⟩)
      · exact .inl (.inl (by simp [Effect.apply, heq]))
  | spawn supervisor name kind =>
      cases kind with
      | supervisor settings => exact .inl (.inl rfl)
      | actor other =>
          by_cases heq : mailbox = other
          · subst heq
            exact .inr (.inr ⟨_, _, rfl, by simp [Effect.apply, Runtime.spawn]⟩)
          · exact .inl (.inl (by
              simp [Effect.apply, Runtime.spawn, heq]))
  | deliver signal =>
      left
      cases signal with
      | exit => exact posted_deliverExit runtime mailbox _ _ _
      | down => exact posted_deliverDown runtime mailbox _ _ _
      | remoteExit | remoteDown => exact .inl rfl
  | sendLocal name msg => exact .inl (posted_sendLocal runtime mailbox _ _)
  | link me other => exact .inl (posted_link runtime mailbox _ _)
  | monitor me other ref => exact .inl (posted_monitor runtime mailbox _ _ _)
  | receive msg => exact .inl (posted_receive runtime mailbox _)
  | unlink me other =>
      simp only [Effect.apply, Runtime.unlink]
      split <;> exact .inl (.inl rfl)
  | demonitor ref =>
      simp only [Effect.apply, Runtime.demonitor]
      split
      · exact .inl (.inl rfl)
      · split <;> exact .inl (.inl rfl)
  | denied child exc =>
      obtain ⟨_, _, _, heq⟩ : runtime.Booked ((Effect.denied child exc).apply runtime) :=
        Effect.booked rfl runtime
      exact .inl (.inl (by rw [heq]))
  | cleanup child takeExit => cases takeExit <;> exact .inl (.inl rfl)
  | _ => exact .inl (.inl rfl)

end Posted

structure Mailed (system : System) : Prop where
  accounted : ∀ mailbox, (system.shared.mailboxes mailbox).Accounted
  handled : ∀ id child mailbox msg, At system id (.driver child mailbox (.handling msg)) →
    msg ∈ (system.shared.mailboxes mailbox).dequeued

theorem Mailbox.Posted.dequeued_eq {before after : Mailbox} (hposted : before.Posted after) :
    after.dequeued = before.dequeued := by
  rcases hposted with rfl | ⟨msg, -, rfl⟩ <;> rfl

section Step

variable {system : System} {self : TaskId} {input : Input} {frame : Frame} {move : Move}

theorem Stretch.of_handling {runtime : Runtime} {child : ChildId} {mailbox : MailboxId}
    {msg : Message} (hstretch : Stretch runtime self frame move)
    (heq : .driver child mailbox (.handling msg) = move.frame) :
    move.effect = .dequeue mailbox ∧ ∃ rest, (runtime.mailboxes mailbox).queue = msg :: rest := by
  cases hstretch with
  | received _ hqueue =>
      cases heq
      exact ⟨rfl, _, hqueue⟩
  | _ => cases heq

theorem Mailed.next (hformed : WellFormed system) (hmailed : Mailed system)
    (hresumed : Resumed system self input frame move) : Mailed (move.next system self) where
  accounted := by
    intro mailbox
    rw [mailboxes_next]
    have hbefore := hmailed.accounted mailbox
    rcases Effect.mailbox_cases system.shared mailbox move.effect with
      (heq | ⟨msg, -, heq⟩) | ⟨-, heq⟩ | ⟨_, _, -, heq⟩ <;> rw [heq]
    · exact hbefore
    · exact Mailbox.accounted_put hbefore msg
    · exact Mailbox.accounted_take hbefore
    · rfl
  handled := by
    intro id child mailbox msg hat
    rw [mailboxes_next]
    rcases hformed.mirrored.at_next hat with ⟨rfl, heq⟩ | ⟨-, hold⟩ | ⟨-, hspawned⟩
    · obtain ⟨heffect, rest, hqueue⟩ := hresumed.stretch.of_handling heq
      simp [heffect, Effect.apply, Mailbox.take, hqueue]
    · have hbefore := hmailed.handled id child mailbox msg hold
      rcases Effect.mailbox_cases system.shared mailbox move.effect with
        hposted | ⟨-, heq⟩ | ⟨_, _, heffect, -⟩
      · rwa [hposted.dequeued_eq]
      · rw [heq]
        exact List.mem_append_left _ hbefore
      · -- a new mailbox is nobody's yet
        have hlt := hformed.known.frames _ _ hold child List.mem_cons_self
        have hown := hformed.known.mailbox _ _ hlt (hformed.known.reads _ _ _ _ hold)
        rw [← hown, ((hresumed.stretch.origin heffect).2.2 _ rfl).1] at hlt
        exact absurd hlt (Nat.lt_irrefl _)
    · rcases hresumed.stretch.spawned_cases hspawned with
        ⟨_, _, heq, -⟩ | ⟨_, heq, -⟩ | ⟨_, heq⟩ <;> cases heq

end Step

theorem mailed_of_reachable {localId : String} {mailboxCapacity : Option Nat} {system : System}
    (hreach : Machine.Reachable step (start localId mailboxCapacity) system) :
    WellFormed system ∧ Mailed system := by
  refine WellFormed.invariant Mailed (.start _ _) ⟨fun _ => rfl, ?_⟩ ?_ hreach
  · intro id child mailbox msg hat
    cases (at_start hat).2
  · intro system self input frame move hformed hmailed _ hresumed
    exact hmailed.next hformed hresumed

/-- Restarts lose no queued mail: the drivers of a child are those that read its mailbox, and what they dequeue together is what was accepted for it, in order, up to what still waits. -/
theorem restarts_lose_no_mail {localId : String} {mailboxCapacity : Option Nat} {system : System}
    (hreach : Machine.Reachable step (start localId mailboxCapacity) system) {child : ChildId}
    {mailbox : MailboxId} (hspawned : child < system.shared.nextChild)
    (hmailbox : (system.shared.children child).mailbox = some mailbox) :
    (system.shared.mailboxes mailbox).dequeued <+: (system.shared.mailboxes mailbox).accepted ∧
      (system.shared.mailboxes mailbox).accepted =
        (system.shared.mailboxes mailbox).dequeued ++ (system.shared.mailboxes mailbox).queue ∧
      ∀ id owner reads stage, At system id (.driver owner reads stage) →
        (owner = child ↔ reads = mailbox) ∧
        ∀ msg, stage = .handling msg → msg ∈ (system.shared.mailboxes reads).dequeued := by
  obtain ⟨hformed, hmailed⟩ := mailed_of_reachable hreach
  have haccounted := hmailed.accounted mailbox
  refine ⟨haccounted ▸ List.prefix_append _ _, haccounted, ?_⟩
  intro id owner reads stage hat
  have hkind : (system.shared.children child).kind = .actor mailbox := by
    revert hmailbox
    unfold Child.mailbox
    cases (system.shared.children child).kind <;> simp
  obtain rfl := hformed.known.mailbox child mailbox hspawned hkind
  obtain rfl := hformed.known.mailbox owner reads
    (hformed.known.frames _ _ hat owner List.mem_cons_self) (hformed.known.reads _ _ _ _ hat)
  refine ⟨Iff.rfl, ?_⟩
  rintro msg rfl
  exact hmailed.handled _ _ _ _ hat

theorem restarts_lose_no_mail_crashing :
    ∃ system, Machine.Reachable step (start "node" none) system ∧
      At system 3 (.driver 0 0 (.handling (.user "second"))) ∧
      (system.shared.mailboxes 0).accepted = [.user "first", .user "second", .user "third"] ∧
      (system.shared.mailboxes 0).dequeued <+: (system.shared.mailboxes 0).accepted := by
  have hrun : (Machine.runWhere step (fun _ _ => True) (start "node" none) Fixed.crashing).map
      (fun system => (system.tasks[3]?, (system.shared.mailboxes 0).accepted,
        decide (0 < system.shared.nextChild), (system.shared.children 0).mailbox)) =
      some (some ⟨3, .driver 0 0 (.handling (.user "second"))⟩,
        [.user "first", .user "second", .user "third"], true, some 0) := by
    decide +kernel
  obtain ⟨system, hreach, hobserved⟩ := Machine.exists_reachableWhere hrun
  simp only [Prod.mk.injEq, decide_eq_true_eq] at hobserved
  obtain ⟨hat, haccepted, hspawned, hmailbox⟩ := hobserved
  exact ⟨system, hreach, hat, haccepted, (restarts_lose_no_mail hreach hspawned hmailbox).1⟩

end LapinBeam.Actor
