import LapinBeam.Transport.Link

/-!
# Frames survive batching and chunking

The invariant relates the decoder's residual buffer to what has not been delivered yet: the bytes
buffered, on the socket and held by the writer are, in this order, the frames of the messages taken
off the queue and not delivered, and the buffer alone does not hold the first of them.
-/

namespace LapinBeam.Link

open StreamDecoder

variable {bincode : Bincode} {debugAssertions : Bool} {link next : Link} {msg : WireMessage}

structure InOrder (bincode : Bincode) (link : Link) : Prop where
  aborted : link.aborted = none
  transit : ∃ left, link.enqueued = link.delivered ++ left ++ link.queue ∧
    Residual (frameBytes bincode) left link.decoder.buf ∧
    left.flatMap (frameBytes bincode) = link.decoder.buf ++ link.socket ++ link.writer.batch

theorem inOrder_new (bincode : Bincode) (capacity : Nat) : InOrder bincode (Link.new capacity) :=
  ⟨rfl, [], rfl, ⟨List.nil_prefix, by simp⟩, rfl⟩

theorem residual_append {frame : WireMessage → Bytes} {left : List WireMessage} {tail : Bytes}
    (hresidual : Residual frame left tail) (hpos : 0 < (frame msg).length) :
    Residual frame (left ++ [msg]) tail := by
  refine ⟨?_, ?_⟩
  · rw [List.flatMap_append]
    exact hresidual.1.trans (List.prefix_append _ _)
  · intro first hfirst
    cases left with
    | nil =>
        obtain rfl : msg = first := by simpa using hfirst
        rwa [hresidual.eq_nil]
    | cons head rest => exact hresidual.2 first (by simpa using hfirst)

theorem inOrder_take (hinv : InOrder bincode link) {queue : List WireMessage} {writer : Writer}
    (hqueue : link.queue = msg :: queue) (hpos : 0 < (frameBytes bincode msg).length)
    (hbatch : writer.batch = link.writer.batch ++ frameBytes bincode msg) :
    InOrder bincode { link with queue, writer } := by
  obtain ⟨left, henqueued, hresidual, hbytes⟩ := hinv.transit
  refine ⟨hinv.aborted, left ++ [msg], ?_, residual_append hresidual hpos, ?_⟩
  · rw [henqueued, hqueue]
    simp
  · rw [List.flatMap_append, hbytes, hbatch]
    simp

theorem inOrder_move (hinv : InOrder bincode link) {socket : Bytes} {writer : Writer}
    (hbytes : socket ++ writer.batch = link.socket ++ link.writer.batch) :
    InOrder bincode { link with socket, writer } := by
  obtain ⟨left, henqueued, hresidual, hframes⟩ := hinv.transit
  refine ⟨hinv.aborted, left, henqueued, hresidual, ?_⟩
  rw [hframes, List.append_assoc, List.append_assoc, hbytes]

theorem encodeFrame_of_fits (hfits : FitsFrame bincode msg) :
    encodeFrame bincode msg = .ok (frameBytes bincode msg) := by
  obtain ⟨body, hbody, -⟩ := hfits
  rw [encodeFrame_of_encode hbody, frameBytes_of_encode hbody]

theorem inOrder_read (hlawful : bincode.Lawful) (hfits : ∀ msg ∈ link.enqueued, FitsFrame bincode msg)
    (hinv : InOrder bincode link) (count : Nat)
    (hstep : link.step bincode debugAssertions (.read count) = some next) :
    InOrder bincode next := by
  obtain ⟨left, henqueued, hresidual, hframes⟩ := hinv.transit
  have hleft : ∀ msg ∈ left, FitsFrame bincode msg := fun msg hmem =>
    hfits msg (henqueued ▸ by simp [hmem])
  have hsplit : left.flatMap (frameBytes bincode) =
      (link.decoder.buf ++ link.socket.take count) ++
        (link.socket.drop count ++ link.writer.batch) := by
    rw [hframes, List.append_assoc _ (link.socket.take count), ← List.append_assoc _ _ (link.writer.batch),
      List.take_append_drop, List.append_assoc]
  obtain ⟨taken, rest, tail, hitems, hbuffer, hdrain, htail⟩ :=
    drain_frames (framing_nextFrame hlawful debugAssertions) left hleft
      ((link.decoder.buf ++ link.socket.take count).length + 1)
      (link.decoder.buf ++ link.socket.take count) [] ⟨_, hsplit.symm⟩ (Nat.lt_succ_self _)
  have hdecode : link.decoder.decode bincode debugAssertions (link.socket.take count) =
      (.ok taken, ⟨tail⟩) := by
    simp only [FrameDecoder.decode, hdrain, List.nil_append]
  simp only [step, hinv.aborted, hdecode, Option.some.injEq] at hstep
  subst hstep
  refine ⟨rfl, rest, ?_, htail, ?_⟩
  · rw [henqueued, hitems]
    simp
  · -- the frames of what was taken are gone from both sides
    rw [hitems, List.flatMap_append, hbuffer, List.append_assoc] at hsplit
    simpa using List.append_cancel_left hsplit

theorem enqueued_grows {action : Action}
    (hstep : link.step bincode debugAssertions action = some next) :
    link.enqueued <+: next.enqueued := by
  cases action with
  | enqueue msg =>
      simp only [step, Option.ite_none_right_eq_some, Option.some.injEq] at hstep
      obtain ⟨-, rfl⟩ := hstep
      exact List.prefix_append _ _
  | _ =>
      simp only [step] at hstep
      repeat' split at hstep
      all_goals cases hstep <;> exact List.prefix_rfl

theorem inOrder_step (hlawful : bincode.Lawful) (hinv : InOrder bincode link) {action : Action}
    (hfits : ∀ msg ∈ link.enqueued, FitsFrame bincode msg)
    (hstep : link.step bincode debugAssertions action = some next) : InOrder bincode next := by
  have hpos : ∀ msg, FitsFrame bincode msg → 0 < (frameBytes bincode msg).length :=
    (framing_nextFrame hlawful debugAssertions).frame_pos
  have hmem : ∀ {msg queue}, link.queue = msg :: queue → msg ∈ link.enqueued := by
    intro msg queue hqueue
    obtain ⟨left, henqueued, -, -⟩ := hinv.transit
    rw [henqueued, hqueue]
    simp
  cases action with
  | enqueue msg =>
      simp only [step, Option.ite_none_right_eq_some, Option.some.injEq] at hstep
      obtain ⟨-, rfl⟩ := hstep
      obtain ⟨left, henqueued, hresidual, hframes⟩ := hinv.transit
      refine ⟨hinv.aborted, left, ?_, hresidual, hframes⟩
      simp [henqueued]
  | recv | tryRecv =>
      simp only [step] at hstep
      split at hstep
      · rename_i msg queue hwriter hqueue
        have hmsg : FitsFrame bincode msg := hfits msg (hmem hqueue)
        rw [encodeFrame_of_fits hmsg] at hstep
        obtain rfl := Option.some.inj hstep
        exact inOrder_take hinv hqueue (hpos msg hmsg) (by simp [hwriter, Writer.batch])
      · cases hstep
  | tryRecvEmpty | writeError =>
      simp only [step] at hstep
      split at hstep
      · rename_i hwriter
        obtain rfl := Option.some.inj hstep
        exact inOrder_move hinv (by simp [hwriter, Writer.batch])
      · cases hstep
  | write count =>
      simp only [step] at hstep
      split at hstep
      · rename_i rest hwriter
        obtain rfl := Option.some.inj hstep
        apply inOrder_move hinv
        rw [hwriter]
        split
        · rename_i hnil
          have hrest := List.take_append_drop count rest
          rw [hnil, List.append_nil] at hrest
          simp [Writer.batch, hrest]
        · simp [Writer.batch, List.append_assoc, List.take_append_drop]
      · cases hstep
  | hangUp =>
      simp only [step] at hstep
      split at hstep
      · rename_i hwriter _
        obtain rfl := Option.some.inj hstep
        exact inOrder_move hinv (by simp [hwriter, Writer.batch])
      · cases hstep
  | read count => exact inOrder_read hlawful hfits hinv count hstep

def InOrderIfFits (bincode : Bincode) (link : Link) : Prop :=
  (∀ msg ∈ link.enqueued, FitsFrame bincode msg) → InOrder bincode link

theorem inOrder_of_reachable (hlawful : bincode.Lawful) {capacity : Nat}
    (hreach : Machine.Reachable (step bincode debugAssertions) (Link.new capacity) link) :
    InOrderIfFits bincode link := by
  refine hreach.invariant ?_ ?_
  · exact fun _ => inOrder_new bincode capacity
  · intro state action after hinv _ hstep hfits
    have hbefore : ∀ msg ∈ state.enqueued, FitsFrame bincode msg := fun msg hmem =>
      hfits msg ((enqueued_grows hstep).mem hmem)
    exact inOrder_step hlawful (hinv hbefore) hbefore hstep

/-- **Delivery.** Whatever the batches and the chunks, the messages decoded are a prefix of the messages enqueued and no decoding fails; when nothing is left to write or to read, all of them have arrived. -/
theorem delivered_prefix_enqueued (hlawful : bincode.Lawful) {capacity : Nat}
    (hreach : Machine.Reachable (step bincode debugAssertions) (Link.new capacity) link)
    (hfits : ∀ msg ∈ link.enqueued, FitsFrame bincode msg) :
    link.aborted = none ∧ link.delivered <+: link.enqueued ∧
      (link.queue = [] → link.writer.batch = [] → link.socket = [] →
        link.delivered = link.enqueued ∧ link.decoder.buf = []) := by
  have hinv : InOrder bincode link := inOrder_of_reachable hlawful hreach hfits
  obtain ⟨left, henqueued, hresidual, hframes⟩ := hinv.transit
  refine ⟨hinv.aborted, ?_, ?_⟩
  · rw [henqueued, List.append_assoc]
    exact List.prefix_append _ _
  · intro hqueue hbatch hsocket
    rw [hbatch, hsocket, List.append_nil, List.append_nil] at hframes
    obtain rfl := hresidual.items_eq_nil hframes
    refine ⟨?_, hresidual.eq_nil⟩
    simp [henqueued, hqueue]

theorem delivered_prefix_enqueued_heartbeats :
    ∃ link, Machine.Reachable (step .standard true) (Link.new 2) link ∧
      link.enqueued.length = 2 ∧ link.delivered = link.enqueued ∧ link.decoder.buf = [] := by
  have hrun : (Machine.runWhere (step .standard true) (fun _ _ => True) (Link.new 2)
      [.enqueue (.heartbeat 1 "a@h:1"), .recv, .enqueue (.heartbeat 2 "a@h:1"), .tryRecv,
        .tryRecvEmpty, .write 9, .read 2, .read 7, .write 100, .read 3, .read 100]).map
        (fun link => (link.enqueued, link.queue, link.writer.batch, link.socket)) =
      some ([.heartbeat 1 "a@h:1", .heartbeat 2 "a@h:1"], [], [], []) := by
    decide +kernel
  obtain ⟨link, hreach, hobserved⟩ := Machine.exists_reachableWhere hrun
  simp only [Prod.mk.injEq] at hobserved
  obtain ⟨henqueued, hqueue, hbatch, hsocket⟩ := hobserved
  have hfits : ∀ msg ∈ link.enqueued, FitsFrame .standard msg := by
    rw [henqueued]
    have hsize : ∀ msg ∈ [WireMessage.heartbeat 1 "a@h:1", .heartbeat 2 "a@h:1"],
        (Bincode.writeMessage msg).length ≤ maxFrameSize := by decide +kernel
    exact fun msg hmem => ⟨_, rfl, hsize msg hmem⟩
  obtain ⟨-, -, hall⟩ := delivered_prefix_enqueued Bincode.standard_lawful hreach hfits
  exact ⟨link, hreach, by rw [henqueued]; rfl, hall hqueue hbatch hsocket⟩

end LapinBeam.Link
