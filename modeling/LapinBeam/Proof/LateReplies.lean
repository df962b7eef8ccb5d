import LapinBeam.Proof.AskIsolation

/-!
# Replies that come too late

A call that has ended has no mailbox any more. A reply over the wire is then dropped on the asker's
node, and the handler that sent it never learns of it. A reply on the asker's own node looks the
mailbox up first and raises `ValueError` into the handler.
-/

namespace LapinBeam.Ask

open Bridge (MessageMeta)
open Actor (Exc)

variable {Msg Key Value : Type} {pools : Pools Msg Key}

/-! ### What is raised into a handler -/

namespace Traffic

variable {traffic next : Traffic Msg Value} {id : CallId} {roomy : Prop}

theorem raised_finish (last : Call Msg Value) (raised : Option Exc) :
    (traffic.finish id last raised).raised = traffic.raised := by
  unfold finish
  cases last.name <;> rfl

theorem raised_register (hnext : traffic.register id = some next) :
    next.raised = traffic.raised := by
  revert hnext
  fun_cases Traffic.register <;> rintro ⟨⟩ <;> rfl

theorem raised_send {home : Option String} {raised : Option Exc}
    (hnext : traffic.send id home raised = some next) : next.raised = traffic.raised := by
  revert hnext
  fun_cases Traffic.send <;> rintro ⟨⟩
  · rfl
  · exact raised_finish ..

theorem raised_receive (hnext : traffic.receive id = some next) : next.raised = traffic.raised := by
  revert hnext
  fun_cases Traffic.receive <;> rintro ⟨⟩
  · exact raised_finish ..
  · rfl
  · rfl
  · exact raised_finish ..

theorem raised_resume (hnext : traffic.resume id = some next) : next.raised = traffic.raised := by
  revert hnext
  fun_cases Traffic.resume <;> rintro ⟨⟩
  · exact raised_finish ..
  · rfl

theorem raised_abort {exc : Exc} (hnext : traffic.abort id exc = some next) :
    next.raised = traffic.raised := by
  revert hnext
  fun_cases Traffic.abort <;> rintro ⟨⟩
  · rfl
  · exact raised_finish ..
  · exact raised_finish ..

theorem raised_deliver {source target : String}
    (hnext : traffic.deliver source target = some next) : next.raised = traffic.raised := by
  unfold deliver at hnext
  split at hnext
  · cases hnext
  · simp only at hnext
    split at hnext <;> obtain rfl := Option.some.inj hnext <;> rfl

theorem raised_drain {readable : Bool} (hnext : traffic.drain id readable = some next) :
    next.raised = traffic.raised := by
  revert hnext
  fun_cases Traffic.drain <;> rintro ⟨⟩
  rfl

theorem raised_callback {decodes : Bool} (hnext : traffic.callback id decodes = some next) :
    next.raised = traffic.raised := by
  revert hnext
  fun_cases Traffic.callback <;> rintro ⟨⟩
  rfl

theorem raised_credit (caller : Option CallId) (reply : Reply Value) :
    (traffic.credit caller reply).raised = traffic.raised := by
  cases caller <;> rfl

def awaits (traffic : Traffic Msg Value) (home : String) (caller : Option CallId) : Bool :=
  caller.all fun id => (traffic.calls[id]?).all fun call => call.node != home || !call.ended

theorem Kept.raised_answer (hkept : traffic.Kept roomy) {home : String} {caller : Option CallId}
    {info : Option MessageMeta} (haddressed : Addressed traffic.ident home caller info)
    (hawaits : traffic.awaits home caller = true) (reply : Reply Value) (failure : Option Exc) :
    (traffic.answer home caller info reply failure).raised = traffic.raised ∨
      ∃ raised, (traffic.answer home caller info reply failure).raised = traffic.raised ++ [raised] ∧
        (∀ name, raised ≠ .noLocalActor name) ∧ (caller.isSome = true → failure.isSome = true) := by
  obtain ⟨known, rfl, ⟨rfl, hnone⟩ | ⟨id, name, rfl, hreplyTo, hasked⟩⟩ := haddressed
  · refine .inr ⟨.noReplyTo, ?_, by simp, by simp⟩
    simp only [Traffic.answer, hnone]
    rfl
  obtain ⟨call, hcall, hnode, _, hregistered, _⟩ := hkept.of_asked hasked
  simp only [Traffic.answer, hreplyTo]
  split
  next hlocal =>
    left
    have hended : call.ended = false := by
      simpa [awaits, hcall, hnode, hlocal] using hawaits
    rw [Traffic.sendLocal, ← hlocal, hregistered hended]
    exact raised_credit (some id) reply
  next hremote =>
    cases failure with
    | none => exact .inl (raised_credit (some id) reply)
    | some exc => exact .inr ⟨.sendFailed exc, rfl, by simp, by simp⟩

end Traffic

namespace System

variable {system next : System pools Value}

/-- A handler replies to a call on its own node only before that call has ended. -/
def timely (system : System pools Value) : Action pools Value → Bool
  | .reply index _ _ =>
      (system.requests[index]?).all fun request =>
        system.traffic.awaits request.home request.message.call
  | .workerReply id index _ _ =>
      (system.replier id index).all fun (message, _) =>
        system.traffic.awaits (pools.home id) message.call
  | _ => true

/-- A handler replies to the message of a call, and is connected to the node of the call if that is another one. -/
def repliesToCall (system : System pools Value) : Action pools Value → Bool
  | .reply index _ failure =>
      (system.requests[index]?).any (·.message.call.isSome) && failure.isNone
  | .workerReply id index _ failure =>
      (system.replier id index).any (·.1.call.isSome) && failure.isNone
  | _ => false

/-- No handler has been told that the mailbox it replies to is gone. -/
def Spared (system : System pools Value) : Prop :=
  ∀ raised ∈ system.traffic.raised, ∀ name, raised ≠ .noLocalActor name

theorem raised_step (hkept : system.Kept False) {action : Action pools Value}
    (htimely : system.timely action = true) (hstep : system.step action = some next) :
    next.traffic.raised = system.traffic.raised ∨
      ∃ raised, next.traffic.raised = system.traffic.raised ++ [raised] ∧
        (∀ name, raised ≠ .noLocalActor name) ∧ system.repliesToCall action = false := by
  -- Only replies raise anything.
  have htraffic {later : Option (Traffic Msg Value)}
      (hlater : later.map system.withTraffic = some next)
      (hraised : ∀ traffic, later = some traffic → traffic.raised = system.traffic.raised) :
      next.traffic.raised = system.traffic.raised := by
    obtain ⟨traffic, htraffic, rfl⟩ := Option.map_eq_some_iff.mp hlater
    exact hraised traffic htraffic
  cases action with
  | reply index reply failure =>
      obtain ⟨request, hrequest, rfl⟩ := Option.map_eq_some_iff.mp hstep
      have haddressed := hkept.requests request (List.mem_of_getElem? hrequest)
      have hawaits : system.traffic.awaits request.home request.message.call = true := by
        simpa [timely, hrequest] using htimely
      rcases hkept.traffic.raised_answer haddressed hawaits reply failure with
        hsame | ⟨raised, hraised, hkind, hfailed⟩
      · exact .inl hsame
      · refine .inr ⟨raised, hraised, hkind, ?_⟩
        simpa [repliesToCall, hrequest] using hfailed
  | workerReply id index reply failure =>
      obtain ⟨⟨message, info⟩, hreplier, rfl⟩ := Option.map_eq_some_iff.mp hstep
      have hawaits : system.traffic.awaits (pools.home id) message.call = true := by
        simpa [timely, hreplier] using htimely
      rcases hkept.traffic.raised_answer (hkept.replier hreplier) hawaits reply failure with
        hsame | ⟨raised, hraised, hkind, hfailed⟩
      · exact .inl hsame
      · refine .inr ⟨raised, hraised, hkind, ?_⟩
        simpa [repliesToCall, hreplier] using hfailed
  | ask node stream msg | map node items returnExceptions =>
      obtain rfl := Option.some.inj hstep
      exact .inl rfl
  | register id => exact .inl (htraffic hstep fun _ => Traffic.raised_register)
  | send id target msgId raised =>
      left
      simp only [System.step, System.send] at hstep
      split at hstep
      next call traffic _ hsend =>
        obtain rfl := Option.some.inj hstep
        rw [← Traffic.raised_send hsend]
        rcases target with _ | _ | _ <;> rfl
      · cases hstep
  | receive id => exact .inl (htraffic hstep fun _ => Traffic.raised_receive)
  | resume id => exact .inl (htraffic hstep fun _ => Traffic.raised_resume)
  | abort id exc => exact .inl (htraffic hstep fun _ => Traffic.raised_abort)
  | tell msg target src correlationId msgId =>
      obtain rfl := Option.some.inj hstep
      cases target <;> exact .inl rfl
  | dispatch id keying =>
      simp only [System.step] at hstep
      split at hstep
      · cases hstep
      · obtain ⟨pool, _, rfl⟩ := Option.map_eq_some_iff.mp hstep
        exact .inl rfl
  | work id index input =>
      obtain ⟨pool, _, rfl⟩ := Option.map_eq_some_iff.mp hstep
      exact .inl rfl
  | deliver source target => exact .inl (htraffic hstep fun _ => Traffic.raised_deliver)
  | drain id readable => exact .inl (htraffic hstep fun _ => Traffic.raised_drain)
  | callback id decodes => exact .inl (htraffic hstep fun _ => Traffic.raised_callback)
  | registerActor node name | unregisterActor node name =>
      simp only [System.step, Option.ite_none_right_eq_some, Option.some.injEq] at hstep
      obtain ⟨_, rfl⟩ := hstep
      exact .inl rfl

/-- No handler is told that the mailbox it replies to is gone, and one that replies to a call goes on alike whether the asker is on its own node or on another. -/
theorem reply_never_finds_mailbox_gone {system : System pools Value}
    (hreach : Machine.ReachableWhere step (fun system action => system.timely action = true) {}
      system) :
    system.Spared ∧
    ∀ action next, system.timely action = true → system.repliesToCall action = true →
      system.step action = some next → next.traffic.raised = system.traffic.raised := by
  have hkept {system : System pools Value} (hreach : Machine.ReachableWhere step
      (fun system action => system.timely action = true) {} system) : system.Kept False :=
    kept_of_reachable (fun _ _ _ hfalse => hfalse.elim) hreach
  constructor
  · refine hreach.invariant_of_reachable (by simp [Spared]) ?_
    intro system action next hbefore hspared htimely hstep
    rcases raised_step (hkept hbefore) htimely hstep with hsame | ⟨raised, hnew, hkind, _⟩
    · rwa [Spared, hsame]
    · intro entry hentry
      rw [hnew] at hentry
      rcases List.mem_append.mp hentry with hbefore | hlast
      · exact hspared entry hbefore
      · exact List.mem_singleton.mp hlast ▸ hkind
  · intro action next htimely hreply hstep
    rcases raised_step (hkept hreach) htimely hstep with hsame | ⟨_, _, _, hfalse⟩
    · exact hsame
    · simp [hreply] at hfalse

end System

/-- A call on the first node times out, and then the actor it has asked, on the node `home`, replies. -/
def Fixed.late (home : String) : List Fixed.Step :=
  .ask "a@h:1" false 7 :: Fixed.asks 0 (.actor home) ++
    [.abort 0 ⟨"TimeoutError", ""⟩, .reply 0 (.plain 1) none]

namespace System

theorem reply_never_finds_mailbox_gone_remote : ∃ system : System Fixed.twoPools Nat,
    Machine.ReachableWhere step (fun system action => system.timely action = true) {} system ∧
    system.traffic.calls.map (fun call => (call.ended, call.made)) = [(true, [.plain 1])] ∧
    system.Spared := by
  have hrun : (Machine.runWhere step (fun system action => system.timely action = true)
      ({} : System Fixed.twoPools Nat) (Fixed.late "b@h:2")).map
        (·.traffic.calls.map fun call => (call.ended, call.made)) =
      some [(true, [.plain 1])] := by decide +kernel
  obtain ⟨system, hreach, hobserved⟩ := Machine.exists_reachableWhere hrun
  exact ⟨system, hreach, hobserved, (reply_never_finds_mailbox_gone hreach).1⟩

/-- The late reply that goes unnoticed on another node is raised into the handler on the asker's own. -/
theorem late_reply_raises :
    (∃ system : System Fixed.twoPools Nat, Machine.Reachable step {} system ∧
      system.traffic.raised = [.noLocalActor "__lapinbeam_ask_1__"]) ∧
    (Machine.run step ({} : System Fixed.twoPools Nat) (Fixed.late "b@h:2")).map (·.traffic.raised) =
      some [] := by
  have hrun : (Machine.runWhere step (fun _ _ => True) ({} : System Fixed.twoPools Nat)
      (Fixed.late "a@h:1")).map (·.traffic.raised) =
      some [.noLocalActor "__lapinbeam_ask_1__"] := by decide +kernel
  exact ⟨Machine.exists_reachableWhere hrun, by decide +kernel⟩

end System

end LapinBeam.Ask
