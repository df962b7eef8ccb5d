import LapinBeam.Actor.Stretch

/-!
# What an effect leaves alone

Frame lemmas for the shared state. Sends and signals touch mailboxes, tables and logs, and at most
kill one generation (`Signalled`); apart from that only a spawn, a respawn, a launch and a cleanup
change a child's record or a name, and nothing but a task's own move changes what it awaits.
-/

namespace LapinBeam.Actor

open Asyncio (TaskId Await Loop)

def Delivery.exitTarget : Delivery → Option String
  | .exit _ target _ => some target
  | _ => none

def PeerMessage.exitTarget : PeerMessage → Option String
  | .exit target _ _ _ => some target
  | _ => none

namespace Runtime

variable {runtime : Runtime}

def Quiet (before after : Runtime) : Prop :=
  ∃ mailboxes signals events outbox,
    after = { before with
      mailboxes := mailboxes, signals := signals, events := events, outbox := outbox }

/-- The node after a send or a signal; an exit signal is aimed at a name. -/
inductive Signalled (before : Runtime) (aim : Option String) : Runtime → Prop
  | quiet {after} (hquiet : Quiet before after) : Signalled before aim after
  | kill {after target child driver exc} (haim : aim = some target)
      (hvictim : before.victim target = some (child, driver))
      (hquiet : Quiet (before.kill child driver exc) after) : Signalled before aim after

theorem Quiet.refl (runtime : Runtime) : Quiet runtime runtime := ⟨_, _, _, _, rfl⟩

theorem Quiet.trans {first second third : Runtime} (hfirst : Quiet first second)
    (hsecond : Quiet second third) : Quiet first third := by
  obtain ⟨_, _, _, _, rfl⟩ := hfirst
  obtain ⟨_, _, _, _, rfl⟩ := hsecond
  exact ⟨_, _, _, _, rfl⟩

theorem quiet_sendLocal (name : String) (msg : Message) :
    Quiet runtime (runtime.sendLocal name msg) := by
  unfold sendLocal
  split
  · exact .refl _
  · split <;> exact ⟨_, _, _, _, rfl⟩

theorem quiet_post (peer : String) (msg : PeerMessage) :
    Quiet runtime (runtime.post peer msg) := ⟨_, _, _, _, rfl⟩

theorem quiet_deliverDown (ref : Ref) (actorLabel reason : String) :
    Quiet runtime (runtime.deliverDown ref actorLabel reason) := by
  unfold deliverDown
  split
  · exact .refl _
  · exact Quiet.trans ⟨_, _, _, _, rfl⟩ (quiet_sendLocal _ _)

theorem signalled_deliverExit (fromLabel target reason : String) :
    Signalled runtime (some target) (runtime.deliverExit fromLabel target reason) := by
  unfold deliverExit
  split
  · exact .quiet (quiet_sendLocal _ _)
  · split
    · exact .quiet (.refl _)
    · exact .kill rfl ‹_› (.refl _)

theorem Signalled.of_signals (signals : Signals) {aim : Option String} {after : Runtime}
    (htrap : signals.trapExit = runtime.signals.trapExit)
    (hsignalled : Signalled { runtime with signals } aim after) : Signalled runtime aim after := by
  cases hsignalled with
  | quiet hquiet => exact .quiet (Quiet.trans ⟨_, _, _, _, rfl⟩ hquiet)
  | @kill target child driver exc haim hvictim hquiet =>
      have hsame : runtime.victim target = some (child, driver) := by
        rw [← hvictim]
        simp only [victim, htrap]
        rfl
      exact .kill haim hsame (Quiet.trans ⟨_, _, _, _, rfl⟩ hquiet)

theorem signalled_deliver (delivery : Delivery) :
    Signalled runtime delivery.exitTarget (runtime.deliver delivery) := by
  cases delivery with
  | exit source target reason => exact signalled_deliverExit _ _ _
  | down ref actor reason => exact .quiet (quiet_deliverDown _ _ _)
  | remoteExit peer target actor reason | remoteDown peer ref actor reason =>
      exact .quiet (quiet_post _ _)

theorem signalled_link (me : String) (other : Address) :
    Signalled runtime
      (if other.node = none ∧ runtime.names other.name = none then some me else none)
      (runtime.link me other) := by
  cases hnode : other.node with
  | some peer =>
      simp only [link, hnode]
      exact .quiet (Quiet.trans ⟨_, _, _, _, rfl⟩ (quiet_post _ _))
  | none =>
      cases hname : runtime.names other.name with
      | some owner =>
          simp only [link, hnode, hname]
          exact .quiet ⟨_, _, _, _, rfl⟩
      | none =>
          simp only [link, hnode, hname, and_self, ↓reduceIte]
          exact Signalled.of_signals
            ((runtime.signals.addLink me other).addLink other.name ⟨none, me⟩)
            rfl (signalled_deliverExit _ _ _)

theorem quiet_unlink (me : String) (other : Address) :
    Quiet runtime (runtime.unlink me other) := by
  simp only [unlink]
  split
  · exact ⟨_, _, _, _, rfl⟩
  · exact Quiet.trans ⟨_, _, _, _, rfl⟩ (quiet_post _ _)

theorem quiet_monitor (me : String) (other : Address) (ref : Ref) :
    Quiet runtime (runtime.monitor me other ref) := by
  simp only [monitor]
  split
  · split
    · exact Quiet.trans ⟨_, _, _, _, rfl⟩ (quiet_deliverDown _ _ _)
    · exact ⟨_, _, _, _, rfl⟩
  · exact Quiet.trans ⟨_, _, _, _, rfl⟩ (quiet_post _ _)

theorem quiet_demonitor (ref : Ref) : Quiet runtime (runtime.demonitor ref) := by
  simp only [demonitor]
  split
  · exact .refl _
  · split
    · exact ⟨_, _, _, _, rfl⟩
    · exact Quiet.trans ⟨_, _, _, _, rfl⟩ (quiet_post _ _)

theorem signalled_receive (msg : PeerMessage) :
    Signalled runtime msg.exitTarget (runtime.receive msg) := by
  cases msg with
  | link | monitor =>
      simp only [receive]
      split
      · exact .quiet (Quiet.trans ⟨_, _, _, _, rfl⟩ (quiet_post _ _))
      · exact .quiet ⟨_, _, _, _, rfl⟩
  | unlink | demonitor => exact .quiet ⟨_, _, _, _, rfl⟩
  | exit target actor reason fromNode => exact signalled_deliverExit _ _ _
  | down ref actor reason fromNode => exact .quiet (quiet_deliverDown _ _ _)

end Runtime

def Effect.signals : Effect → Bool
  | .skip | .dequeue _ | .deliver _ | .sendLocal _ _ | .trapExit _ _ | .link _ _ | .unlink _ _
  | .monitor _ _ _ | .demonitor _ | .receive _ | .forgetPeer _ => true
  | _ => false

/-- Whom an effect aims an exit signal at; a link to an absent actor comes back at once. -/
def Effect.exitTarget (runtime : Runtime) : Effect → Option String
  | .deliver signal => signal.exitTarget
  | .link me other =>
      if other.node = none ∧ runtime.names other.name = none then some me else none
  | .receive msg => msg.exitTarget
  | _ => none

theorem Effect.signalled {effect : Effect} (hsignals : effect.signals = true) (runtime : Runtime) :
    runtime.Signalled (effect.exitTarget runtime) (effect.apply runtime) := by
  cases effect with
  | skip => exact .quiet (.refl _)
  | dequeue | trapExit | forgetPeer => exact .quiet ⟨_, _, _, _, rfl⟩
  | deliver delivery => exact Runtime.signalled_deliver _
  | sendLocal name msg => exact .quiet (Runtime.quiet_sendLocal _ _)
  | link me other => exact Runtime.signalled_link _ _
  | unlink me other => exact .quiet (Runtime.quiet_unlink _ _)
  | monitor me other ref => exact .quiet (Runtime.quiet_monitor _ _ _)
  | demonitor ref => exact .quiet (Runtime.quiet_demonitor _)
  | receive msg => exact Runtime.signalled_receive _
  | _ => cases hsignals

/-- The effects of the calls that create neither tasks nor cancellations. -/
def Effect.plain : Effect → Bool
  | .newSupervisor _ => true
  | effect => effect.signals

theorem Call.plain_effect {call : Call} {runtime : Runtime} {effect : Effect}
    (hplain : call.plain = true) (hcall : call.move runtime = some ⟨effect, .outside [], []⟩) :
    effect.plain = true := by
  cases call with
  | spawn | spawnSupervisor | shutdown | stop | stopped | cancelTask | disconnected => cases hplain
  | _ =>
      cases hcall
      rfl

def Runtime.Booked (before after : Runtime) : Prop :=
  ∃ supervisors events clock,
    after = { before with supervisors := supervisors, events := events, clock := clock }

def Effect.books : Effect → Bool
  | .decide _ _ | .denied _ _ | .giveUp _ _ | .discard _ => true
  | _ => false

theorem Effect.booked {effect : Effect} (hbooks : effect.books = true) (runtime : Runtime) :
    runtime.Booked (effect.apply runtime) := by
  cases effect with
  | decide child now => exact ⟨_, _, _, rfl⟩
  | giveUp child exc => exact ⟨_, _, _, rfl⟩
  | discard child => exact ⟨_, _, _, rfl⟩
  | denied child exc =>
      simp only [Effect.apply, Runtime.denied]
      split
      · split <;> exact ⟨_, _, _, rfl⟩
      · exact ⟨_, _, _, rfl⟩
  | _ => cases hbooks

/-- The node after an effect: sends, signals and entries in the books leave most of it alone. -/
inductive Effect.Applied (runtime : Runtime) (effect : Effect) : Runtime → Prop
  | kept {mailboxes signals events outbox supervisors clock} :
      Applied runtime effect
        { runtime with mailboxes, signals, events, outbox, supervisors, clock }
  | kill {mailboxes signals events outbox target child driver exc}
      (haim : effect.exitTarget runtime = some target)
      (hvictim : runtime.victim target = some (child, driver)) :
      Applied runtime effect
        { runtime.kill child driver exc with mailboxes, signals, events, outbox }
  | acts (hacts : (effect.signals || effect.books) = false) :
      Applied runtime effect (effect.apply runtime)

theorem Effect.applied (effect : Effect) (runtime : Runtime) :
    effect.Applied runtime (effect.apply runtime) := by
  cases hsignals : effect.signals with
  | true =>
      cases Effect.signalled hsignals runtime with
      | quiet hquiet =>
          obtain ⟨_, _, _, _, heq⟩ := hquiet
          exact heq ▸ .kept
      | kill haim hvictim hquiet =>
          obtain ⟨_, _, _, _, heq⟩ := hquiet
          exact heq ▸ .kill haim hvictim
  | false =>
      cases hbooks : effect.books with
      | true =>
          obtain ⟨_, _, _, heq⟩ := Effect.booked hbooks runtime
          exact heq ▸ .kept
      | false => exact .acts (by rw [hsignals, hbooks]; rfl)

theorem Runtime.children_spawn (runtime : Runtime) (supervisor : SupervisorId) (name : String)
    (kind : ChildKind) :
    (runtime.spawn supervisor name kind).children = Function.update runtime.children
      runtime.nextChild { supervisor, name, kind, task := runtime.nextTask } := by
  cases kind <;> rfl

theorem Runtime.supervisors_spawn (runtime : Runtime) (supervisor : SupervisorId) (name : String)
    (kind : ChildKind) :
    (runtime.spawn supervisor name kind).supervisors = Function.update runtime.supervisors supervisor
      { runtime.supervisors supervisor with
        children := (runtime.supervisors supervisor).children ++ [runtime.nextChild] } := by
  cases kind <;> rfl

section Frame

variable (effect : Effect) (runtime : Runtime)

theorem Effect.loop_apply :
    (effect.apply runtime).nextTask = runtime.nextTask ∧
    (effect.apply runtime).running = runtime.running ∧
    ((effect.apply runtime).loop = runtime.loop ∨
      ∃ task, (effect.apply runtime).loop = runtime.loop.cancel runtime.nextTask task) := by
  have happlied := effect.applied runtime
  generalize effect.apply runtime = after at happlied ⊢
  cases happlied with
  | kept => exact ⟨rfl, rfl, .inl rfl⟩
  | kill => exact ⟨rfl, rfl, .inr ⟨_, rfl⟩⟩
  | acts hacts =>
      cases effect with
      | cancel task => exact ⟨rfl, rfl, .inr ⟨task, rfl⟩⟩
      | cleanup child takeExit => cases takeExit <;> exact ⟨rfl, rfl, .inl rfl⟩
      | spawn supervisor name kind => cases kind <;> exact ⟨rfl, rfl, .inl rfl⟩
      | _ => first | (cases hacts; done) | exact ⟨rfl, rfl, .inl rfl⟩

theorem Effect.await_apply (task : TaskId) :
    ((effect.apply runtime).loop task).await = (runtime.loop task).await := by
  rcases (Effect.loop_apply effect runtime).2.2 with heq | ⟨other, heq⟩
  · rw [heq]
  · rw [heq, Loop.await_cancel]

structure SameChild (before after : Child) : Prop where
  name : after.name = before.name
  kind : after.kind = before.kind
  supervisor : after.supervisor = before.supervisor

theorem SameChild.trans {first second third : Child} (hfirst : SameChild first second)
    (hsecond : SameChild second third) : SameChild first third :=
  ⟨hsecond.name.trans hfirst.name, hsecond.kind.trans hfirst.kind,
    hsecond.supervisor.trans hfirst.supervisor⟩

inductive RecordChange (runtime : Runtime) (child : ChildId) : Effect → Child → Prop
  | same {effect : Effect} : RecordChange runtime child effect (runtime.children child)
  | killed {effect : Effect} {target driver exc} (haim : effect.exitTarget runtime = some target)
      (hvictim : runtime.victim target = some (child, driver)) :
      RecordChange runtime child effect { runtime.children child with pendingExit := some exc }
  | launched {mailbox driver} :
      RecordChange runtime child (.launch child mailbox driver)
        { runtime.children child with driver := some driver }
  | cleaned : RecordChange runtime child (.cleanup child true)
      { runtime.children child with pendingExit := none }
  | respawned {task driver} :
      RecordChange runtime child (.respawn child task) { runtime.children child with task, driver }
  | nested {nested} :
      RecordChange runtime child (.nest child) { runtime.children child with nested }
  | spawned {supervisor name kind} (hchild : child = runtime.nextChild) :
      RecordChange runtime child (.spawn supervisor name kind)
        { supervisor, name, kind, task := runtime.nextTask }

theorem Effect.record_change (child : ChildId) :
    RecordChange runtime child effect ((effect.apply runtime).children child) := by
  have happlied := effect.applied runtime
  generalize effect.apply runtime = after at happlied ⊢
  cases happlied with
  | kept => exact .same
  | @kill _ _ _ _ _ victim _ _ haim hvictim =>
      by_cases hchild : child = victim
      · subst hchild
        simpa [Runtime.kill, Runtime.setChild, Runtime.cancel] using .killed haim hvictim
      · simpa [Runtime.kill, Runtime.setChild, Runtime.cancel, hchild] using .same
  | acts hacts =>
      cases effect with
      | launch other mailbox driver =>
          by_cases hchild : child = other
          · subst hchild
            simpa [Effect.apply, Runtime.launch, Runtime.setChild] using .launched
          · simpa [Effect.apply, Runtime.launch, Runtime.setChild, Runtime.registerActor, hchild]
              using .same
      | cleanup other takeExit =>
          cases takeExit with
          | false => exact .same
          | true =>
              by_cases hchild : child = other
              · subst hchild
                simpa [Effect.apply, Runtime.cleanup, Runtime.setChild] using .cleaned
              · simpa [Effect.apply, Runtime.cleanup, Runtime.setChild, Runtime.unregisterActor,
                  hchild] using .same
      | respawn other task =>
          by_cases hchild : child = other
          · subst hchild
            simpa [Effect.apply, Runtime.respawn, Runtime.setChild] using .respawned
          · simpa [Effect.apply, Runtime.respawn, Runtime.setChild, hchild] using .same
      | nest other =>
          by_cases hchild : child = other
          · subst hchild
            simpa [Effect.apply, Runtime.nest, Runtime.setChild] using .nested
          · simpa [Effect.apply, Runtime.nest, Runtime.setChild, Runtime.setSupervisor, hchild]
              using .same
      | spawn supervisor name kind =>
          by_cases hchild : child = runtime.nextChild
          · subst hchild
            simpa [Effect.apply, Runtime.children_spawn] using .spawned rfl
          · simpa [Effect.apply, Runtime.children_spawn, hchild] using .same
      | _ => first | (cases hacts; done) | exact .same

theorem Effect.child_cases (child : ChildId) :
    (SameChild (runtime.children child) ((effect.apply runtime).children child) ∧
      ((effect.apply runtime).children child).task = (runtime.children child).task) ∨
    (∃ task, effect = .respawn child task ∧
      SameChild (runtime.children child) ((effect.apply runtime).children child) ∧
      ((effect.apply runtime).children child).task = task) ∨
    ∃ supervisor name kind, effect = .spawn supervisor name kind ∧ child = runtime.nextChild ∧
      (effect.apply runtime).children child =
        { supervisor, name, kind, task := runtime.nextTask } := by
  have hchange := Effect.record_change effect runtime child
  generalize (effect.apply runtime).children child = after at hchange ⊢
  cases hchange with
  | respawned => exact .inr (.inl ⟨_, rfl, ⟨rfl, rfl, rfl⟩, rfl⟩)
  | spawned hchild => exact .inr (.inr ⟨_, _, _, rfl, hchild, rfl⟩)
  | _ => exact .inl ⟨⟨rfl, rfl, rfl⟩, rfl⟩

theorem Effect.driver_cases (child : ChildId) :
    ((effect.apply runtime).children child).driver = (runtime.children child).driver ∨
    (∃ mailbox driver, effect = .launch child mailbox driver) ∨
    (∃ task, effect = .respawn child task) ∨
    ∃ supervisor name kind, effect = .spawn supervisor name kind ∧ child = runtime.nextChild := by
  have hchange := Effect.record_change effect runtime child
  generalize (effect.apply runtime).children child = after at hchange ⊢
  cases hchange with
  | launched => exact .inr (.inl ⟨_, _, rfl⟩)
  | respawned => exact .inr (.inr (.inl ⟨_, rfl⟩))
  | spawned hchild => exact .inr (.inr (.inr ⟨_, _, _, rfl, hchild⟩))
  | _ => exact .inl rfl

theorem Effect.nested_cases (child : ChildId) :
    ((effect.apply runtime).children child).nested = (runtime.children child).nested ∨
    effect = .nest child ∨
    ∃ supervisor name kind, effect = .spawn supervisor name kind ∧ child = runtime.nextChild := by
  have hchange := Effect.record_change effect runtime child
  generalize (effect.apply runtime).children child = after at hchange ⊢
  cases hchange with
  | nested => exact .inr (.inl rfl)
  | spawned hchild => exact .inr (.inr ⟨_, _, _, rfl, hchild⟩)
  | _ => exact .inl rfl

theorem Effect.pendingExit_cases (child : ChildId)
    (hnone : (runtime.children child).pendingExit = none) :
    ((effect.apply runtime).children child).pendingExit = none ∨
    ∃ target driver, effect.exitTarget runtime = some target ∧
      runtime.victim target = some (child, driver) := by
  have hchange := Effect.record_change effect runtime child
  generalize (effect.apply runtime).children child = after at hchange ⊢
  cases hchange with
  | killed haim hvictim => exact .inr ⟨_, _, haim, hvictim⟩
  | cleaned | spawned => exact .inl rfl
  | _ => exact .inl hnone

theorem Effect.nextChild_apply :
    (effect.apply runtime).nextChild = runtime.nextChild ∨
      ∃ supervisor name kind, effect = .spawn supervisor name kind ∧
        (effect.apply runtime).nextChild = runtime.nextChild + 1 := by
  have happlied := effect.applied runtime
  generalize effect.apply runtime = after at happlied ⊢
  cases happlied with
  | kept | kill => exact .inl rfl
  | acts hacts =>
      cases effect with
      | cleanup child takeExit => cases takeExit <;> exact .inl rfl
      | spawn supervisor name kind =>
          exact .inr ⟨supervisor, name, kind, rfl, by cases kind <;> rfl⟩
      | _ => first | (cases hacts; done) | exact .inl rfl

inductive SupervisorChange (runtime : Runtime) (id : SupervisorId) : Effect → Supervisor → Prop
  | same {effect : Effect} : SupervisorChange runtime id effect (runtime.supervisors id)
  | decided {child now restartTimes decisions} (hid : id = (runtime.children child).supervisor) :
      SupervisorChange runtime id (.decide child now)
        { runtime.supervisors id with restartTimes, decisions }
  | gaveUp {child exc} (hid : id = (runtime.children child).supervisor) :
      SupervisorChange runtime id (.giveUp child exc)
        { runtime.supervisors id with giveUpExc := some exc }
  | discarded {child} :
      SupervisorChange runtime id (.discard child)
        { runtime.supervisors id with children := (runtime.supervisors id).children.erase child }
  | denied {child exc giveUpExc} (hid : id = (runtime.children child).supervisor)
      (hstrategy : (runtime.supervisors id).settings.strategy = .oneForOne)
      (hgiveUp : giveUpExc = (runtime.supervisors id).giveUpExc ∨
        (runtime.supervisors id).children.erase child = []) :
      SupervisorChange runtime id (.denied child exc)
        { runtime.supervisors id with
          children := (runtime.supervisors id).children.erase child, giveUpExc }
  | created {effect : Effect} {settings} (hid : id = runtime.nextSupervisor) :
      SupervisorChange runtime id effect { settings }
  | spawned {name kind} :
      SupervisorChange runtime id (.spawn id name kind)
        { runtime.supervisors id with
          children := (runtime.supervisors id).children ++ [runtime.nextChild] }

theorem Effect.supervisor_change_denied (child : ChildId) (exc : Exc) (id : SupervisorId) :
    SupervisorChange runtime id (.denied child exc) ((runtime.denied child exc).supervisors id) := by
  by_cases hid : id = (runtime.children child).supervisor
  · simp only [Runtime.denied]
    split
    · rename_i hstrategy
      simp only [Runtime.supervisorOf, ← hid] at hstrategy
      split
      · rename_i hlast
        simp only [Runtime.discardChild, Runtime.giveUp, Runtime.updateSupervisorOf,
          Runtime.setSupervisor, Runtime.supervisorOf, ← hid, Function.update_self] at hlast ⊢
        exact .denied hid hstrategy (.inr hlast)
      · simp only [Runtime.discardChild, Runtime.updateSupervisorOf, Runtime.setSupervisor,
          Runtime.supervisorOf, ← hid, Function.update_self]
        exact .denied hid hstrategy (.inl rfl)
    · exact .same
  · simp only [Runtime.denied]
    split
    · split <;>
        simpa [Runtime.discardChild, Runtime.giveUp, Runtime.updateSupervisorOf,
          Runtime.setSupervisor, hid] using .same
    · exact .same

theorem Effect.supervisor_change (id : SupervisorId) :
    SupervisorChange runtime id effect ((effect.apply runtime).supervisors id) := by
  cases hsignals : effect.signals with
  | true =>
      cases Effect.signalled hsignals runtime with
      | quiet hquiet | kill _ _ hquiet =>
          obtain ⟨_, _, _, _, heq⟩ := hquiet
          rw [heq]
          exact .same
  | false =>
      cases effect with
      | decide child now =>
          by_cases hid : id = (runtime.children child).supervisor
          · subst hid
            simpa [Effect.apply, Runtime.decideRestart, Runtime.updateSupervisorOf,
              Runtime.setSupervisor] using .decided rfl
          · simpa [Effect.apply, Runtime.decideRestart, Runtime.updateSupervisorOf,
              Runtime.setSupervisor, hid] using .same
      | giveUp child exc =>
          by_cases hid : id = (runtime.children child).supervisor
          · subst hid
            simpa [Effect.apply, Runtime.giveUp, Runtime.updateSupervisorOf,
              Runtime.setSupervisor] using .gaveUp rfl
          · simpa [Effect.apply, Runtime.giveUp, Runtime.updateSupervisorOf,
              Runtime.setSupervisor, hid] using .same
      | discard child =>
          by_cases hid : id = (runtime.children child).supervisor
          · subst hid
            simpa [Effect.apply, Runtime.discardChild, Runtime.updateSupervisorOf,
              Runtime.setSupervisor] using .discarded
          · simpa [Effect.apply, Runtime.discardChild, Runtime.updateSupervisorOf,
              Runtime.setSupervisor, hid] using .same
      | denied child exc => exact Effect.supervisor_change_denied runtime child exc id
      | nest child =>
          by_cases hid : id = runtime.nextSupervisor
          · simpa [Effect.apply, Runtime.nest, Runtime.setSupervisor, Runtime.setChild, ← hid]
              using .created hid
          · simpa [Effect.apply, Runtime.nest, Runtime.setSupervisor, Runtime.setChild, hid]
              using .same
      | newSupervisor settings =>
          by_cases hid : id = runtime.nextSupervisor
          · simpa [Effect.apply, Runtime.setSupervisor, ← hid] using .created hid
          · simpa [Effect.apply, Runtime.setSupervisor, hid] using .same
      | spawn other name kind =>
          by_cases hid : id = other
          · subst hid
            simpa [Effect.apply, Runtime.supervisors_spawn] using .spawned
          · simpa [Effect.apply, Runtime.supervisors_spawn, hid] using .same
      | cleanup child takeExit => cases takeExit <;> exact .same
      | _ => first | (cases hsignals; done) | exact .same

theorem Effect.listed_apply {supervisor : SupervisorId} {child : ChildId}
    (hlisted : child ∈ ((effect.apply runtime).supervisors supervisor).children) :
    child ∈ (runtime.supervisors supervisor).children ∨
      ∃ name kind, effect = .spawn supervisor name kind ∧ child = runtime.nextChild := by
  have hchange := Effect.supervisor_change effect runtime supervisor
  generalize (effect.apply runtime).supervisors supervisor = after at hchange hlisted
  cases hchange with
  | discarded | denied => exact .inl (List.mem_of_mem_erase hlisted)
  | created => cases hlisted
  | spawned =>
      rcases List.mem_append.mp hlisted with hold | hnew
      · exact .inl hold
      · exact .inr ⟨_, _, rfl, List.mem_singleton.mp hnew⟩
  | _ => exact .inl hlisted

theorem Effect.names_cases (name : String) :
    (effect.apply runtime).names name = runtime.names name ∨
    (∃ child mailbox driver, effect = .launch child mailbox driver ∧
      name = (runtime.children child).name ∧ (effect.apply runtime).names name = some mailbox) ∨
    (∃ child takeExit, effect = .cleanup child takeExit ∧ name = (runtime.children child).name ∧
      (effect.apply runtime).names name = none) ∨
    (∃ supervisor mailbox, effect = .spawn supervisor name (.actor mailbox) ∧
      (effect.apply runtime).names name = some mailbox) ∨
    effect = .stopped ∧ (effect.apply runtime).names name = none := by
  have happlied := effect.applied runtime
  generalize effect.apply runtime = after at happlied ⊢
  cases happlied with
  | kept | kill => exact .inl rfl
  | acts hacts =>
      cases effect with
      | launch child mailbox driver =>
          by_cases hname : name = (runtime.children child).name
          · exact .inr (.inl ⟨_, _, _, rfl, hname, by
              simp [Effect.apply, Runtime.launch, Runtime.registerActor, Runtime.setChild, hname]⟩)
          · exact .inl (by
              simp [Effect.apply, Runtime.launch, Runtime.registerActor, Runtime.setChild, hname])
      | cleanup child takeExit =>
          by_cases hname : name = (runtime.children child).name
          · refine .inr (.inr (.inl ⟨_, _, rfl, hname, ?_⟩))
            cases takeExit <;>
              simp [Effect.apply, Runtime.cleanup, Runtime.unregisterActor, Runtime.setChild, hname]
          · left
            cases takeExit <;>
              simp [Effect.apply, Runtime.cleanup, Runtime.unregisterActor, Runtime.setChild, hname]
      | spawn supervisor other kind =>
          cases kind with
          | supervisor settings => exact .inl rfl
          | actor mailbox =>
              by_cases hname : name = other
              · subst hname
                exact .inr (.inr (.inr (.inl ⟨_, _, rfl, by
                  simp [Effect.apply, Runtime.spawn, Runtime.registerActor]⟩)))
              · exact .inl (by
                  simp [Effect.apply, Runtime.spawn, Runtime.registerActor, Runtime.setChild,
                    Runtime.setSupervisor, hname])
      | stopped => exact .inr (.inr (.inr (.inr ⟨rfl, rfl⟩)))
      | _ => first | (cases hacts; done) | exact .inl rfl

end Frame

end LapinBeam.Actor
