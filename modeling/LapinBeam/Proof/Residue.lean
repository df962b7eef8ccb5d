import LapinBeam.Proof.Monitors

/-!
# Links and monitors of absent actors

`link` and `monitor` record their entry under the name of the other actor before they look whether
it exists, and so do the reserved actors for a request of another node. The `noproc` that is the
answer does not take the entry out again, so it stays for whoever is spawned under the name next. As
long as requests are for actors that are there, a name that is not registered has no entries: the
end of a generation takes them out together with the name.
-/

namespace LapinBeam.Actor

open Asyncio (TaskId)

inductive Entry
  | link (name : String) (source : Address)
  | monitor (name : String) (ref : Ref) (watcher : Address)
deriving DecidableEq

def Entry.name : Entry → String
  | .link name _ => name
  | .monitor name _ _ => name

def Entry.recorded (signals : Signals) : Entry → Prop
  | .link name source => source ∈ signals.links name
  | .monitor name ref watcher => (ref, watcher) ∈ signals.monitorWatchers name

def Call.entry (runtime : Runtime) : Call → Option Entry
  | .link me ⟨none, name⟩ => some (.link name ⟨none, (runtime.children me).name⟩)
  | .monitor me ⟨none, name⟩ ref => some (.monitor name ref ⟨none, (runtime.children me).name⟩)
  | .receive (.link source target fromNode) => some (.link target ⟨some fromNode, source⟩)
  | .receive (.monitor ref watcher watcherNode target) =>
      some (.monitor target ref ⟨some watcherNode, watcher⟩)
  | _ => none

/-- A request is for a registered name, and `link` is called by an actor whose own name is. -/
def Call.addressed (runtime : Runtime) (call : Call) : Bool :=
  (call.entry runtime).all (fun entry => (runtime.names entry.name).isSome) &&
    match call with
    | .link me _ => (runtime.names (runtime.children me).name).isSome
    | _ => true

def addressed : Condition
  | ⟨runtime, _⟩, _, .outside [], .call call => call.addressed runtime
  | _, _, _, _ => true

structure Signals.Bare (signals : Signals) (name : String) : Prop where
  links : signals.links name = []
  watchers : signals.monitorWatchers name = []

def Tidy (runtime : Runtime) : Prop :=
  runtime.started = true → ∀ name, runtime.names name = none → runtime.signals.Bare name

section Tables

variable {signals : Signals} {name : String}

section

variable (hbare : signals.Bare name)

include hbare

theorem Signals.Bare.addLink {other : String} (hne : name ≠ other) (target : Address) :
    (signals.addLink other target).Bare name :=
  ⟨by simpa [Signals.addLink, Function.update_of_ne hne] using hbare.links, hbare.watchers⟩

theorem Signals.Bare.addWatcher {other : String} (hne : name ≠ other) (ref : Ref)
    (watcher : Address) : (signals.addWatcher other ref watcher).Bare name :=
  ⟨hbare.links, by simpa [Signals.addWatcher, Function.update_of_ne hne] using hbare.watchers⟩

theorem Signals.Bare.dropLink (other : String) (target : Address) :
    (signals.dropLink other target).Bare name := by
  refine ⟨?_, hbare.watchers⟩
  by_cases heq : name = other
  · subst heq
    simp [Signals.dropLink, hbare.links]
  · simpa [Signals.dropLink, Function.update_of_ne heq] using hbare.links

theorem Signals.Bare.dropWatcher (other : String) (ref : Ref) :
    (signals.dropWatcher other ref).Bare name := by
  refine ⟨hbare.links, ?_⟩
  by_cases heq : name = other
  · subst heq
    simp [Signals.dropWatcher, hbare.watchers]
  · simpa [Signals.dropWatcher, Function.update_of_ne heq] using hbare.watchers

theorem Signals.Bare.forgetPeer (peer : String) : (signals.forgetPeer peer).Bare name :=
  ⟨by simp [Signals.forgetPeer, hbare.links], by simp [Signals.forgetPeer, hbare.watchers]⟩

theorem Signals.Bare.clear (other : String) : (signals.clear other).Bare name := by
  by_cases heq : name = other
  · subst heq
    exact ⟨by simp [Signals.clear], by simp [Signals.clear]⟩
  · exact ⟨by simpa [Signals.clear, Function.update_of_ne heq] using hbare.links,
      by simpa [Signals.clear, Function.update_of_ne heq] using hbare.watchers⟩

end

theorem Signals.bare_clear (signals : Signals) (name : String) : (signals.clear name).Bare name :=
  ⟨by simp [Signals.clear], by simp [Signals.clear]⟩

end Tables

section Signals

variable {runtime : Runtime} {name : String}

theorem Runtime.signals_deliverExit (runtime : Runtime) (fromLabel target reason : String) :
    (runtime.deliverExit fromLabel target reason).signals = runtime.signals := by
  unfold Runtime.deliverExit
  split
  · exact signals_sendLocal _ _ _
  · split <;> rfl

variable (hbare : runtime.signals.Bare name)

include hbare

theorem Runtime.bare_deliverDown (ref : Ref) (actorLabel reason : String) :
    (runtime.deliverDown ref actorLabel reason).signals.Bare name := by
  unfold Runtime.deliverDown
  split
  · exact hbare
  · rw [signals_sendLocal]
    exact ⟨hbare.links, hbare.watchers⟩

theorem Runtime.bare_link {me : String} {other : Address} (hme : name ≠ me)
    (hother : other.node = none → name ≠ other.name) :
    (runtime.link me other).signals.Bare name := by
  have hlinked := hbare.addLink hme other
  simp only [Runtime.link]
  split
  · rename_i hnode
    split
    · rw [signals_deliverExit]
      exact hlinked.addLink (hother hnode) _
    · exact hlinked.addLink (hother hnode) _
  · exact hlinked

theorem Runtime.bare_unlink (me : String) (other : Address) :
    (runtime.unlink me other).signals.Bare name := by
  simp only [Runtime.unlink]
  split
  · exact (hbare.dropLink me other).dropLink _ _
  · exact hbare.dropLink me other

theorem Runtime.bare_monitor {me : String} {other : Address} {ref : Ref}
    (hother : other.node = none → name ≠ other.name) :
    (runtime.monitor me other ref).signals.Bare name := by
  have hmonitored : (runtime.signals.addMonitor ref ⟨me, other⟩).Bare name :=
    ⟨hbare.links, hbare.watchers⟩
  simp only [Runtime.monitor]
  split
  · rename_i hnode
    split
    · exact bare_deliverDown (hmonitored.addWatcher (hother hnode) _ _) _ _ _
    · exact hmonitored.addWatcher (hother hnode) _ _
  · exact hmonitored

theorem Runtime.bare_demonitor (ref : Ref) : (runtime.demonitor ref).signals.Bare name := by
  have hpopped : (runtime.signals.popMonitor ref).Bare name := ⟨hbare.links, hbare.watchers⟩
  simp only [Runtime.demonitor]
  split
  · exact hbare
  · split
    · exact hpopped.dropWatcher _ _
    · exact hpopped

end Signals

section Step

variable {runtime : Runtime} {effect : Effect} {name : String}

def Effect.addressed (runtime : Runtime) : Effect → Prop
  | .link me other => runtime.names me ≠ none ∧
      (other.node = none → runtime.names other.name ≠ none)
  | .monitor _ other _ => other.node = none → runtime.names other.name ≠ none
  | .receive (.link _ target _) => runtime.names target ≠ none
  | .receive (.monitor _ _ _ target) => runtime.names target ≠ none
  | _ => True

theorem Effect.bare_of_signals (hsignals : effect.signals = true)
    (haddressed : effect.addressed runtime) (hname : runtime.names name = none)
    (hbare : runtime.signals.Bare name) : (effect.apply runtime).signals.Bare name := by
  have hne : ∀ {other}, runtime.names other ≠ none → name ≠ other := by
    rintro other hother rfl
    exact hother hname
  cases effect with
  | skip | dequeue => exact hbare
  | trapExit => exact ⟨hbare.links, hbare.watchers⟩
  | forgetPeer peer => exact hbare.forgetPeer peer
  | sendLocal => exact (signals_sendLocal ..).symm ▸ hbare
  | unlink => exact Runtime.bare_unlink hbare _ _
  | demonitor => exact Runtime.bare_demonitor hbare _
  | link me other =>
      exact Runtime.bare_link hbare (hne haddressed.1) fun hnode => hne (haddressed.2 hnode)
  | monitor me other ref =>
      exact Runtime.bare_monitor hbare fun hnode => hne (haddressed hnode)
  | deliver delivery =>
      cases delivery with
      | exit => exact (Runtime.signals_deliverExit ..).symm ▸ hbare
      | down => exact Runtime.bare_deliverDown hbare _ _ _
      | remoteExit | remoteDown => exact hbare
  | receive msg =>
      cases msg with
      | link source target fromNode =>
          simp only [Effect.apply, Runtime.receive]
          split <;> exact hbare.addLink (hne haddressed) _
      | monitor ref watcher watcherNode target =>
          simp only [Effect.apply, Runtime.receive]
          split <;> exact hbare.addWatcher (hne haddressed) _ _
      | unlink => exact hbare.dropLink _ _
      | demonitor => exact hbare.dropWatcher _ _
      | exit => exact (Runtime.signals_deliverExit ..).symm ▸ hbare
      | down => exact Runtime.bare_deliverDown hbare _ _ _
  | _ => cases hsignals

theorem Tidy.of_eq {after : Runtime} (htidy : Tidy runtime)
    (hstarted : after.started = runtime.started) (hnames : after.names = runtime.names)
    (hsignals : after.signals = runtime.signals) : Tidy after := by
  intro hafter name hname
  rw [hsignals]
  exact htidy (hstarted ▸ hafter) name (hnames ▸ hname)

theorem Tidy.apply (htidy : Tidy runtime) (haddressed : effect.addressed runtime) :
    Tidy (effect.apply runtime) := by
  cases hsignals : effect.signals with
  | true =>
      obtain ⟨hstarted, hnames⟩ : (effect.apply runtime).started = runtime.started ∧
          (effect.apply runtime).names = runtime.names := by
        cases Effect.signalled hsignals runtime with
        | quiet hquiet | kill _ _ hquiet =>
            obtain ⟨_, _, _, _, heq⟩ := hquiet; rw [heq]; exact ⟨rfl, rfl⟩
      intro hafter name hname
      rw [hstarted] at hafter
      rw [hnames] at hname
      exact Effect.bare_of_signals hsignals haddressed hname (htidy hafter name hname)
  | false =>
      cases hbooks : effect.books with
      | true =>
          obtain ⟨_, _, _, heq⟩ := Effect.booked hbooks runtime
          rw [heq]
          exact htidy.of_eq rfl rfl rfl
      | false =>
          cases effect with
          | launch child mailbox driver =>
              intro hafter name hname
              by_cases heq : name = (runtime.children child).name
              · simp [Effect.apply, Runtime.launch, Runtime.registerActor, Runtime.setChild,
                  heq] at hname
              · refine htidy hafter name ?_
                simpa [Effect.apply, Runtime.launch, Runtime.registerActor, Runtime.setChild, heq]
                  using hname
          | cleanup child takeExit =>
              intro hafter name hname
              have hcleared : (Effect.apply runtime (.cleanup child takeExit)).signals =
                  runtime.signals.clear (runtime.children child).name := by
                cases takeExit <;> rfl
              rw [hcleared]
              by_cases heq : name = (runtime.children child).name
              · exact heq ▸ Signals.bare_clear _ _
              · have hstarted : runtime.started = true := by cases takeExit <;> exact hafter
                refine (htidy hstarted name ?_).clear _
                cases takeExit <;> simpa [Effect.apply, Runtime.cleanup, Runtime.unregisterActor,
                  Runtime.setChild, heq] using hname
          | spawn supervisor other kind =>
              cases kind with
              | supervisor settings => exact htidy.of_eq rfl rfl rfl
              | actor mailbox =>
                  intro hafter name hname
                  by_cases heq : name = other
                  · simp [Effect.apply, Runtime.spawn, Runtime.registerActor, heq] at hname
                  · refine htidy hafter name ?_
                    simpa [Effect.apply, Runtime.spawn, Runtime.registerActor, Runtime.setChild,
                      Runtime.setSupervisor, heq] using hname
          | stopped =>
              intro hafter
              cases hafter
          | cancel | respawn | nest | newSupervisor | stop => exact htidy.of_eq rfl rfl rfl
          | decide | denied | giveUp | discard => cases hbooks
          | _ => cases hsignals

variable {system : System} {self : TaskId} {input : Input} {frame : Frame} {move : Move}

theorem Call.effect_addressed {call : Call} (hmove : call.move runtime = some move)
    (haddressed : call.addressed runtime = true) : move.effect.addressed runtime := by
  cases call with
  | spawn | spawnSupervisor | cancelTask =>
      simp only [Call.move, Option.ite_none_right_eq_some] at hmove
      cases hmove.2
      trivial
  | stopped =>
      simp only [Call.move] at hmove
      split at hmove
      · split at hmove
        · cases hmove
          trivial
        · cases hmove
      · cases hmove
  | link me other | monitor me other ref =>
      cases hmove
      obtain ⟨node, target⟩ := other
      cases node <;>
        simp_all [Call.addressed, Call.entry, Effect.addressed, Entry.name, Option.isSome_iff_ne_none]
  | receive msg =>
      cases hmove
      cases msg <;>
        simp_all [Call.addressed, Call.entry, Effect.addressed, Entry.name, Option.isSome_iff_ne_none]
  | _ =>
      cases hmove
      trivial

theorem Resumed.effect_addressed (hresumed : Resumed system self input frame move)
    (haddressed : addressed system self frame input = true) :
    move.effect.addressed system.shared := by
  have hmove := hresumed.eq_some
  cases hresumed.stretch with
  | notified => split <;> trivial
  | called =>
      cases input with
      | call call => exact Call.effect_addressed hmove haddressed
      | _ => cases hmove
  | _ => trivial

theorem Effect.signals_of_register (hbefore : runtime.names name = none)
    (hafter : (effect.apply runtime).names name ≠ none) :
    (effect.apply runtime).signals = runtime.signals := by
  rcases Effect.names_cases effect runtime name with
    heq | ⟨child, mailbox, driver, rfl, -, -⟩ | ⟨child, takeExit, -, -, hnone⟩ |
      ⟨supervisor, mailbox, rfl, -⟩ | ⟨-, hnone⟩
  · exact absurd (heq.trans hbefore) hafter
  · rfl
  · exact absurd hnone hafter
  · rfl
  · exact absurd hnone hafter

theorem Call.recorded {call : Call} {entry : Entry} (hentry : call.entry runtime = some entry)
    (hmove : call.move runtime = some move) :
    entry.recorded (move.effect.apply runtime).signals := by
  cases call with
  | link me other =>
      obtain ⟨node, target⟩ := other
      cases node with
      | some peer => cases hentry
      | none =>
          cases hentry
          cases hmove
          simp only [Entry.recorded, Effect.apply, Runtime.link]
          split <;> simp [Runtime.signals_deliverExit, Signals.addLink]
  | monitor me other ref =>
      obtain ⟨node, target⟩ := other
      cases node with
      | some peer => cases hentry
      | none =>
          cases hentry
          cases hmove
          simp only [Entry.recorded, Effect.apply, Runtime.monitor]
          split
          · simp [Runtime.deliverDown, Signals.addMonitor, Signals.addWatcher, Signals.popMonitor]
          · simp [Signals.addMonitor, Signals.addWatcher]
  | receive msg =>
      cases hmove
      cases msg with
      | link source target fromNode =>
          cases hentry
          simp only [Entry.recorded, Effect.apply, Runtime.receive]
          split <;> simp [Runtime.post, Signals.addLink]
      | monitor ref watcher watcherNode target =>
          cases hentry
          simp only [Entry.recorded, Effect.apply, Runtime.receive]
          split <;> simp [Runtime.post, Signals.addWatcher]
      | _ => cases hentry
  | _ => cases hentry

end Step

/-- **Only requests for absent actors leave a residue.** When links and monitors are requested for registered names, nothing stands under a name that is not registered, and whoever is registered under it next starts with nothing. -/
theorem unregistered_names_bare {localId : String} {mailboxCapacity : Option Nat} {system : System}
    {name : String}
    (hreach : Machine.ReachableWhere step (Meets addressed) (start localId mailboxCapacity) system)
    (hstarted : system.shared.started = true) (hname : system.shared.names name = none) :
    system.shared.signals.Bare name ∧
    (∀ action next, step system action = some next → next.shared.names name ≠ none →
      next.shared.signals.Bare name) ∧
    ∀ (call : Call) (entry : Entry) (move : Move),
      call.entry system.shared = some entry → entry.name = name → call.move system.shared = some move →
      entry.recorded (move.effect.apply system.shared).signals := by
  obtain ⟨hformed, htidy⟩ : WellFormed system ∧ Tidy system.shared := by
    refine WellFormed.invariant (fun system => Tidy system.shared) (.start _ _)
      (fun _ _ _ => ⟨rfl, rfl⟩) ?_ hreach
    intro system self input frame move _ htidy hmeets hresumed
    have haddressed := hresumed.effect_addressed (hresumed.meets hmeets)
    exact (htidy.apply haddressed).of_eq rfl rfl rfl
  have hbare := htidy hstarted name hname
  refine ⟨hbare, fun action next hstep hnext => ?_, fun call entry move hentry _ hmove =>
    Call.recorded hentry hmove⟩
  obtain ⟨self, input, frame, move, -, rfl, rfl⟩ := hformed.mirrored.step_cases hstep
  have hsame := Effect.signals_of_register hname hnext
  exact hsame.symm ▸ hbare

namespace Fixed

def watchedEnds : List Action :=
  watched .oneForOne ++ [ask (.cancelTask 0), go 0, go 3, go 1]

/-- An actor that traps exits links to an absent one, which is spawned only then. When the first is shut down, the second is told. -/
def linkedBefore : List Action :=
  [ask (.newSupervisor {}), ask (.spawn 0 "first")] ++ launch 1 2 ++
    [ask (.trapExit 0 true), ask (.link 0 ⟨none, "late"⟩), ask (.spawn 0 "late")] ++ launch 3 4 ++
    [ask (.cancelTask 0), go 0, go 2, go 1, go 1, go 5]

end Fixed

theorem unregistered_names_bare_watched :
    ∃ system, Machine.ReachableWhere step (Meets addressed) (start "node" none) system ∧
      system.shared.names "worker" = none ∧ system.shared.signals.Bare "worker" := by
  have hrun : (Machine.runWhere step (Meets addressed) (start "node" none) Fixed.watchedEnds).map
      (fun system => (system.shared.started, system.shared.names "worker")) = some (true, none) := by
    decide +kernel
  obtain ⟨system, hreach, hobserved⟩ := Machine.exists_reachableWhere hrun
  obtain ⟨hstarted, hname⟩ := Prod.mk.inj hobserved
  exact ⟨system, hreach, hname, (unregistered_names_bare hreach hstarted hname).1⟩

/-- The actor was told that the other does not exist, and later the new actor is killed by that link. -/
theorem late_actor_killed :
    ∃ system, Machine.Reachable step (start "node" none) system ∧
      (system.shared.mailboxes 0).accepted = [.exit "late" "noproc"] ∧
      (system.shared.children 1).name = "late" ∧
      (system.shared.children 1).pendingExit =
        some ⟨"RuntimeError", "linked actor 'first' exited: shutdown"⟩ := by
  have hrun : (Machine.runWhere step (fun _ _ => True) (start "node" none) Fixed.linkedBefore).map
      (fun system => ((system.shared.mailboxes 0).accepted, (system.shared.children 1).name,
        (system.shared.children 1).pendingExit)) =
      some ([.exit "late" "noproc"], "late",
        some ⟨"RuntimeError", "linked actor 'first' exited: shutdown"⟩) := by
    decide +kernel
  obtain ⟨system, hreach, hobserved⟩ := Machine.exists_reachableWhere hrun
  simp only [Prod.mk.injEq] at hobserved
  exact ⟨system, hreach, hobserved⟩

end LapinBeam.Actor
