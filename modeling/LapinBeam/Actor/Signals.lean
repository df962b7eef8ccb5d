import Mathlib.Data.List.Basic
import Mathlib.Logic.Function.Basic

/-!
# Links and monitors of a node

The tables `lapinbeam.links` and `lapinbeam.monitors` keep in a `Node`. `_links` holds, for a local
actor name, whom it is linked to; `_monitors` belongs to the watcher's node, `_monitor_watchers` to
the node of the watched actor. All of them go by name, and an actor's entries are taken out when its
current generation ends.
-/

namespace LapinBeam.Actor

abbrev Ref := Nat

/-- An actor as the tables name it: with its node, or with none when it is local. -/
structure Address where
  node : Option String
  name : String
deriving DecidableEq

/-- What `monitor()` records on the watcher's node. -/
structure Monitor where
  watcher : String
  target : Address
deriving DecidableEq

inductive Message
  | user (body : String)
  | exit (actor reason : String)
  | down (ref : Ref) (actor reason : String)
deriving DecidableEq

/-- What is sent to the reserved link and monitor actors of another node. -/
inductive PeerMessage
  | link (source target fromNode : String)
  | unlink (source target fromNode : String)
  | exit (target actor reason fromNode : String)
  | monitor (ref : Ref) (watcher watcherNode target : String)
  | demonitor (ref : Ref) (target : String)
  | down (ref : Ref) (actor reason fromNode : String)
deriving DecidableEq

structure Signals where
  links : String → List Address := fun _ => []
  trapExit : String → Bool := fun _ => false
  monitors : Ref → Option Monitor := fun _ => none
  monitorWatchers : String → List (Ref × Address) := fun _ => []
  /-- The keys of `_links` and of `_monitors`, in the order in which they were set. -/
  linkKeys : List String := []
  monitorKeys : List Ref := []

/-- Whom a generation leaves to be told, should it not come back. -/
structure Obituary where
  linked : List Address := []
  monitored : List (Ref × Address) := []
deriving DecidableEq

inductive Delivery
  | exit (source target reason : String)
  | down (ref : Ref) (actor reason : String)
  | remoteExit (peer target actor reason : String)
  | remoteDown (peer : String) (ref : Ref) (actor reason : String)
deriving DecidableEq

namespace Signals

variable (signals : Signals)

def addLink (name : String) (target : Address) : Signals :=
  { signals with
    links := Function.update signals.links name ((signals.links name).insert target)
    linkKeys :=
      if name ∈ signals.linkKeys then signals.linkKeys else signals.linkKeys ++ [name] }

def dropLink (name : String) (target : Address) : Signals :=
  { signals with
    links := Function.update signals.links name ((signals.links name).erase target) }

def setTrapExit (name : String) (enabled : Bool) : Signals :=
  { signals with trapExit := Function.update signals.trapExit name enabled }

def addMonitor (ref : Ref) (monitor : Monitor) : Signals :=
  { signals with
    monitors := Function.update signals.monitors ref (some monitor)
    monitorKeys :=
      if ref ∈ signals.monitorKeys then signals.monitorKeys else signals.monitorKeys ++ [ref] }

def popMonitor (ref : Ref) : Signals :=
  { signals with
    monitors := Function.update signals.monitors ref none
    monitorKeys := signals.monitorKeys.erase ref }

def addWatcher (target : String) (ref : Ref) (watcher : Address) : Signals :=
  { signals with
    monitorWatchers := Function.update signals.monitorWatchers target
      ((signals.monitorWatchers target).filter (·.1 ≠ ref) ++ [(ref, watcher)]) }

def dropWatcher (target : String) (ref : Ref) : Signals :=
  { signals with
    monitorWatchers := Function.update signals.monitorWatchers target
      ((signals.monitorWatchers target).filter (·.1 ≠ ref)) }

/-- What `_clear_links` and `_clear_monitors` return. -/
def obituary (name : String) : Obituary :=
  ⟨signals.links name, signals.monitorWatchers name⟩

/-- What `_clear_links` and `_clear_monitors` leave. -/
def clear (name : String) : Signals :=
  { signals with
    links := Function.update signals.links name []
    trapExit := Function.update signals.trapExit name false
    monitorWatchers := Function.update signals.monitorWatchers name []
    linkKeys := signals.linkKeys.erase name }

/-- What is left of the tables when a peer has disconnected. -/
def forgetPeer (peer : String) : Signals :=
  { signals with
    links := fun name => (signals.links name).filter (·.node ≠ some peer)
    monitorWatchers := fun name => (signals.monitorWatchers name).filter (·.2.node ≠ some peer) }

/-- The tasks that are created when a peer disconnects. An entry of `_monitors` stays until its task takes it. -/
def lost (peer : String) : List Delivery :=
  signals.linkKeys.flatMap (fun name =>
      ((signals.links name).filter (·.node = some peer)).map fun target =>
        .exit (peer ++ "/" ++ target.name) name "noconnection") ++
    signals.monitorKeys.filterMap fun ref =>
      match signals.monitors ref with
      | some ⟨_, target⟩ =>
          if target.node = some peer then
            some (.down ref (peer ++ "/" ++ target.name) "noconnection")
          else none
      | none => none

end Signals

/-- The tasks `_notify_links` and `_notify_monitors` create. -/
def Obituary.deliveries (obituary : Obituary) (actorName reason : String) : List Delivery :=
  obituary.linked.map (fun target =>
      match target.node with
      | none => .exit actorName target.name reason
      | some peer => .remoteExit peer target.name actorName reason) ++
    obituary.monitored.map fun (ref, watcher) =>
      match watcher.node with
      | none => .down ref actorName reason
      | some peer => .remoteDown peer ref actorName reason

end LapinBeam.Actor
