import LapinBeam.Lib.Machine
import Mathlib.Data.Finset.Basic
import Mathlib.Logic.Function.Basic

/-!
# Tables kept by broadcast

Every node has a table. An operation on the table of a node is broadcast to the peers the node knows,
and a peer that connects is sent a snapshot of the whole table. What is sent is sent by tasks that
run one after the other, later: a change travels as it was made, a snapshot is taken when its task
runs. Each link delivers in order into the mailbox of the other node, which takes one message at a
time.
-/

namespace Gossip

structure Protocol (Node Table Op Message Failure : Type*) where
  empty : Table
  /-- An operation of the node itself: the table it leaves and what it broadcasts, or an error. -/
  perform : Node → Table → Op → Except Failure (Table × List Message)
  /-- What a new peer is sent, unless there is nothing to tell. -/
  snapshot : Table → Option Message
  receive : Table → Message → Table
  purge : Table → Node → Table

inductive Outgoing (Message : Type*)
  | message (msg : Message)
  | snapshot
deriving DecidableEq

/-- One node, with the tasks that have not run yet, the oldest first. A node that has not registered has no peers, and nobody to take messages. -/
structure Site (Node Table Message : Type*) where
  table : Table
  peers : Option (List Node) := none
  tasks : List (Node × Outgoing Message) := []
  mailbox : List (Node × Message) := []

inductive SiteAction (Node Op Message : Type*)
  | register
  | perform (op : Op)
  | runTask
  | arrive (source : Node) (msg : Message)
  | receive

section Site

variable {Node Table Op Message Failure : Type*} (protocol : Protocol Node Table Op Message Failure)

def Outgoing.render (table : Table) : Outgoing Message → Option Message
  | .message msg => some msg
  | .snapshot => protocol.snapshot table

namespace Site

def start : Site Node Table Message := { table := protocol.empty }

variable (site : Site Node Table Message)

def knows : List Node := site.peers.getD []

def broadcast (msgs : List Message) : Site Node Table Message :=
  { site with
    tasks := site.tasks ++
      msgs.flatMap fun msg => site.knows.map fun peer => (peer, Outgoing.message msg) }

def perform (self : Node) (op : Op) : Site Node Table Message :=
  match protocol.perform self site.table op with
  | .ok (table, msgs) => { site with table }.broadcast msgs
  | .error _ => site

def runTask : Option (Site Node Table Message × Option (Node × Message)) :=
  match site.tasks with
  | [] => none
  | (peer, outgoing) :: rest =>
      some ({ site with tasks := rest },
        (outgoing.render protocol site.table).map fun msg => (peer, msg))

def arrive (source : Node) (msg : Message) : Site Node Table Message :=
  match site.peers with
  | none => site
  | some _ => { site with mailbox := site.mailbox ++ [(source, msg)] }

def receive : Option (Site Node Table Message) :=
  match site.mailbox with
  | [] => none
  | (_, msg) :: rest =>
      some { site with table := protocol.receive site.table msg, mailbox := rest }

variable [DecidableEq Node]

def connected (peer : Node) : Site Node Table Message :=
  match site.peers with
  | none => site
  | some peers =>
      { site with
        peers := some (if peer ∈ peers then peers else peers ++ [peer])
        tasks := site.tasks ++ [(peer, .snapshot)] }

def disconnected (peer : Node) : Site Node Table Message :=
  match site.peers with
  | none => site
  | some peers =>
      { site with
        peers := some (peers.filter (· ≠ peer))
        table := protocol.purge site.table peer }

def step (self : Node) : SiteAction Node Op Message → Option (Site Node Table Message)
  | .register => if site.peers.isNone then some { site with peers := some [] } else none
  | .perform op => some (site.perform protocol self op)
  | .runTask => (site.runTask protocol).map (·.1)
  | .arrive source msg => some (site.arrive source msg)
  | .receive => site.receive protocol

theorem table_connected (peer : Node) : (site.connected peer).table = site.table := by
  rw [connected]
  split <;> rfl

theorem table_disconnected (peer : Node) :
    (site.disconnected protocol peer).table = site.table ∨
      (site.disconnected protocol peer).table = protocol.purge site.table peer := by
  rw [disconnected]
  split
  · exact .inl rfl
  · exact .inr rfl

theorem table_disconnected_of_peers {peers : List Node} (hpeers : site.peers = some peers)
    (peer : Node) :
    (site.disconnected protocol peer).table = protocol.purge site.table peer := by
  rw [disconnected, hpeers]

variable {protocol site}

omit [DecidableEq Node] in
theorem table_step {self : Node} {next : Site Node Table Message} {action : SiteAction Node Op Message}
    (hstep : site.step protocol self action = some next) :
    next.table = site.table ∨
      (∃ op msgs, action = .perform op ∧
        protocol.perform self site.table op = .ok (next.table, msgs)) ∨
      ∃ source msg rest, action = .receive ∧ site.mailbox = (source, msg) :: rest ∧
        next.table = protocol.receive site.table msg := by
  cases action with
  | register =>
      rw [step, Option.ite_none_right_eq_some] at hstep
      obtain rfl := Option.some.inj hstep.2
      exact .inl rfl
  | perform op =>
      obtain rfl := Option.some.inj hstep
      rw [perform]
      split
      · rename_i hperform
        exact .inr (.inl ⟨op, _, rfl, hperform⟩)
      · exact .inl rfl
  | runTask =>
      obtain ⟨⟨after, sent⟩, hrun, rfl⟩ := Option.map_eq_some_iff.mp hstep
      rw [runTask] at hrun
      split at hrun
      · cases hrun
      · obtain ⟨rfl, -⟩ := Prod.mk.inj (Option.some.inj hrun)
        exact .inl rfl
  | arrive source msg =>
      obtain rfl := Option.some.inj hstep
      rw [arrive]
      split <;> exact .inl rfl
  | receive =>
      rw [step, receive] at hstep
      split at hstep
      · cases hstep
      · rename_i source msg rest hmailbox
        obtain rfl := Option.some.inj hstep
        exact .inr (.inr ⟨source, msg, rest, rfl, hmailbox, rfl⟩)

end Site

end Site

/-- Any number of nodes, and what is on its way between each two of them. -/
structure Cluster (Node Table Message : Type*) where
  nodes : Node → Site Node Table Message
  links : Node → Node → List Message

inductive Action (Node Op : Type*)
  | register (node : Node)
  | perform (node : Node) (op : Op)
  | connected (node peer : Node)
  | disconnected (node peer : Node)
  | runTask (node : Node)
  | arrive (source target : Node)
  | receive (node : Node)
deriving DecidableEq

namespace Cluster

variable {Node Table Op Message Failure : Type*} [DecidableEq Node]
  (protocol : Protocol Node Table Op Message Failure)

def start : Cluster Node Table Message where
  nodes _ := Site.start protocol
  links _ _ := []

variable (cluster : Cluster Node Table Message)

def setSite (node : Node) (site : Site Node Table Message) : Cluster Node Table Message :=
  { cluster with nodes := Function.update cluster.nodes node site }

def setLink (source target : Node) (link : List Message) : Cluster Node Table Message :=
  { cluster with
    links := Function.update cluster.links source
      (Function.update (cluster.links source) target link) }

def post (source : Node) : Option (Node × Message) → Cluster Node Table Message
  | none => cluster
  | some (target, msg) =>
      cluster.setLink source target (cluster.links source target ++ [msg])

def step : Action Node Op → Option (Cluster Node Table Message)
  | .register node =>
      ((cluster.nodes node).step protocol node .register).map (cluster.setSite node)
  | .perform node op =>
      some (cluster.setSite node ((cluster.nodes node).perform protocol node op))
  | .connected node peer => some (cluster.setSite node ((cluster.nodes node).connected peer))
  | .disconnected node peer =>
      some (cluster.setSite node ((cluster.nodes node).disconnected protocol peer))
  | .runTask node =>
      ((cluster.nodes node).runTask protocol).map fun (site, sent) =>
        (cluster.setSite node site).post node sent
  | .arrive source target =>
      match cluster.links source target with
      | [] => none
      | msg :: rest =>
          some ((cluster.setLink source target rest).setSite target
            ((cluster.nodes target).arrive source msg))
  | .receive node => ((cluster.nodes node).receive protocol).map (cluster.setSite node)

/-- Nothing is left to send, to deliver or to take among some nodes. -/
def Quiescent (ids : List Node) : Prop :=
  ∀ node ∈ ids, (cluster.nodes node).tasks = [] ∧ (cluster.nodes node).mailbox = [] ∧
    ∀ target ∈ ids, cluster.links node target = []

/-- Each of the nodes has heard that it is connected to each of the others. -/
def Connected (ids : List Node) : Prop :=
  ∀ node ∈ ids, ∀ peer ∈ ids, node ≠ peer → peer ∈ (cluster.nodes node).knows

instance (ids : List Node) : Decidable (cluster.Quiescent ids) :=
  inferInstanceAs (Decidable (∀ node ∈ ids, _ ∧ _ ∧ ∀ target ∈ ids, _))

instance (ids : List Node) : Decidable (cluster.Connected ids) :=
  inferInstanceAs (Decidable (∀ node ∈ ids, ∀ peer ∈ ids, _))

end Cluster

end Gossip
