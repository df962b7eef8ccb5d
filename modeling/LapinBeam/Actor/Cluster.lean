import LapinBeam.Actor.Stretch

/-!
# Nodes that talk to each other

Any number of nodes, by their id, and a network that keeps everything the nodes have ever sent each
other: a message may be delivered late, more than once, or never. Monitor references (`uuid4`) are
taken from one counter for all nodes, and so are distinct. What applications send is their own;
`Down` comes from the nodes.
-/

namespace LapinBeam.Actor

structure Cluster where
  nodes : String → System
  network : List (String × PeerMessage)
  nextRef : Ref

inductive ClusterAction
  | run (node : String) (action : Action)
  | monitor (node : String) (me : ChildId) (other : Address)
  /-- The message at this position of the network reaches its node. -/
  | deliver (index : Nat)

/-- Not an arrival from the network, not a `monitor()`, and no send but one of an application. -/
def Call.ordinary : Call → Bool
  | .monitor _ _ _ | .receive _ | .sendLocal _ (.exit _ _) | .sendLocal _ (.down _ _ _) => false
  | _ => true

def ordinary : Action → Bool
  | .resume _ (.call call) => call.ordinary
  | _ => true

namespace Cluster

def start (mailboxCapacity : String → Option Nat) : Cluster where
  nodes id := Actor.start id (mailboxCapacity id)
  network := []
  nextRef := 0

variable (cluster : Cluster)

/-- A node has taken a step, and what it has put into its outbox is on its way. -/
def commit (node : String) (next : System) : Cluster :=
  { cluster with
    nodes := Function.update cluster.nodes node next
    network := cluster.network ++
      next.shared.outbox.drop (cluster.nodes node).shared.outbox.length }

def step : ClusterAction → Option Cluster
  | .run node action =>
      if ordinary action then
        (Actor.step (cluster.nodes node) action).map (cluster.commit node)
      else none
  | .monitor node me other =>
      (Actor.step (cluster.nodes node) (.resume 0 (.call (.monitor me other cluster.nextRef)))).map
        fun next => { cluster.commit node next with nextRef := cluster.nextRef + 1 }
  | .deliver index =>
      match cluster.network[index]? with
      | none => none
      | some (node, msg) =>
          (Actor.step (cluster.nodes node) (.resume 0 (.call (.receive msg)))).map
            (cluster.commit node)

/-- What `monitor()` has recorded on a node for a reference. -/
def entry (node : String) (ref : Ref) : Option Monitor :=
  (cluster.nodes node).shared.signals.monitors ref

end Cluster

end LapinBeam.Actor
