import LapinBeam.Transport.Task

/-!
# Two transports that dial each other

Each side runs the tasks of its own transport; what they wait for comes from the other side. A
dialed connection can be accepted there, a read returns frames the other end has sent and this end
has not read, and an end of file once the other end has been closed.

`awaits` says what can happen next at the point where a task is, whoever dials: heartbeats stay
silent, and nobody reacts to a disconnect event. When both sides dial, the steps are those of the
dial itself: the calls of `connect`, at most one a side, everything `dial` does, the accept loops
and the read loops, and nothing fails or times out.
-/

namespace LapinBeam

inductive Side
  | left
  | right
deriving DecidableEq

namespace Side

def other : Side → Side
  | left => right
  | right => left

/-- The connection a side dials, named after it since a side dials at most once. -/
def conn : Side → ConnectionId
  | left => 1
  | right => 2

@[simp]
theorem other_other (side : Side) : side.other.other = side := by cases side <;> rfl

@[simp]
theorem conn_inj {side side' : Side} : side.conn = side'.conn ↔ side = side' := by
  cases side <;> cases side' <;> decide

@[simp]
theorem other_ne (side : Side) : side.other ≠ side := by cases side <;> decide

@[simp]
theorem ne_other (side : Side) : side ≠ side.other := (other_ne side).symm

theorem eq_or_eq_other (side side' : Side) : side' = side ∨ side' = side.other := by
  cases side <;> cases side' <;> decide

def total (f : Side → Nat) : Nat := f left + f right

theorem total_eq (f : Side → Nat) (side : Side) : total f = f side + f side.other := by
  cases side with
  | left => rfl
  | right => exact Nat.add_comm _ _

end Side

structure TwoNodes where
  ids : Side → NodeId
  configs : Side → TransportConfig
  inboxes : Side → Mailbox → Inbox
  externals : Externals
  valid : ∀ side, (ids side).Valid
  distinct : ∀ side : Side, ids side ≠ ids side.other
  secret : ∀ side : Side, (configs side).clusterSecret = (configs side.other).clusterSecret
  proofLen : ∀ key nonce, (externals.hmac key nonce).length = Auth.proofLen

structure Pair where
  node : Side → Transport.System
  /-- How many frames each side has read from each connection. -/
  taken : Side → ConnectionId → Nat

/-- A call of `connect`, from its first stage to its return. -/
def Task.dials : Task → Bool
  | .dial .connect _ _ | .dialed .connect _ _ | .connect _ _ => true
  | _ => false

/-- The connection a task keeps open on its side. A handle in the peers map is held by such a task as well. -/
def Task.keepsOpen : Task → Option ConnectionId
  | .dial _ _ (.registering conn) | .dial _ _ (.handshaking conn) | .dial _ _ (.sending conn _)
  | .dial _ _ (.announcing conn) | .dial _ _ (.spawning conn) => some conn
  | .readLoop _ .finished => none
  | .readLoop connection _ => some connection.id
  | _ => none

namespace Pair

abbrev Action := Side × Transport.Action

variable (pair : Pair) (side : Side)

abbrev transport : Transport := (pair.node side).shared

abbrev tasks : List Task := (pair.node side).tasks

/-- What the other end has sent on a connection and this end has not read. -/
def unread (conn : ConnectionId) : List WireMessage :=
  ((pair.transport side.other).outbound conn).drop (pair.taken side conn)

def Dropped (conn : ConnectionId) : Prop :=
  conn ∈ (pair.transport side).opened ∧ ∀ task ∈ pair.tasks side, task.keepsOpen ≠ some conn

instance (conn : ConnectionId) : Decidable (pair.Dropped side conn) :=
  inferInstanceAs (Decidable (_ ∧ _))

/-- What can happen next at the point where a task of a side is. -/
def awaits : Task → Input → Bool
  | .dial _ _ _, .go | .dialed _ _ _, .go | .reconnectLoop _ _ _, .go | .readLoop _ _, .go => true
  | .dial _ _ _, .connected _ | .dial _ _ _, .refused | .dial _ _ _, .timedOut => true
  | .dial _ _ _, .nonce nonce => nonce.length = Auth.nonceLen
  | .acceptLoop _, .accepted conn => conn ∈ (pair.transport side.other).opened
  | .readLoop connection _, .read (.frames frames) =>
      frames ≠ [] ∧ frames <+: pair.unread side connection.id
  | .readLoop connection _, .read .eof =>
      pair.unread side connection.id = [] ∧ pair.Dropped side.other connection.id
  | _, _ => false

/-- Every dial gets through, and opens the connection of the side that dials. -/
def getsThrough : Input → Bool
  | .connected conn => conn = side.conn
  | .accepted conn => conn = side.other.conn
  | .refused | .timedOut => false
  | _ => true

def Offers (nodes : TwoNodes) : Transport.Action → Prop
  | .call task =>
      task = .dial .connect (nodes.ids side.other) .checkingPeer ∧
        ∀ other ∈ pair.tasks side, other.dials = false
  | .resume index input =>
      ∃ task ∈ (pair.tasks side)[index]?,
        pair.awaits side task input = true ∧ getsThrough side input = true

instance (nodes : TwoNodes) : (action : Transport.Action) →
    Decidable (pair.Offers side nodes action)
  | .call _ => inferInstanceAs (Decidable (_ ∧ _))
  | .resume index _ => inferInstanceAs (Decidable (∃ task ∈ (pair.tasks side)[index]?, _))

def takes : Transport.Action → ConnectionId → Nat
  | .resume index (.read (.frames frames)) =>
      match (pair.tasks side)[index]? with
      | some (.readLoop connection _) =>
          Function.update (pair.taken side) connection.id
            (pair.taken side connection.id + frames.length)
      | _ => pair.taken side
  | _ => pair.taken side

def step (externals : Externals) (action : Action) : Option Pair :=
  (Transport.step externals (pair.node action.1) action.2).map fun next =>
    { node := Function.update pair.node action.1 next
      taken := Function.update pair.taken action.1 (pair.takes action.1 action.2) }

/-- Nothing is left to do but to call `connect`. -/
def Quiescent (nodes : TwoNodes) : Prop :=
  ∀ side index input, pair.Offers side nodes (.resume index input) →
    pair.step nodes.externals (side, .resume index input) = none

end Pair

namespace TwoNodes

variable (nodes : TwoNodes)

def start : Pair where
  node side := Transport.start (nodes.ids side) (nodes.configs side) (nodes.inboxes side)
  taken _ _ := 0

abbrev Reaches (pair : Pair) : Prop :=
  Machine.ReachableWhere (fun pair action => Pair.step pair nodes.externals action)
    (fun pair action => pair.Offers action.1 nodes action.2) nodes.start pair

def smaller : Side :=
  if (nodes.ids .left).toFull < (nodes.ids .right).toFull then .left else .right

end TwoNodes

end LapinBeam
