import Mathlib.Data.Finset.Insert

/-!
# Joining a cluster through seed nodes

`join_via_seeds` connects to its seeds, asks each of them whom it knows, and goes on with the
answers, level by level. The calls it makes for a peer raise what the layers below raise: an id that
does not parse and a send that fails are a `ValueError` of the Rust core, a dial that does not
complete is a `ConnectionError`, silence a `TimeoutError`.
-/

namespace LapinBeam.Discovery

variable {Id : Type}

/-- A Python exception, as far as `except (ConnectionError, TimeoutError)` tells them apart. -/
inductive Failure
  | connectionError (text : String)
  | timeoutError
  | valueError (text : String)
  | other (typeName text : String)
deriving DecidableEq

def Failure.caught : Failure → Bool
  | .connectionError _ | .timeoutError => true
  | _ => false

/-- A reply, as far as it is looked into: `reply["peers"]`, or what the lookup or the iteration raises. -/
structure Reply (Id : Type) where
  peers : Except Failure (List Id)

structure Network (Id : Type) where
  connectPeer : Id → Except Failure Unit
  ask : Id → Except Failure (Reply Id)

def Network.contact (network : Network Id) (peer : Id) : Except Failure (Reply Id) := do
  network.connectPeer peer
  network.ask peer

/-- `connected` and `visited`, and the peers contacted so far. -/
structure Search (Id : Type) where
  connected : Finset Id
  visited : Finset Id
  contacted : List Id

structure Pass (Id : Type) where
  search : Search Id
  next : List Id

variable [DecidableEq Id]

def Search.mark (search : Search Id) (peer : Id) : Search Id :=
  { search with
    visited := insert peer search.visited
    contacted := search.contacted ++ [peer] }

/-- One peer of the frontier. Reading the reply is not part of the `try` block. -/
def Network.visit (network : Network Id) (pass : Pass Id) (peer : Id) :
    Except Failure (Pass Id) :=
  if peer ∈ pass.search.visited then .ok pass
  else
    let search := pass.search.mark peer
    match network.contact peer with
    | .error failure =>
        if failure.caught then .ok { pass with search } else .error failure
    | .ok reply =>
        match reply.peers with
        | .error failure => .error failure
        | .ok candidates =>
            .ok ⟨{ search with connected := insert peer search.connected },
              pass.next ++ candidates.filter fun candidate => candidate ∉ search.visited⟩

/-- `while frontier`; `none` when the fuel is used up. -/
def Network.loop (network : Network Id) :
    Nat → Search Id → List Id → Option (Except Failure (Search Id))
  | 0, _, _ => none
  | _ + 1, search, [] => some (.ok search)
  | fuel + 1, search, frontier =>
      match frontier.foldlM network.visit ⟨search, []⟩ with
      | .error failure => some (.error failure)
      | .ok pass => network.loop fuel pass.search pass.next

def Network.joinViaSeeds (network : Network Id) (localId : Id) (fuel : Nat) (seeds : List Id) :
    Option (Except Failure (Search Id)) :=
  network.loop fuel ⟨∅, {localId}, []⟩ (seeds.filter (· ≠ localId))

/-! ### What the layers below do -/

structure Contact where
  /-- What `NodeId::parse` finds wrong with the id. -/
  parseError : Option String := none
  /-- The handshake is complete within `connect_timeout`. -/
  connects : Bool := true
  sendError : Option String := none
  /-- What comes within the five seconds of `ask`. -/
  reply : Option (Reply String) := none

def Contact.connectPeer (contact : Contact) (peer : String) : Except Failure Unit :=
  match contact.parseError with
  | some text => .error (.valueError ("invalid peer id: " ++ text))
  | none =>
      if contact.connects then .ok ()
      else .error (.connectionError ("failed to connect to peer '" ++ peer ++ "'"))

def Contact.sendData (contact : Contact) : Except Failure Unit :=
  match contact.parseError with
  | some text => .error (.valueError ("invalid peer id: " ++ text))
  | none =>
      match contact.sendError with
      | some text => .error (.valueError ("send failed: " ++ text))
      | none => .ok ()

def Contact.ask (contact : Contact) : Except Failure (Reply String) := do
  contact.sendData
  match contact.reply with
  | some reply => .ok reply
  | none => .error .timeoutError

def network (contacts : String → Contact) : Network String where
  connectPeer peer := (contacts peer).connectPeer peer
  ask peer := (contacts peer).ask

end LapinBeam.Discovery
