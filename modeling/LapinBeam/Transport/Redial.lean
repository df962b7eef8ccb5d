import LapinBeam.Transport.Pair

/-!
# One node that dials another again and again

Only the left node dials the right one, with any number of overlapping calls of `connect` and the
reconnect loops they leave behind. A dial opens a fresh connection, is refused, or runs into its
timeout before it has registered anything; no open connection is lost. As with two nodes that dial
each other, heartbeats stay silent.
-/

namespace LapinBeam

def Task.succeeded : Task → Bool
  | .dialed _ _ true | .connect _ true => true
  | _ => false

namespace Pair

variable (pair : Pair) (side : Side) (nodes : TwoNodes)

def Redials : Transport.Action → Prop
  | .call task => side = .left ∧ task = .dial .connect (nodes.ids .right) .checkingPeer
  | .resume index input => ∃ task ∈ (pair.tasks side)[index]?, pair.awaits side task input = true

instance : (action : Transport.Action) → Decidable (pair.Redials side nodes action)
  | .call _ => inferInstanceAs (Decidable (_ ∧ _))
  | .resume index _ => inferInstanceAs (Decidable (∃ task ∈ (pair.tasks side)[index]?, _))

/-- No dial is under way, and every message sent has been read and handled. -/
def Settled : Prop :=
  ∀ side index input, pair.Redials side nodes (.resume index input) →
    pair.step nodes.externals (side, .resume index input) = none

/-- The left side's entry and the right side's are the two ends of one connection. -/
def joined : Bool :=
  ((pair.transport .left).peers (nodes.ids .right)).any fun dialed =>
    ((pair.transport .right).peers (nodes.ids .left)).any dialed.isSameConnection

/-- The right side does not register a connection while the two entries are ends of one. -/
def timely : Action → Bool
  | (.right, .resume index _) =>
      match (pair.tasks .right)[index]? with
      | some (.readLoop _ (.registering peer _)) =>
          (pair.transport .right).refuses peer false || !pair.joined nodes
      | _ => true
  | _ => true

end Pair

/-- The states of the two nodes when only the left one dials, over every order of their steps. -/
abbrev TwoNodes.Redialed (nodes : TwoNodes) (pair : Pair) : Prop :=
  Machine.ReachableWhere (fun pair action => Pair.step pair nodes.externals action)
    (fun pair action => pair.Redials action.1 nodes action.2) nodes.start pair

abbrev TwoNodes.RedialedTimely (nodes : TwoNodes) (pair : Pair) : Prop :=
  Machine.ReachableWhere (fun pair action => Pair.step pair nodes.externals action)
    (fun pair action => pair.Redials action.1 nodes action.2 ∧ pair.timely nodes action = true)
    nodes.start pair

end LapinBeam
