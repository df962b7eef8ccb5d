import LapinBeam.Directory.Node
import LapinBeam.Proof.GroupViews
import LapinBeam.Proof.NameOwners

/-!
# Entries of a lost peer

`peer_disconnected` purges the entries of a peer from both tables. What the peer sent before may
still be in the mailboxes of the reserved actors, and other peers still list its actors in their
snapshots; a message taken later brings such an entry back, and nothing removes it again.
-/

namespace LapinBeam.Directory

def NodeAction.reconnects (peer : String) : NodeAction → Bool
  | .connected other => other = peer
  | _ => false

namespace Node

/-- The next message lists no actor of the peer that would get into the table, and a node that has lost itself adds none of its own. -/
def silentOn (peer : String) (node : Node) : NodeAction → Bool
  | .groups .receive =>
      match node.groups.mailbox with
      | [] => true
      | (_, msg) :: _ => decide (∀ entry ∈ Groups.reading.adds msg, entry.2.origin ≠ peer)
  | .registry .receive =>
      match node.registry.mailbox with
      | [] => true
      | (_, msg) :: _ =>
          decide (∀ entry ∈ Registry.reading.adds msg, entry.2.origin = peer →
            (node.owner? entry.1).isSome = true)
  | .groups (.perform (.join _ _ _)) | .registry (.perform (.register _ _ _)) =>
      node.localId ≠ peer
  | _ => true

structure Gone (peer : String) (node : Node) : Prop where
  members : ∀ group, ∀ member ∈ node.bucket group, member.origin ≠ peer
  owners : ∀ name owner, node.owner? name = some owner → owner.origin ≠ peer

section Step

variable {peer : String} {node later : Node} {action : NodeAction}

theorem GroupsChange.gone {after : Groups} (hchange : node.GroupsChange action after)
    (hsilent : node.silentOn peer action = true)
    (hgone : ∀ group, ∀ member ∈ node.bucket group, member.origin ≠ peer) (group : String)
    (member : Member) (hmember : member ∈ after.bucket group) : member.origin ≠ peer := by
  have hhas := Groups.has_mk_iff.mpr hmember
  cases hchange with
  | same => exact hgone group member hmember
  | performed hlocal hperformed =>
      rcases (hperformed.has_iff _).mp hhas with ⟨hold, -⟩ | ⟨msg, hmsg, hadds⟩
      · exact hgone group member (Groups.has_mk_iff.mp hold)
      · have horigin : member.origin = node.localId :=
          hperformed.origin_eq msg hmsg _ (.inl hadds)
        cases hperformed with
        | joined => exact horigin ▸ of_decide_eq_true hsilent
        | left =>
            obtain rfl := List.mem_singleton.mp hmsg
            cases hadds
        | cleared => exact absurd rfl (hlocal _)
  | cleared =>
      exact hgone group member (Groups.has_mk_iff.mp (Groups.has_clearGroups.mp hhas).1)
  | received hmailbox =>
      rw [silentOn, hmailbox] at hsilent
      rcases (Groups.has_receive.mp hhas).2 with hadds | hold
      · exact of_decide_eq_true hsilent _ hadds
      · exact hgone group member (Groups.has_mk_iff.mp hold)
  | purged =>
      rw [Groups.bucket_dropPeerMembers] at hmember
      exact hgone group member (Finset.mem_of_mem_filter _ hmember)

theorem RegistryChange.gone {after : Registry} (hchange : node.RegistryChange action after)
    (hsilent : node.silentOn peer action = true)
    (hgone : ∀ name owner, node.owner? name = some owner → owner.origin ≠ peer) (name : String)
    (owner : Member) (howner : after.owners.lookup name = some owner) : owner.origin ≠ peer := by
  have hhas := Registry.has_mk_iff.mpr howner
  cases hchange with
  | same => exact hgone name owner howner
  | performed hlocal hperformed =>
      rcases (hperformed.has_iff _).mp hhas with ⟨hold, -⟩ | ⟨msg, hmsg, hadds⟩
      · exact hgone name owner (Registry.has_mk_iff.mp hold)
      · have horigin : owner.origin = node.localId :=
          hperformed.origin_eq msg hmsg _ (.inl hadds)
        cases hperformed with
        | registered => exact horigin ▸ of_decide_eq_true hsilent
        | unregistered =>
            obtain rfl := List.mem_singleton.mp hmsg
            cases hadds
        | unowned => cases hmsg
        | cleared => exact absurd rfl (hlocal _)
  | cleared =>
      rw [Registry.lookup_clearRegistry, Option.filter_eq_some_iff] at howner
      exact hgone name owner howner.1
  | received hmailbox =>
      rw [silentOn, hmailbox] at hsilent
      rcases (Registry.receive_has hhas).2 with hadds | hold
      · intro horigin
        obtain ⟨existing, hexisting⟩ :=
          Option.isSome_iff_exists.mp (of_decide_eq_true hsilent _ hadds horigin)
        obtain rfl := Registry.owner_of_claimed hadds hhas hexisting
        exact hgone name _ hexisting horigin
      · exact hgone name owner (Registry.has_mk_iff.mp hold)
  | purged =>
      rw [Registry.dropPeerNames, Registry.lookup_deleteWhere, Option.filter_eq_some_iff] at howner
      exact hgone name owner howner.1

theorem Gone.next (hgone : Gone peer node) (hsilent : node.silentOn peer action = true)
    (hstep : node.step action = some later) : Gone peer later where
  members := (groupsChange hstep).gone hsilent hgone.members
  owners := (registryChange hstep).gone hsilent hgone.owners

theorem gone_of_disconnected {groupPeers registryPeers : List String}
    (hgroups : node.groups.peers = some groupPeers)
    (hregistry : node.registry.peers = some registryPeers)
    (hstep : node.step (.disconnected peer) = some later) : Gone peer later := by
  obtain rfl := Option.some.inj hstep
  constructor
  · intro group member hmember
    rw [bucket, Gossip.Site.table_disconnected_of_peers _ _ hgroups] at hmember
    rw [show Groups.protocol.purge = Groups.dropPeerMembers from rfl,
      Groups.bucket_dropPeerMembers, Finset.mem_filter] at hmember
    exact hmember.2
  · intro name owner howner
    rw [owner?, Gossip.Site.table_disconnected_of_peers _ _ hregistry] at howner
    rw [show Registry.protocol.purge = Registry.dropPeerNames from rfl, Registry.dropPeerNames,
      Registry.lookup_deleteWhere, Option.filter_eq_some_iff] at howner
    simpa using howner.2

end Step

/-- Until the peer connects again neither table has an entry of it. -/
theorem lost_peer_stays_gone {peer : String} {node lost later : Node}
    {groupPeers registryPeers : List String} (hgroups : node.groups.peers = some groupPeers)
    (hregistry : node.registry.peers = some registryPeers)
    (hlost : node.step (.disconnected peer) = some lost)
    (hreach : Machine.ReachableWhere step
      (fun before action => action.reconnects peer = false ∧ before.silentOn peer action = true)
      lost later) : Gone peer later :=
  hreach.invariant (gone_of_disconnected hgroups hregistry hlost)
    fun _ _ _ hgone hallowed hstep => hgone.next hallowed.2 hstep

end Node

/-! ### A message that was waiting

`b` has told `a` of its actor `v`, and the message is still in the mailbox when `b` is lost. -/

namespace Fixed

def waiting (groups : GroupMessage) (registry : RegistryMessage) : List NodeAction :=
  [.groups .register, .registry .register, .connected "b",
    .groups (.arrive "b" groups), .registry (.arrive "b" registry)]

end Fixed

namespace Node

theorem lost_peer_stays_gone_relayed :
    ∃ node lost later : Node, Machine.Reachable step (start "a") node ∧
      node.step (.disconnected "b") = some lost ∧ ⟨"c", "u"⟩ ∈ later.bucket "g" ∧
      Gone "b" later := by
  have hrun : (Machine.runWhere step (fun _ _ => True) (start "a")
      (Fixed.waiting (.join "g" ⟨"c", "u"⟩) (.release "leader" ⟨"b", "v"⟩))).map (fun node =>
        (node.groups.peers, node.registry.peers,
          (node.step (.disconnected "b")).bind fun lost =>
            (Machine.runWhere step (fun before action =>
                action.reconnects "b" = false ∧ before.silentOn "b" action = true) lost
              [.groups .receive, .registry .receive]).map fun later =>
                decide (⟨"c", "u"⟩ ∈ later.bucket "g"))) =
      some (some ["b"], some ["b"], some true) := by
    decide +kernel
  obtain ⟨node, hreach, hobserved⟩ := Machine.exists_reachableWhere hrun
  simp only [Prod.mk.injEq] at hobserved
  obtain ⟨hgroups, hregistry, hrest⟩ := hobserved
  obtain ⟨lost, hlost, hlater⟩ := Option.bind_eq_some_iff.mp hrest
  obtain ⟨later, hreach', hmember⟩ := Machine.exists_reachableWhere hlater
  exact ⟨node, lost, later, hreach, hlost, of_decide_eq_true hmember,
    lost_peer_stays_gone hgroups hregistry hlost hreach'⟩

/-- Both tables get an entry of the lost peer. -/
theorem lost_peer_returns :
    ∃ node lost later : Node, Machine.Reachable step (start "a") node ∧
      node.step (.disconnected "b") = some lost ∧
      Machine.ReachableWhere step (fun _ action => action.reconnects "b" = false) lost later ∧
      ⟨"b", "v"⟩ ∈ later.bucket "g" ∧ later.owner? "leader" = some ⟨"b", "v"⟩ := by
  have hrun : (Machine.runWhere step (fun _ _ => True) (start "a")
      (Fixed.waiting (.join "g" ⟨"b", "v"⟩) (.claim "leader" ⟨"b", "v"⟩))).map (fun node =>
        (node.step (.disconnected "b")).bind fun lost =>
          (Machine.runWhere step (fun _ action => action.reconnects "b" = false) lost
            [.groups .receive, .registry .receive]).map fun later =>
              decide (⟨"b", "v"⟩ ∈ later.bucket "g" ∧
                later.owner? "leader" = some ⟨"b", "v"⟩)) = some (some true) := by
    decide +kernel
  obtain ⟨node, hreach, hobserved⟩ := Machine.exists_reachableWhere hrun
  obtain ⟨lost, hlost, hlater⟩ := Option.bind_eq_some_iff.mp hobserved
  obtain ⟨later, hreach', hback⟩ := Machine.exists_reachableWhere hlater
  exact ⟨node, lost, later, hreach, hlost, hreach', of_decide_eq_true hback⟩

end Node

end LapinBeam.Directory
