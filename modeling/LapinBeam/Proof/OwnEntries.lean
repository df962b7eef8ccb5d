import LapinBeam.Directory.Node
import LapinBeam.Proof.GroupViews
import LapinBeam.Proof.NameOwners

/-!
# A node's own entries

The reserved actors merge whatever a message lists, and do not look at the origin. So a snapshot of a
peer can bring back an actor of the node itself that has ended since the peer heard of it. As long as
the messages tell a node nothing new about its own actors, only its own operations change their
entries.
-/

namespace LapinBeam.Directory

namespace Node

/-- The next message tells the node nothing new about its own actors, and the node does not lose itself as a peer. -/
def unadvised (node : Node) : NodeAction → Bool
  | .groups .receive =>
      match node.groups.mailbox with
      | [] => true
      | (_, msg) :: _ =>
          decide (∀ entry ∈ Groups.reading.adds msg, entry.2.origin = node.localId →
            entry.2 ∈ node.bucket entry.1) &&
          decide (∀ entry ∈ Groups.reading.drops msg, entry.2.origin = node.localId →
            entry.2 ∉ node.bucket entry.1)
  | .registry .receive =>
      match node.registry.mailbox with
      | [] => true
      | (_, msg) :: _ =>
          decide (∀ entry ∈ Registry.reading.adds msg, entry.2.origin = node.localId →
            (node.owner? entry.1).isSome = true) &&
          decide (∀ entry ∈ Registry.reading.drops msg, entry.2.origin = node.localId →
            node.owner? entry.1 ≠ some entry.2)
  | .disconnected peer => peer ≠ node.localId
  | _ => true

def Joins (group name : String) (action : NodeAction) : Prop :=
  ∃ ref current, action = .groups (.perform (.join group ref current)) ∧
    ref.or current = some name

def Leaves (group name : String) (action : NodeAction) : Prop :=
  (∃ ref current, action = .groups (.perform (.leave group ref current)) ∧
    ref.or current = some name) ∨ action = .ended name

def Registers (name actor : String) (action : NodeAction) : Prop :=
  ∃ ref current, action = .registry (.perform (.register name ref current)) ∧
    ref.or current = some actor

def Releases (name actor : String) (action : NodeAction) : Prop :=
  (∃ ref current, action = .registry (.perform (.unregister name ref current)) ∧
    ref.or current = some actor) ∨ action = .ended actor

/-- A run changes an entry of the node's own only if one of its actions is an operation of the node on that entry. -/
structure OwnEntriesKept (node : Node) (actions : List NodeAction) (later : Node) : Prop where
  joined : ∀ {group name}, ⟨node.localId, name⟩ ∉ node.bucket group →
    ⟨node.localId, name⟩ ∈ later.bucket group → ∃ action ∈ actions, Joins group name action
  left : ∀ {group name}, ⟨node.localId, name⟩ ∈ node.bucket group →
    ⟨node.localId, name⟩ ∉ later.bucket group → ∃ action ∈ actions, Leaves group name action
  registered : ∀ {name actor}, node.owner? name ≠ some ⟨node.localId, actor⟩ →
    later.owner? name = some ⟨node.localId, actor⟩ → ∃ action ∈ actions, Registers name actor action
  released : ∀ {name actor}, node.owner? name = some ⟨node.localId, actor⟩ →
    later.owner? name ≠ some ⟨node.localId, actor⟩ → ∃ action ∈ actions, Releases name actor action

section Groups

variable {node : Node} {action : NodeAction} {after : Groups} {group name : String}
  (hchange : node.GroupsChange action after) (hunadvised : node.unadvised action = true)
include hchange hunadvised

theorem GroupsChange.joined (hbefore : ⟨node.localId, name⟩ ∉ node.bucket group)
    (hafter : ⟨node.localId, name⟩ ∈ after.bucket group) : Joins group name action := by
  have hhas := Groups.has_mk_iff.mpr hafter
  cases hchange with
  | same => exact absurd hafter hbefore
  | performed hlocal hperformed =>
      rcases (hperformed.has_iff _).mp hhas with ⟨hold, -⟩ | ⟨msg, hmsg, hadds⟩
      · exact absurd (Groups.has_mk_iff.mp hold) hbefore
      · cases hperformed with
        | @joined other actor ref current hme =>
            obtain rfl := List.mem_singleton.mp hmsg
            obtain ⟨rfl, heq⟩ := Prod.mk.inj (Finset.mem_singleton.mp hadds)
            obtain ⟨-, rfl⟩ := Member.mk.inj heq
            exact ⟨ref, current, rfl, hme⟩
        | left =>
            obtain rfl := List.mem_singleton.mp hmsg
            cases hadds
        | cleared => exact absurd rfl (hlocal _)
  | cleared => exact absurd (Groups.has_mk_iff.mp (Groups.has_clearGroups.mp hhas).1) hbefore
  | received hmailbox =>
      rw [unadvised, hmailbox, Bool.and_eq_true] at hunadvised
      rcases (Groups.has_receive.mp hhas).2 with hadds | hold
      · exact absurd (of_decide_eq_true hunadvised.1 _ hadds rfl) hbefore
      · exact absurd (Groups.has_mk_iff.mp hold) hbefore
  | purged =>
      rw [Groups.bucket_dropPeerMembers] at hafter
      exact absurd (Finset.mem_of_mem_filter _ hafter) hbefore

theorem GroupsChange.left (hbefore : ⟨node.localId, name⟩ ∈ node.bucket group)
    (hafter : ⟨node.localId, name⟩ ∉ after.bucket group) : Leaves group name action := by
  have hhas := Groups.has_mk_iff.mpr hbefore
  have hgone := mt Groups.has_mk_iff.mp hafter
  cases hchange with
  | same => exact absurd hbefore hafter
  | performed hlocal hperformed =>
      obtain ⟨msg, hmsg, hdrops⟩ : ∃ msg ∈ _, (group, ⟨node.localId, name⟩) ∈ Groups.reading.drops msg := by
        by_contra! hnone
        exact hgone ((hperformed.has_iff _).mpr (.inl ⟨hhas, hnone⟩))
      cases hperformed with
      | joined =>
          obtain rfl := List.mem_singleton.mp hmsg
          cases hdrops
      | @left other actor ref current hme =>
          obtain rfl := List.mem_singleton.mp hmsg
          obtain ⟨rfl, heq⟩ := Prod.mk.inj (Finset.mem_singleton.mp hdrops)
          obtain ⟨-, rfl⟩ := Member.mk.inj heq
          exact .inl ⟨ref, current, rfl, hme⟩
      | cleared => exact absurd rfl (hlocal _)
  | @cleared actor =>
      by_cases heq : name = actor
      · exact .inr (heq ▸ rfl)
      · exact absurd (Groups.has_clearGroups.mpr ⟨hhas, fun hsame => heq (Member.mk.inj hsame).2⟩)
          hgone
  | received hmailbox =>
      rw [unadvised, hmailbox, Bool.and_eq_true] at hunadvised
      refine absurd (Groups.has_receive.mpr ⟨fun hdrops => ?_, .inr hhas⟩) hgone
      exact of_decide_eq_true hunadvised.2 _ hdrops rfl hbefore
  | purged =>
      rw [Groups.bucket_dropPeerMembers, Finset.mem_filter] at hafter
      have hother : _ ≠ node.localId := of_decide_eq_true hunadvised
      exact absurd ⟨hbefore, hother.symm⟩ hafter

end Groups

section Registry

variable {node : Node} {action : NodeAction} {after : Registry} {name actor : String}
  (hchange : node.RegistryChange action after) (hunadvised : node.unadvised action = true)
include hchange hunadvised

theorem RegistryChange.registered (hbefore : node.owner? name ≠ some ⟨node.localId, actor⟩)
    (hafter : after.owners.lookup name = some ⟨node.localId, actor⟩) :
    Registers name actor action := by
  have hhas := Registry.has_mk_iff.mpr hafter
  cases hchange with
  | same => exact absurd hafter hbefore
  | performed hlocal hperformed =>
      rcases (hperformed.has_iff _).mp hhas with ⟨hold, -⟩ | ⟨msg, hmsg, hadds⟩
      · exact absurd (Registry.has_mk_iff.mp hold) hbefore
      · cases hperformed with
        | @registered other owner ref current hme =>
            obtain rfl := List.mem_singleton.mp hmsg
            obtain ⟨rfl, heq⟩ := Prod.mk.inj (Finset.mem_singleton.mp hadds)
            obtain ⟨-, rfl⟩ := Member.mk.inj heq
            exact ⟨ref, current, rfl, hme⟩
        | unregistered =>
            obtain rfl := List.mem_singleton.mp hmsg
            cases hadds
        | unowned => cases hmsg
        | cleared => exact absurd rfl (hlocal _)
  | cleared =>
      rw [Registry.lookup_clearRegistry, Option.filter_eq_some_iff] at hafter
      exact absurd hafter.1 hbefore
  | received hmailbox =>
      rw [unadvised, hmailbox, Bool.and_eq_true] at hunadvised
      rcases (Registry.receive_has hhas).2 with hadds | hold
      · obtain ⟨owner, howner⟩ :=
          Option.isSome_iff_exists.mp (of_decide_eq_true hunadvised.1 _ hadds rfl)
        obtain rfl := Registry.owner_of_claimed hadds hhas howner
        exact absurd howner hbefore
      · exact absurd (Registry.has_mk_iff.mp hold) hbefore
  | purged =>
      rw [Registry.dropPeerNames, Registry.lookup_deleteWhere, Option.filter_eq_some_iff] at hafter
      exact absurd hafter.1 hbefore

theorem RegistryChange.released (hbefore : node.owner? name = some ⟨node.localId, actor⟩)
    (hafter : after.owners.lookup name ≠ some ⟨node.localId, actor⟩) :
    Releases name actor action := by
  have hhas := Registry.has_mk_iff.mpr hbefore
  have hgone := mt Registry.has_mk_iff.mp hafter
  cases hchange with
  | same => exact absurd hbefore hafter
  | performed hlocal hperformed =>
      obtain ⟨msg, hmsg, hdrops⟩ :
          ∃ msg ∈ _, (name, ⟨node.localId, actor⟩) ∈ Registry.reading.drops msg := by
        by_contra! hnone
        exact hgone ((hperformed.has_iff _).mpr (.inl ⟨hhas, hnone⟩))
      cases hperformed with
      | registered =>
          obtain rfl := List.mem_singleton.mp hmsg
          cases hdrops
      | @unregistered other owner ref current hme =>
          obtain rfl := List.mem_singleton.mp hmsg
          obtain ⟨rfl, heq⟩ := Prod.mk.inj (Finset.mem_singleton.mp hdrops)
          obtain ⟨-, rfl⟩ := Member.mk.inj heq
          exact .inl ⟨ref, current, rfl, hme⟩
      | unowned => cases hmsg
      | cleared => exact absurd rfl (hlocal _)
  | @cleared other =>
      by_cases heq : actor = other
      · exact .inr (heq ▸ rfl)
      · rw [Registry.lookup_clearRegistry] at hafter
        exact absurd (Option.filter_eq_some_iff.mpr ⟨hbefore, by simp [heq]⟩) hafter
  | received hmailbox =>
      rw [unadvised, hmailbox, Bool.and_eq_true] at hunadvised
      refine absurd (Registry.receive_kept hhas fun hdrops => ?_) hgone
      exact of_decide_eq_true hunadvised.2 _ hdrops rfl hbefore
  | purged =>
      have hother : _ ≠ node.localId := of_decide_eq_true hunadvised
      rw [Registry.dropPeerNames, Registry.lookup_deleteWhere] at hafter
      exact absurd (Option.filter_eq_some_iff.mpr ⟨hbefore, by simp [hother.symm]⟩) hafter

end Registry

/-- In every run in which messages tell the node nothing new about its own actors, only its own operations change their entries. -/
theorem own_entries_kept {node later : Node} {actions : List NodeAction}
    (hrun : Machine.runWhere step (fun node action => node.unadvised action = true) node actions =
      some later) : node.OwnEntriesKept actions later := by
  have hblame {P : Node → Prop} {Cause : NodeAction → Prop}
      (hcause : ∀ state action next, state.localId = node.localId →
        state.unadvised action = true → state.step action = some next → ¬ P state → P next →
        Cause action) (hbefore : ¬ P node) (hafter : P later) : ∃ action ∈ actions, Cause action :=
    Machine.exists_mem_of_runWhere (fun _ _ _ hlocal hstep => (localId_step hstep).trans hlocal)
      hcause rfl hrun hbefore hafter
  refine ⟨fun {group name} hbefore hafter => ?_, fun {group name} hbefore hafter => ?_,
    fun {name actor} hbefore hafter => ?_, fun {name actor} hbefore hafter => ?_⟩
  · refine hblame (P := fun state => ⟨node.localId, name⟩ ∈ state.bucket group) ?_ hbefore hafter
    rintro state action next hlocal hunadvised hstep
    rw [← hlocal]
    exact (groupsChange hstep).joined hunadvised
  · refine hblame (P := fun state => ⟨node.localId, name⟩ ∉ state.bucket group) ?_
      (not_not_intro hbefore) hafter
    rintro state action next hlocal hunadvised hstep hold
    rw [← hlocal] at hold ⊢
    exact (groupsChange hstep).left hunadvised (not_not.mp hold)
  · refine hblame (P := fun state => state.owner? name = some ⟨node.localId, actor⟩) ?_ hbefore
      hafter
    rintro state action next hlocal hunadvised hstep
    rw [← hlocal]
    exact (registryChange hstep).registered hunadvised
  · refine hblame (P := fun state => state.owner? name ≠ some ⟨node.localId, actor⟩) ?_
      (not_not_intro hbefore) hafter
    rintro state action next hlocal hunadvised hstep hold
    rw [← hlocal] at hold ⊢
    exact (registryChange hstep).released hunadvised (not_not.mp hold)

end Node

/-! ### An actor that comes back

`w` is an actor of `a`, in the group `g` and the owner of the name `leader`; after it has ended, its
node takes a message of `b`. -/

namespace Fixed

def hearing (groups : GroupMessage) (registry : RegistryMessage) : List NodeAction :=
  [.groups .register, .registry .register, .connected "b",
    .groups (.perform (.join "g" (some "w") none)),
    .registry (.perform (.register "leader" (some "w") none)), .ended "w",
    .groups (.arrive "b" groups), .registry (.arrive "b" registry)]

end Fixed

namespace Node

theorem own_entries_kept_hearing :
    ∃ later : Node, (⟨"b", "v"⟩ ∈ later.bucket "g" ∧ later.owner? "leader" = some ⟨"b", "v"⟩) ∧
      (start "a").OwnEntriesKept
        (Fixed.hearing (.join "g" ⟨"b", "v"⟩) (.claim "leader" ⟨"b", "v"⟩) ++
          [.groups .receive, .registry .receive]) later := by
  have hrun : (Machine.runWhere step (fun node action => node.unadvised action = true) (start "a")
      (Fixed.hearing (.join "g" ⟨"b", "v"⟩) (.claim "leader" ⟨"b", "v"⟩) ++
        [.groups .receive, .registry .receive])).map (fun later =>
          decide (⟨"b", "v"⟩ ∈ later.bucket "g" ∧ later.owner? "leader" = some ⟨"b", "v"⟩)) =
      some true := by
    decide +kernel
  obtain ⟨later, hlater, hobserved⟩ := Option.map_eq_some_iff.mp hrun
  exact ⟨later, of_decide_eq_true hobserved, own_entries_kept hlater⟩

/-- A snapshot of a peer puts the ended actor back into its group, and makes it the owner of its name. -/
theorem own_entries_restored :
    ∃ node groups registry : Node, Machine.Reachable step (start "a") node ∧
      node.step (.groups .receive) = some groups ∧
      ⟨"a", "w"⟩ ∉ node.bucket "g" ∧ ⟨"a", "w"⟩ ∈ groups.bucket "g" ∧
      node.step (.registry .receive) = some registry ∧
      node.owner? "leader" = none ∧ registry.owner? "leader" = some ⟨"a", "w"⟩ := by
  have hrun : (Machine.runWhere step (fun _ _ => True) (start "a")
      (Fixed.hearing (.snapshot (AList.singleton "g" {⟨"a", "w"⟩}))
        (.snapshot (AList.singleton "leader" ⟨"a", "w"⟩)))).map (fun node =>
        (decide (⟨"a", "w"⟩ ∉ node.bucket "g" ∧ node.owner? "leader" = none),
          (node.step (.groups .receive)).map fun next => decide (⟨"a", "w"⟩ ∈ next.bucket "g"),
          (node.step (.registry .receive)).map fun next => next.owner? "leader")) =
      some (true, some true, some (some ⟨"a", "w"⟩)) := by
    decide +kernel
  obtain ⟨node, hreach, hobserved⟩ := Machine.exists_reachableWhere hrun
  simp only [Prod.mk.injEq, decide_eq_true_eq] at hobserved
  obtain ⟨⟨hmember, howner⟩, hgroups, hregistry⟩ := hobserved
  obtain ⟨groups, hgroups, hback⟩ := Option.map_eq_some_iff.mp hgroups
  obtain ⟨registry, hregistry, hagain⟩ := Option.map_eq_some_iff.mp hregistry
  exact ⟨node, groups, registry, hreach, hgroups, hmember, of_decide_eq_true hback, hregistry,
    howner, hagain⟩

end Node

end LapinBeam.Directory
