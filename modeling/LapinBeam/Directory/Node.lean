import LapinBeam.Directory.Registry

/-!
# The groups and the registry of one node

Both tables hear the same peer events and lose the entries of an actor together, when its generation
ends. Their reserved actors each have a mailbox of their own, and anything may arrive there.
-/

namespace LapinBeam.Directory

structure Node where
  localId : String
  groups : Gossip.Site String Groups GroupMessage
  registry : Gossip.Site String Registry RegistryMessage

inductive NodeAction
  | groups (action : Gossip.SiteAction String GroupOp GroupMessage)
  | registry (action : Gossip.SiteAction String RegistryOp RegistryMessage)
  | connected (peer : String)
  | disconnected (peer : String)
  /-- The generation of an actor ends: `_clear_groups` and `_clear_registry`. -/
  | ended (name : String)

namespace Node

def start (localId : String) : Node where
  localId := localId
  groups := .start Groups.protocol
  registry := .start Registry.protocol

variable (node : Node)

def step : NodeAction → Option Node
  | .groups (.perform (.clear _)) | .registry (.perform (.clear _)) => none
  | .groups action =>
      (node.groups.step Groups.protocol node.localId action).map fun groups =>
        { node with groups }
  | .registry action =>
      (node.registry.step Registry.protocol node.localId action).map fun registry =>
        { node with registry }
  | .connected peer =>
      some { node with
        groups := node.groups.connected peer
        registry := node.registry.connected peer }
  | .disconnected peer =>
      some { node with
        groups := node.groups.disconnected Groups.protocol peer
        registry := node.registry.disconnected Registry.protocol peer }
  | .ended name =>
      some { node with
        groups := node.groups.perform Groups.protocol node.localId (.clear name)
        registry := node.registry.perform Registry.protocol node.localId (.clear name) }

def bucket (group : String) : Finset Member := node.groups.table.bucket group

def owner? (name : String) : Option Member := node.registry.table.owners.lookup name

inductive GroupsChange : NodeAction → Groups → Prop
  | same {action} : GroupsChange action node.groups.table
  | performed {op after msgs} (hlocal : ∀ name, op ≠ .clear name)
      (hperformed : Groups.Performed node.localId node.groups.table op after msgs) :
      GroupsChange (.groups (.perform op)) after
  | cleared {name} : GroupsChange (.ended name) (node.groups.table.clearGroups node.localId name).1
  | received {source msg rest} (hmailbox : node.groups.mailbox = (source, msg) :: rest) :
      GroupsChange (.groups .receive) (node.groups.table.receive msg)
  | purged {peer} : GroupsChange (.disconnected peer) (node.groups.table.dropPeerMembers peer)

inductive RegistryChange : NodeAction → Registry → Prop
  | same {action} : RegistryChange action node.registry.table
  | performed {op after msgs} (hlocal : ∀ actor, op ≠ .clear actor)
      (hperformed : Registry.Performed node.localId node.registry.table op after msgs) :
      RegistryChange (.registry (.perform op)) after
  | cleared {actor} :
      RegistryChange (.ended actor) (node.registry.table.clearRegistry node.localId actor).1
  | received {source msg rest} (hmailbox : node.registry.mailbox = (source, msg) :: rest) :
      RegistryChange (.registry .receive) (node.registry.table.receive msg)
  | purged {peer} : RegistryChange (.disconnected peer) (node.registry.table.dropPeerNames peer)

variable {node} {next : Node} {action : NodeAction}

theorem step_groups {action : Gossip.SiteAction String GroupOp GroupMessage}
    (hstep : node.step (.groups action) = some next) :
    (∀ name, action ≠ .perform (.clear name)) ∧
      ∃ groups, node.groups.step Groups.protocol node.localId action = some groups ∧
        { node with groups } = next := by
  have hlocal : ∀ name, action ≠ .perform (.clear name) := by
    rintro name rfl
    cases hstep
  rw [step] at hstep
  · exact ⟨hlocal, Option.map_eq_some_iff.mp hstep⟩
  · exact hlocal

theorem step_registry {action : Gossip.SiteAction String RegistryOp RegistryMessage}
    (hstep : node.step (.registry action) = some next) :
    (∀ actor, action ≠ .perform (.clear actor)) ∧
      ∃ registry, node.registry.step Registry.protocol node.localId action = some registry ∧
        { node with registry } = next := by
  have hlocal : ∀ actor, action ≠ .perform (.clear actor) := by
    rintro actor rfl
    cases hstep
  rw [step] at hstep
  · exact ⟨hlocal, Option.map_eq_some_iff.mp hstep⟩
  · exact hlocal

theorem localId_step (hstep : node.step action = some next) : next.localId = node.localId := by
  cases action with
  | groups action =>
      obtain ⟨-, _, -, rfl⟩ := step_groups hstep
      rfl
  | registry action =>
      obtain ⟨-, _, -, rfl⟩ := step_registry hstep
      rfl
  | connected | disconnected | ended =>
      obtain rfl := Option.some.inj hstep
      rfl

theorem groupsChange (hstep : node.step action = some next) :
    node.GroupsChange action next.groups.table := by
  cases action with
  | groups action =>
      obtain ⟨hlocal, groups, hsite, rfl⟩ := step_groups hstep
      rcases Gossip.Site.table_step hsite with
        hsame | ⟨op, msgs, rfl, hperform⟩ | ⟨source, msg, rest, rfl, hmailbox, htable⟩
      · exact hsame ▸ .same
      · exact .performed (fun name heq => hlocal name (heq ▸ rfl)) (Groups.performed_of_ok hperform)
      · exact htable ▸ .received hmailbox
  | registry action =>
      obtain ⟨-, _, -, rfl⟩ := step_registry hstep
      exact .same
  | connected peer =>
      obtain rfl := Option.some.inj hstep
      show node.GroupsChange _ (node.groups.connected peer).table
      exact node.groups.table_connected peer ▸ .same
  | disconnected peer =>
      obtain rfl := Option.some.inj hstep
      show node.GroupsChange _ (node.groups.disconnected Groups.protocol peer).table
      rcases node.groups.table_disconnected Groups.protocol peer with hsame | hpurged
      · exact hsame ▸ .same
      · exact hpurged ▸ .purged
  | ended name =>
      obtain rfl := Option.some.inj hstep
      exact .cleared

theorem registryChange (hstep : node.step action = some next) :
    node.RegistryChange action next.registry.table := by
  cases action with
  | groups action =>
      obtain ⟨-, _, -, rfl⟩ := step_groups hstep
      exact .same
  | registry action =>
      obtain ⟨hlocal, registry, hsite, rfl⟩ := step_registry hstep
      rcases Gossip.Site.table_step hsite with
        hsame | ⟨op, msgs, rfl, hperform⟩ | ⟨source, msg, rest, rfl, hmailbox, htable⟩
      · exact hsame ▸ .same
      · exact .performed (fun actor heq => hlocal actor (heq ▸ rfl))
          (Registry.performed_of_ok hperform)
      · exact htable ▸ .received hmailbox
  | connected peer =>
      obtain rfl := Option.some.inj hstep
      show node.RegistryChange _ (node.registry.connected peer).table
      exact node.registry.table_connected peer ▸ .same
  | disconnected peer =>
      obtain rfl := Option.some.inj hstep
      show node.RegistryChange _ (node.registry.disconnected Registry.protocol peer).table
      rcases node.registry.table_disconnected Registry.protocol peer with hsame | hpurged
      · exact hsame ▸ .same
      · exact hpurged ▸ .purged
  | ended actor =>
      obtain rfl := Option.some.inj hstep
      exact .cleared

end Node

end LapinBeam.Directory
