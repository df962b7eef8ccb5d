import LapinBeam.Directory.Node

/-!
# No silent takeover of a name

Every step that writes to the registry of a node, from `register_name` to the merge of a snapshot,
looks at the owner the name has already.
-/

namespace LapinBeam.Directory

namespace Registry

theorem name_of_conflict {registry : Registry} {name : String} {owner : Member} {event : Conflict}
    (hconflict : registry.conflict name owner = some event) : event.name = name := by
  obtain ⟨existing, -, rfl⟩ := Option.map_eq_some_iff.mp hconflict
  rfl

variable (registry : Registry) {entries : List (Sigma fun _ : String => Member)} {name : String}

theorem filter_conflicts_of_notMem (hkey : name ∉ entries.keys) :
    (entries.filterMap fun entry => registry.conflict entry.1 entry.2).filter (·.name = name) =
      [] := by
  rw [List.filter_eq_nil_iff]
  intro event hevent
  obtain ⟨entry, hentry, hconflict⟩ := List.mem_filterMap.mp hevent
  rw [name_of_conflict hconflict, decide_eq_true_iff]
  rintro rfl
  exact hkey (List.mem_map_of_mem hentry)

theorem filter_conflicts (hkeys : entries.NodupKeys) {owner : Member}
    (hlookup : entries.dlookup name = some owner) :
    (entries.filterMap fun entry => registry.conflict entry.1 entry.2).filter (·.name = name) =
      (registry.conflict name owner).toList := by
  induction entries with
  | nil => cases hlookup
  | cons first entries ih =>
      obtain ⟨other, claimer⟩ := first
      obtain ⟨hfirst, hrest⟩ := List.nodupKeys_cons.mp hkeys
      rw [List.filterMap_cons]
      by_cases heq : name = other
      · subst heq
        obtain rfl : claimer = owner := by simpa using hlookup
        have hnone := filter_conflicts_of_notMem registry hfirst
        cases hconflict : registry.conflict name claimer with
        | none => simpa [hconflict] using hnone
        | some event => simpa [hconflict, name_of_conflict hconflict] using hnone
      · rw [List.dlookup_cons_ne entries ⟨other, claimer⟩ heq] at hlookup
        have hothers := ih hrest hlookup
        cases hconflict : registry.conflict other claimer with
        | none => simpa [hconflict] using hothers
        | some event =>
            simpa [hconflict, name_of_conflict hconflict, Ne.symm heq] using hothers

end Registry

namespace Node

inductive Freed (node : Node) (name : String) (owner : Member) : NodeAction → Prop
  | unregistered {ref current} (hlocal : owner.origin = node.localId)
      (hme : ref.or current = some owner.name) :
      Freed node name owner (.registry (.perform (.unregister name ref current)))
  | released {source rest}
      (hmailbox : node.registry.mailbox = (source, .release name owner) :: rest) :
      Freed node name owner (.registry .receive)
  | ended (hlocal : owner.origin = node.localId) : Freed node name owner (.ended owner.name)
  | purged : Freed node name owner (.disconnected owner.origin)

section Kept

variable {node : Node} {name : String} {owner : Member}
  (howner : node.registry.table.owners.lookup name = some owner)
include howner

theorem RegistryChange.kept_or_freed {action : NodeAction} {after : Registry}
    (hchange : node.RegistryChange action after) :
    after.owners.lookup name = some owner ∨
      after.owners.lookup name = none ∧ node.Freed name owner action := by
  cases hchange with
  | same => exact .inl howner
  | performed hlocal hperformed =>
      cases hperformed with
      | @registered claimed actor _ _ _ hfree =>
          rw [Registry.lookup_set]
          by_cases heq : name = claimed
          · subst heq
            exact .inl (by rw [if_pos rfl, hfree owner howner])
          · exact .inl (by rw [if_neg heq, howner])
      | @unregistered released actor _ _ hme hreleased =>
          rw [Registry.lookup_delete]
          by_cases heq : name = released
          · subst heq
            obtain rfl := Option.some.inj (howner.symm.trans hreleased)
            exact .inr ⟨if_pos rfl, .unregistered rfl hme⟩
          · exact .inl (by rw [if_neg heq, howner])
      | unowned => exact .inl howner
      | cleared => exact absurd rfl (hlocal _)
  | @cleared actor =>
      rw [Registry.lookup_clearRegistry, howner]
      by_cases heq : owner = ⟨node.localId, actor⟩
      · subst heq
        exact .inr ⟨by simp [Option.filter], .ended rfl⟩
      · exact .inl (by simp [Option.filter, heq])
  | @received source msg rest hmailbox =>
      cases msg with
      | claim claimed claimer =>
          rw [Registry.receive, Registry.lookup_claim]
          by_cases heq : name = claimed
          · subst heq
            exact .inl (by rw [if_pos rfl, howner, Option.getD_some])
          · exact .inl (by rw [if_neg heq, howner])
      | release released releaser =>
          rw [Registry.lookup_receive_release]
          by_cases heq : name = released
          · subst heq
            rw [if_pos rfl, howner]
            by_cases hsame : owner = releaser
            · subst hsame
              exact .inr ⟨by simp [Option.filter], .released hmailbox⟩
            · exact .inl (by simp [Option.filter, hsame])
          · exact .inl (by rw [if_neg heq, howner])
      | snapshot owners =>
          exact .inl (by rw [Registry.lookup_receive_snapshot, howner, Option.some_or])
  | @purged peer =>
      rw [Registry.dropPeerNames, Registry.lookup_deleteWhere, howner]
      by_cases heq : owner.origin = peer
      · subst heq
        exact .inr ⟨by simp [Option.filter], .purged⟩
      · exact .inl (by simp [Option.filter, heq])

theorem registerName_refused {ref current : Option String} {actor : String}
    (hme : ref.or current = some actor) (hother : ⟨node.localId, actor⟩ ≠ owner) :
    node.registry.table.registerName node.localId name ref current =
      .error (.valueError ("name '" ++ name ++ "' is already registered to ('" ++ owner.origin ++
        "', '" ++ owner.name ++ "')")) := by
  have hok : me "register_name()/unregister_name()" ref current = .ok actor := me_eq_ok.mpr hme
  simp [Registry.registerName, hok, howner, hother.symm, bind, Except.bind, throw, throwThe,
    MonadExceptOf.throw]

end Kept

/-- An owner is not replaced: it loses its name in four ways only, and whoever else claims the name is told so, or reported. -/
structure Guarded (node : Node) (name : String) (owner : Member) : Prop where
  kept : ∀ {action next}, node.step action = some next →
    next.owner? name = some owner ∨ next.owner? name = none ∧ node.Freed name owner action
  refused : ∀ {ref current actor}, ref.or current = some actor →
    ⟨node.localId, actor⟩ ≠ owner →
    node.step (.registry (.perform (.register name ref current))) = some node ∧
      ∃ text, node.registry.table.registerName node.localId name ref current =
        .error (.valueError text)
  reported : ∀ {other}, other ≠ owner →
    node.registry.table.receive (.claim name other) =
      { node.registry.table with
        events := node.registry.table.events ++ [⟨name, owner, other⟩] }
  merged : ∀ {owners : Owners} {other}, owners.lookup name = some other → other ≠ owner →
    (∃ events, (node.registry.table.receive (.snapshot owners)).events =
        node.registry.table.events ++ events ∧
      events.filter (·.name = name) = [⟨name, owner, other⟩]) ∧
    ∀ another, (node.registry.table.receive (.snapshot owners)).owners.lookup another =
      (node.registry.table.owners.lookup another).or (owners.lookup another)

theorem no_silent_takeover {node : Node} {name : String} {owner : Member}
    (howner : node.owner? name = some owner) : node.Guarded name owner where
  kept hstep := (registryChange hstep).kept_or_freed howner
  refused {ref current _} hme hother := by
    have hrefused := registerName_refused howner hme hother
    have hsite : node.registry.perform Registry.protocol node.localId (.register name ref current) =
        node.registry := by
      rw [Gossip.Site.perform, show Registry.protocol.perform node.localId node.registry.table
        (.register name ref current) = _ from hrefused]
    refine ⟨?_, _, hrefused⟩
    show some { node with registry := node.registry.perform _ _ _ } = some node
    rw [hsite]
  reported hother := by
    have hlookup : node.registry.table.owners.lookup name = some owner := howner
    simp [Registry.receive, Registry.claim, hlookup, hother.symm]
  merged {owners other} hlookup hother := by
    refine ⟨⟨_, Registry.events_foldl_claim _ _ owners.nodupKeys, ?_⟩, fun another =>
      Registry.lookup_receive_snapshot _ another owners⟩
    have hbefore : node.registry.table.owners.lookup name = some owner := howner
    rw [Registry.filter_conflicts _ owners.nodupKeys hlookup, Registry.conflict, hbefore]
    simp [Option.filter, hother.symm]

theorem no_silent_takeover_claimed :
    ∃ node : Node, Machine.Reachable step (start "a") node ∧
      node.owner? "leader" = some ⟨"b", "v"⟩ ∧ node.Guarded "leader" ⟨"b", "v"⟩ := by
  have hrun : (Machine.runWhere step (fun _ _ => True) (start "a")
      [.registry .register, .connected "b",
        .registry (.arrive "b" (.claim "leader" ⟨"b", "v"⟩)), .registry .receive]).map
        (fun node => node.owner? "leader") = some (some ⟨"b", "v"⟩) := by
    decide +kernel
  obtain ⟨node, hreach, howner⟩ := Machine.exists_reachableWhere hrun
  exact ⟨node, hreach, howner, no_silent_takeover howner⟩

end Node

end LapinBeam.Directory
