import LapinBeam.Directory.Registry
import LapinBeam.Lib.GossipViews

/-!
# Who owns a name

The registry is a table kept by broadcast; its entries are the names with their owners and belong to
the nodes of the owners. A claim is refused where the name has another owner, so the nodes may
disagree for good about a name that was claimed twice; but nobody resolves a name to an actor that
does not have it, unless a snapshot of a third node was overtaken by the release.
-/

namespace LapinBeam.Directory

namespace Registry

def reading : Gossip.Reading String Registry RegistryMessage (String × Member) where
  origin entry := entry.2.origin
  has registry entry := registry.owners.lookup entry.1 = some entry.2
  adds
    | .claim name owner => {(name, owner)}
    | .release _ _ => ∅
    | .snapshot owners => (owners.entries.map fun entry => (entry.1, entry.2)).toFinset
  drops
    | .release name owner => {(name, owner)}
    | _ => ∅

section Reading

variable {registry after : Registry} {msgs : List RegistryMessage} {entry : String × Member}
  {localId : String} {msg : RegistryMessage}

theorem has_iff : reading.has registry entry = true ↔ registry.owners.lookup entry.1 = some entry.2 :=
  decide_eq_true_iff

theorem has_mk_iff {name : String} {owner : Member} :
    reading.has registry (name, owner) = true ↔ registry.owners.lookup name = some owner :=
  decide_eq_true_iff

theorem has_eq_false_iff :
    reading.has registry entry = false ↔ registry.owners.lookup entry.1 ≠ some entry.2 :=
  decide_eq_false_iff_not

theorem mem_adds_snapshot {owners : Owners} :
    entry ∈ reading.adds (.snapshot owners) ↔ owners.lookup entry.1 = some entry.2 := by
  obtain ⟨name, owner⟩ := entry
  rw [← Option.mem_def, AList.mem_lookup_iff]
  simp only [reading, List.mem_toFinset, List.mem_map, Prod.mk.injEq]
  constructor
  · rintro ⟨_, hentry, rfl, rfl⟩
    exact hentry
  · exact fun hentry => ⟨_, hentry, rfl, rfl⟩

theorem mem_clearRegistry {actor : String} :
    msg ∈ (registry.clearRegistry localId actor).2 ↔
      ∃ name, registry.owners.lookup name = some ⟨localId, actor⟩ ∧
        msg = .release name ⟨localId, actor⟩ := by
  simp [clearRegistry, mem_namesWhere, eq_comm]

theorem Performed.has_iff {op : RegistryOp} (hperformed : Performed localId registry op after msgs)
    (entry : String × Member) :
    reading.has after entry = true ↔
      (reading.has registry entry = true ∧ ∀ msg ∈ msgs, entry ∉ reading.drops msg) ∨
        ∃ msg ∈ msgs, entry ∈ reading.adds msg := by
  obtain ⟨name, owner⟩ := entry
  rw [Registry.has_iff, Registry.has_iff]
  cases hperformed with
  | @registered claimed actor _ _ _ hfree =>
      rw [lookup_set]
      by_cases heq : name = claimed
      · subst heq
        simp only [reading, List.mem_singleton, forall_eq, exists_eq_left, Finset.notMem_empty,
          not_false_eq_true, and_true, Finset.mem_singleton, Prod.mk.injEq, true_and, ↓reduceIte,
          Option.some.injEq]
        constructor
        · exact fun howner => .inr howner.symm
        · rintro (hbefore | howner)
          · exact (hfree owner hbefore).symm
          · exact howner.symm
      · simp [reading, heq]
  | @unregistered released actor _ _ _ howner =>
      rw [lookup_delete]
      by_cases heq : name = released
      · subst heq
        simp [reading, howner, eq_comm]
      · simp [reading, heq]
  | unowned => simp
  | @cleared actor =>
      have hadds : ¬∃ msg ∈ (registry.clearRegistry localId actor).2,
          (name, owner) ∈ reading.adds msg := by
        rintro ⟨msg, hmsg, hadds⟩
        obtain ⟨_, -, rfl⟩ := mem_clearRegistry.mp hmsg
        simp [reading] at hadds
      rw [lookup_clearRegistry, or_iff_left hadds, Option.filter_eq_some_iff]
      refine and_congr_right fun hbefore => ?_
      constructor
      · intro hother msg hmsg hdrops
        obtain ⟨_, -, rfl⟩ := mem_clearRegistry.mp hmsg
        simp_all [reading]
      · intro hnone
        simp only [Bool.not_eq_true', decide_eq_false_iff_not]
        rintro rfl
        exact hnone _ (mem_clearRegistry.mpr ⟨name, hbefore, rfl⟩) (Finset.mem_singleton_self _)

theorem Performed.origin_eq {op : RegistryOp}
    (hperformed : Performed localId registry op after msgs) (msg : RegistryMessage)
    (hmsg : msg ∈ msgs) (entry : String × Member)
    (hentry : entry ∈ reading.adds msg ∨ entry ∈ reading.drops msg) :
    reading.origin entry = localId := by
  cases hperformed with
  | registered | unregistered =>
      obtain rfl := List.mem_singleton.mp hmsg
      simp only [reading, Finset.mem_singleton, Finset.notMem_empty, or_false, false_or] at hentry
      rw [hentry]
      rfl
  | unowned => cases hmsg
  | cleared =>
      obtain ⟨_, -, rfl⟩ := mem_clearRegistry.mp hmsg
      simp only [reading, Finset.mem_singleton, Finset.notMem_empty, false_or] at hentry
      rw [hentry]
      rfl

theorem receive_has (hafter : reading.has (registry.receive msg) entry = true) :
    entry ∉ reading.drops msg ∧
      (entry ∈ reading.adds msg ∨ reading.has registry entry = true) := by
  obtain ⟨name, owner⟩ := entry
  rw [has_iff] at hafter ⊢
  cases msg with
  | claim claimed claimer =>
      rw [receive, lookup_claim] at hafter
      by_cases heq : name = claimed
      · subst heq
        cases hlookup : registry.owners.lookup name <;> simp_all [reading]
      · simp_all [reading]
  | release released releaser =>
      rw [lookup_receive_release] at hafter
      by_cases heq : name = released
      · subst heq
        rw [if_pos rfl, Option.filter_eq_some_iff] at hafter
        simp_all [reading]
      · simp_all [reading]
  | snapshot owners =>
      rw [lookup_receive_snapshot, Option.or_eq_some_iff] at hafter
      rw [mem_adds_snapshot]
      exact ⟨Finset.notMem_empty _, hafter.elim .inr fun hnew => .inl hnew.2⟩

theorem receive_kept (hbefore : reading.has registry entry = true)
    (hstays : entry ∉ reading.drops msg) : reading.has (registry.receive msg) entry = true := by
  obtain ⟨name, owner⟩ := entry
  rw [has_iff] at hbefore ⊢
  cases msg with
  | claim claimed claimer =>
      rw [receive, lookup_claim]
      by_cases heq : name = claimed
      · subst heq
        simp_all
      · simp_all
  | release released releaser =>
      rw [lookup_receive_release]
      by_cases heq : name = released
      · subst heq
        rw [if_pos rfl, Option.filter_eq_some_iff]
        simp_all [reading]
      · simp_all
  | snapshot owners => rw [lookup_receive_snapshot, hbefore, Option.some_or]

theorem owner_of_claimed (hadds : entry ∈ reading.adds msg)
    (hafter : reading.has (registry.receive msg) entry = true) {owner : Member}
    (hbefore : registry.owners.lookup entry.1 = some owner) : owner = entry.2 := by
  have hdrops : (entry.1, owner) ∉ reading.drops msg := by
    cases msg with
    | claim | snapshot => exact Finset.notMem_empty _
    | release => cases hadds
  have hkept := has_iff.mp (receive_kept (has_mk_iff.mpr hbefore) hdrops)
  exact Option.some.inj (hkept.symm.trans (has_iff.mp hafter))

end Reading

theorem reading_sound : reading.Sound protocol where
  empty _ := rfl
  performed hperform := (performed_of_ok hperform).has_iff
  own hperform := (performed_of_ok hperform).origin_eq
  consistent hperform := by
    intro added hadded dropped hdropped entry hadds hdrops
    cases performed_of_ok hperform with
    | registered | unregistered =>
        obtain rfl := List.mem_singleton.mp hadded
        obtain rfl := List.mem_singleton.mp hdropped
        simp [reading] at hadds hdrops
    | unowned => cases hadded
    | cleared =>
        obtain ⟨_, -, rfl⟩ := mem_clearRegistry.mp hadded
        simp [reading] at hadds
  received := receive_has
  kept := receive_kept
  snapshot hsome := by
    obtain ⟨-, heq⟩ := Option.ite_none_left_eq_some.mp hsome
    obtain rfl := Option.some.inj heq
    rw [mem_adds_snapshot, has_iff]
    exact ⟨Finset.notMem_empty _, Iff.rfl⟩
  silent {registry entry} hnone := by
    have hempty : registry.owners = ∅ := by
      refine AList.ext ?_
      show registry.owners.entries = []
      by_contra hsome
      have hsilent : registry.sendSnapshot = none := hnone
      rw [sendSnapshot, if_neg hsome] at hsilent
      cases hsilent
    rw [has_eq_false_iff, hempty]
    simp

end Registry

open Gossip (Cluster Action)

/-- Once nothing is on its way, a name that resolves to an actor of another node belongs to it there. -/
theorem owner_confirmed {cluster : Cluster String Registry RegistryMessage} {ids : List String}
    (hreach : Gossip.Reading.Calm Registry.protocol Registry.reading cluster)
    (hquiescent : cluster.Quiescent ids) {x y : String} (hx : x ∈ ids) (hy : y ∈ ids)
    {name actor : String}
    (hwhere : (cluster.nodes y).table.whereisName y name = some (.remote x actor)) :
    (cluster.nodes x).table.whereisName x name = some (.actor actor) := by
  have hhas : Registry.reading.has (cluster.nodes y).table (name, ⟨x, actor⟩) = true :=
    Registry.has_iff.mpr (Registry.lookup_of_whereisName_remote _ _ hwhere)
  have howner : Registry.reading.has (cluster.nodes x).table (name, ⟨x, actor⟩) = true :=
    Gossip.Reading.Calm.has_origin _ Registry.reading_sound hreach hquiescent hx hy hhas
  simp [Registry.whereisName, Registry.has_iff.mp howner, Member.ref]

/-! ### Three nodes

`leader` is a name of the actor `w` of `a`; `c` hears of it from `b`. -/

namespace Fixed

def claiming : List (Action String RegistryOp) :=
  [.register "a", .register "b", .register "c",
    .connected "a" "b", .runTask "a", .connected "b" "a", .runTask "b",
    .perform "a" (.register "leader" (some "w") none), .runTask "a", .arrive "a" "b", .receive "b",
    .connected "b" "c", .runTask "b", .connected "c" "b", .runTask "c",
    .connected "a" "c", .runTask "a", .connected "c" "a", .runTask "c",
    .arrive "a" "c", .receive "c"]

def releasing : List (Action String RegistryOp) :=
  [.perform "a" (.clear "w"), .runTask "a", .runTask "a",
    .arrive "a" "b", .receive "b", .arrive "a" "c", .receive "c", .arrive "b" "c", .receive "c"]

end Fixed

theorem owner_confirmed_relayed :
    ∃ cluster, Gossip.Reading.Calm Registry.protocol Registry.reading cluster ∧
      cluster.Quiescent ["a", "b", "c"] ∧
      (cluster.nodes "c").table.whereisName "c" "leader" = some (.remote "a" "w") ∧
      (cluster.nodes "a").table.whereisName "a" "leader" = some (.actor "w") := by
  have hrun : (Machine.runWhere (Cluster.step Registry.protocol)
      (fun cluster action => cluster.lossless action = true ∧
        Registry.reading.fresh cluster action = true) (Cluster.start Registry.protocol)
      (Fixed.claiming ++ [.arrive "b" "c", .receive "c"])).map (fun cluster =>
        decide (cluster.Quiescent ["a", "b", "c"] ∧
          (cluster.nodes "c").table.whereisName "c" "leader" = some (.remote "a" "w"))) =
      some true := by
    decide +kernel
  obtain ⟨cluster, hreach, hobserved⟩ := Machine.exists_reachableWhere hrun
  obtain ⟨hquiescent, hwhere⟩ := of_decide_eq_true hobserved
  exact ⟨cluster, hreach, hquiescent, hwhere,
    owner_confirmed hreach hquiescent (by decide) (by decide) hwhere⟩

/-- `c` goes on resolving the name to an actor that has ended. -/
theorem owner_unconfirmed :
    ∃ cluster, Machine.ReachableWhere (Cluster.step Registry.protocol)
        (fun cluster action => cluster.lossless action = true) (Cluster.start Registry.protocol)
        cluster ∧
      cluster.Quiescent ["a", "b", "c"] ∧ cluster.Connected ["a", "b", "c"] ∧
      (cluster.nodes "c").table.whereisName "c" "leader" = some (.remote "a" "w") ∧
      (cluster.nodes "a").table.whereisName "a" "leader" = none := by
  have hrun : (Machine.runWhere (Cluster.step Registry.protocol)
      (fun cluster action => cluster.lossless action = true) (Cluster.start Registry.protocol)
      (Fixed.claiming ++ Fixed.releasing)).map (fun cluster =>
        decide (cluster.Quiescent ["a", "b", "c"] ∧ cluster.Connected ["a", "b", "c"] ∧
          (cluster.nodes "c").table.whereisName "c" "leader" = some (.remote "a" "w") ∧
          (cluster.nodes "a").table.whereisName "a" "leader" = none)) = some true := by
    decide +kernel
  obtain ⟨cluster, hreach, hobserved⟩ := Machine.exists_reachableWhere hrun
  exact ⟨cluster, hreach, of_decide_eq_true hobserved⟩

end LapinBeam.Directory
