import LapinBeam.Directory.Groups
import LapinBeam.Lib.GossipViews

/-!
# Group views

Groups are tables kept by broadcast, the entries are the members of the groups and belong to the
nodes of the actors. The snapshot a node sends on connect lists all members it knows of, those of
other nodes included: such a member may have left in the meantime, and if its own node's `leave` is
faster, the member stays in the view of the receiver for good.
-/

namespace LapinBeam.Directory

namespace Groups

def reading : Gossip.Reading String Groups GroupMessage (String × Member) where
  origin entry := entry.2.origin
  has groups entry := entry.2 ∈ groups.bucket entry.1
  adds
    | .join group member => {(group, member)}
    | .leave _ _ => ∅
    | .snapshot groups =>
        groups.keys.toFinset.biUnion fun group => (groups.bucket group).image (Prod.mk group)
  drops
    | .leave group member => {(group, member)}
    | _ => ∅

section Reading

variable {groups after : Groups} {msgs : List GroupMessage} {entry : String × Member}

theorem has_iff : reading.has groups entry = true ↔ entry.2 ∈ groups.bucket entry.1 :=
  decide_eq_true_iff

theorem has_mk_iff {group : String} {member : Member} :
    reading.has groups (group, member) = true ↔ member ∈ groups.bucket group :=
  decide_eq_true_iff

theorem has_eq_false_iff : reading.has groups entry = false ↔ entry.2 ∉ groups.bucket entry.1 :=
  decide_eq_false_iff_not

theorem mem_adds_snapshot :
    entry ∈ reading.adds (.snapshot groups) ↔ entry.2 ∈ groups.bucket entry.1 := by
  obtain ⟨group, member⟩ := entry
  simp only [reading, Finset.mem_biUnion, List.mem_toFinset, Finset.mem_image, Prod.mk.injEq]
  constructor
  · rintro ⟨_, -, _, hmem, rfl, rfl⟩
    exact hmem
  · intro hmem
    refine ⟨group, ?_, member, hmem, rfl, rfl⟩
    obtain ⟨members, hentry, -⟩ := (mem_bucket_iff groups group member).mp hmem
    exact List.mem_map_of_mem hentry

theorem has_add (group : String) (members : Finset Member) :
    reading.has (groups.add group members) entry = true ↔
      reading.has groups entry = true ∨ entry.1 = group ∧ entry.2 ∈ members := by
  rw [has_iff, has_iff, bucket_add]
  split <;> simp_all

theorem has_discard (group : String) (member : Member) :
    reading.has (groups.discard group member) entry = true ↔
      reading.has groups entry = true ∧ entry ≠ (group, member) := by
  rw [has_iff, has_iff, bucket_discard, Ne, Prod.ext_iff]
  split <;> simp_all [and_comm]

theorem has_clearGroups {localId name : String} :
    reading.has (groups.clearGroups localId name).1 entry = true ↔
      reading.has groups entry = true ∧ entry.2 ≠ ⟨localId, name⟩ := by
  rw [has_iff, has_iff, bucket_clearGroups, Finset.mem_erase, and_comm]

theorem has_receive {msg : GroupMessage} :
    reading.has (groups.receive msg) entry = true ↔
      entry ∉ reading.drops msg ∧ (entry ∈ reading.adds msg ∨ reading.has groups entry = true) := by
  cases msg with
  | join group member =>
      rw [receive, has_add]
      simp [reading, Prod.ext_iff, or_comm]
  | leave group member =>
      rw [receive, has_discard]
      simp [reading, and_comm]
  | snapshot snapshot =>
      rw [mem_adds_snapshot, has_iff, has_iff, bucket_receive_snapshot, Finset.mem_union]
      simp [reading, or_comm]

end Reading

theorem mem_clearGroups {groups : Groups} {localId name : String} {msg : GroupMessage} :
    msg ∈ (groups.clearGroups localId name).2 ↔
      ∃ group, ⟨localId, name⟩ ∈ groups.bucket group ∧ msg = .leave group ⟨localId, name⟩ := by
  simp [clearGroups, mem_containing, eq_comm]

theorem Performed.has_iff {localId : String} {groups after : Groups} {op : GroupOp}
    {msgs : List GroupMessage} (hperformed : Performed localId groups op after msgs)
    (entry : String × Member) :
    reading.has after entry = true ↔
      (reading.has groups entry = true ∧ ∀ msg ∈ msgs, entry ∉ reading.drops msg) ∨
        ∃ msg ∈ msgs, entry ∈ reading.adds msg := by
  cases hperformed with
  | joined =>
      rw [has_add]
      simp [reading, Prod.ext_iff]
  | left =>
      rw [has_discard]
      simp [reading]
  | @cleared name =>
      have hadds : ¬∃ msg ∈ (groups.clearGroups localId name).2, entry ∈ reading.adds msg := by
        rintro ⟨msg, hmsg, hadds⟩
        obtain ⟨group, -, rfl⟩ := mem_clearGroups.mp hmsg
        simp [reading] at hadds
      rw [has_clearGroups, or_iff_left hadds]
      refine and_congr_right fun hbefore => ?_
      constructor
      · intro hne msg hmsg hdrops
        obtain ⟨group, -, rfl⟩ := mem_clearGroups.mp hmsg
        exact hne (congrArg Prod.snd (Finset.mem_singleton.mp hdrops))
      · intro hnone heq
        refine hnone (.leave entry.1 entry.2) (mem_clearGroups.mpr ?_) (Finset.mem_singleton_self _)
        exact ⟨entry.1, heq ▸ Groups.has_iff.mp hbefore, by rw [heq]⟩

theorem Performed.origin_eq {localId : String} {groups after : Groups} {op : GroupOp}
    {msgs : List GroupMessage} (hperformed : Performed localId groups op after msgs)
    (msg : GroupMessage) (hmsg : msg ∈ msgs) (entry : String × Member)
    (hentry : entry ∈ reading.adds msg ∨ entry ∈ reading.drops msg) :
    reading.origin entry = localId := by
  cases hperformed with
  | joined | left =>
      obtain rfl := List.mem_singleton.mp hmsg
      simp only [reading, Finset.mem_singleton, Finset.notMem_empty, or_false, false_or] at hentry
      rw [hentry]
      rfl
  | cleared =>
      obtain ⟨group, -, rfl⟩ := mem_clearGroups.mp hmsg
      simp only [reading, Finset.mem_singleton, Finset.notMem_empty, false_or] at hentry
      rw [hentry]
      rfl

theorem reading_complete : reading.Complete protocol where
  empty entry := has_eq_false_iff.mpr (by simp [protocol])
  performed hperform := (performed_of_ok hperform).has_iff
  own hperform := (performed_of_ok hperform).origin_eq
  consistent hperform := by
    intro added hadded dropped hdropped entry hadds hdrops
    cases performed_of_ok hperform with
    | joined | left =>
        obtain rfl := List.mem_singleton.mp hadded
        obtain rfl := List.mem_singleton.mp hdropped
        simp [reading] at hadds hdrops
    | cleared =>
        obtain ⟨group, -, rfl⟩ := mem_clearGroups.mp hadded
        simp [reading] at hadds
  received hafter := has_receive.mp hafter
  kept hbefore hstays := has_receive.mpr ⟨hstays, .inr hbefore⟩
  snapshot hsome := by
    obtain ⟨-, heq⟩ := Option.ite_none_left_eq_some.mp hsome
    obtain rfl := Option.some.inj heq
    rw [mem_adds_snapshot, has_iff, bucket_inhabited]
    exact ⟨Finset.notMem_empty _, Iff.rfl⟩
  silent {groups entry} hnone := by
    have hempty : groups.inhabited = ∅ := by
      refine AList.ext ?_
      show groups.inhabited.entries = []
      by_contra hsome
      have hsilent : groups.sendSnapshot = none := hnone
      rw [sendSnapshot, if_neg hsome] at hsilent
      cases hsilent
    rw [has_eq_false_iff, ← bucket_inhabited, hempty]
    exact Finset.notMem_empty _
  accepted hadds hstays := has_receive.mpr ⟨hstays, .inl hadds⟩

end Groups

open Gossip (Cluster Action)

/-- Once nothing is on its way, every node lists exactly the members that the others have themselves. -/
theorem group_views_converge {cluster : Cluster String Groups GroupMessage} {ids : List String}
    (hreach : Gossip.Reading.Calm Groups.protocol Groups.reading cluster)
    (hquiescent : cluster.Quiescent ids) (hconnected : cluster.Connected ids) {x y : String}
    (hx : x ∈ ids) (hy : y ∈ ids) (hne : x ≠ y) (group name : String) :
    .remote x name ∈ (cluster.nodes y).table.members y group ↔
      .actor name ∈ (cluster.nodes x).table.members x group := by
  rw [Groups.mem_members_remote _ _ hne, Groups.mem_members_actor]
  rw [← Groups.has_mk_iff, ← Groups.has_mk_iff]
  constructor
  · exact Gossip.Reading.Calm.has_origin _ Groups.reading_complete.toSound hreach hquiescent hx hy
  · exact Gossip.Reading.Calm.has_peer _ Groups.reading_complete hreach hquiescent hx hy
      (hconnected x hx y hy hne)

/-! ### Three nodes

`w` is an actor of `a`; `c` hears of it from `b`. -/

namespace Fixed

def relaying : List (Action String GroupOp) :=
  [.register "a", .register "b", .register "c",
    .connected "a" "b", .runTask "a", .connected "b" "a", .runTask "b",
    .perform "a" (.join "g" (some "w") none), .runTask "a", .arrive "a" "b", .receive "b",
    .connected "b" "c", .runTask "b", .connected "c" "b", .runTask "c",
    .connected "a" "c", .runTask "a", .connected "c" "a", .runTask "c",
    .arrive "a" "c", .receive "c"]

def overtaking : List (Action String GroupOp) :=
  [.perform "a" (.leave "g" (some "w") none), .runTask "a", .runTask "a",
    .arrive "a" "b", .receive "b", .arrive "a" "c", .receive "c", .arrive "b" "c", .receive "c"]

end Fixed

theorem group_views_converge_relayed :
    ∃ cluster, Gossip.Reading.Calm Groups.protocol Groups.reading cluster ∧
      cluster.Quiescent ["a", "b", "c"] ∧ cluster.Connected ["a", "b", "c"] ∧
      .remote "a" "w" ∈ (cluster.nodes "c").table.members "c" "g" := by
  have hrun : (Machine.runWhere (Cluster.step Groups.protocol)
      (fun cluster action => cluster.lossless action = true ∧
        Groups.reading.fresh cluster action = true) (Cluster.start Groups.protocol)
      (Fixed.relaying ++ [.arrive "b" "c", .receive "c"])).map (fun cluster =>
        decide (cluster.Quiescent ["a", "b", "c"] ∧ cluster.Connected ["a", "b", "c"] ∧
          .actor "w" ∈ (cluster.nodes "a").table.members "a" "g")) = some true := by
    decide +kernel
  obtain ⟨cluster, hreach, hobserved⟩ := Machine.exists_reachableWhere hrun
  obtain ⟨hquiescent, hconnected, hmember⟩ := of_decide_eq_true hobserved
  exact ⟨cluster, hreach, hquiescent, hconnected,
    (group_views_converge hreach hquiescent hconnected (by decide) (by decide) (by decide)
      "g" "w").mpr hmember⟩

/-- `c` goes on listing an actor that has left. -/
theorem group_views_diverge :
    ∃ cluster, Machine.ReachableWhere (Cluster.step Groups.protocol)
        (fun cluster action => cluster.lossless action = true) (Cluster.start Groups.protocol)
        cluster ∧
      cluster.Quiescent ["a", "b", "c"] ∧ cluster.Connected ["a", "b", "c"] ∧
      .remote "a" "w" ∈ (cluster.nodes "c").table.members "c" "g" ∧
      .actor "w" ∉ (cluster.nodes "a").table.members "a" "g" := by
  have hrun : (Machine.runWhere (Cluster.step Groups.protocol)
      (fun cluster action => cluster.lossless action = true) (Cluster.start Groups.protocol)
      (Fixed.relaying ++ Fixed.overtaking)).map (fun cluster =>
        decide (cluster.Quiescent ["a", "b", "c"] ∧ cluster.Connected ["a", "b", "c"] ∧
          .remote "a" "w" ∈ (cluster.nodes "c").table.members "c" "g" ∧
          .actor "w" ∉ (cluster.nodes "a").table.members "a" "g")) = some true := by
    decide +kernel
  obtain ⟨cluster, hreach, hobserved⟩ := Machine.exists_reachableWhere hrun
  exact ⟨cluster, hreach, of_decide_eq_true hobserved⟩

end LapinBeam.Directory
