import LapinBeam.Lib.Gossip
import Mathlib.Data.List.AList
import Mathlib.Data.Finset.Union

/-!
# `lapinbeam.groups`

`_groups` maps the name of a group to the set of its members. A dict is an association list here, a
set is a `Finset`; the order in which Python goes through them is left open by the source, and
nothing depends on it.
-/

namespace LapinBeam.Directory

structure Member where
  origin : String
  name : String
deriving DecidableEq

/-- What callers get for a member: an `ActorRef` or a `RemoteRef`. -/
inductive Ref
  | actor (name : String)
  | remote (peer name : String)
deriving DecidableEq

def Member.ref (localId : String) (member : Member) : Ref :=
  if member.origin = localId then .actor member.name else .remote member.origin member.name

inductive Failure
  | runtimeError (text : String)
  | valueError (text : String)
deriving DecidableEq

/-- `_me`: the actor a call is for, by default the one that is running. -/
def me (functions : String) : (ref current : Option String) → Except Failure String
  | some name, _ => .ok name
  | none, some name => .ok name
  | none, none =>
      .error (.runtimeError (functions ++ " need an explicit ref= outside of a running actor"))

theorem me_eq_ok {functions : String} {ref current : Option String} {name : String} :
    me functions ref current = .ok name ↔ ref.or current = some name := by
  cases ref <;> cases current <;> simp [me]

abbrev Groups := AList fun _ : String => Finset Member

inductive GroupMessage
  | join (group : String) (member : Member)
  | leave (group : String) (member : Member)
  | snapshot (groups : Groups)
deriving DecidableEq

inductive GroupOp
  | join (group : String) (ref current : Option String)
  | leave (group : String) (ref current : Option String)
  | clear (name : String)
deriving DecidableEq

namespace Groups

def bucket (groups : Groups) (group : String) : Finset Member := (groups.lookup group).getD ∅

def add (groups : Groups) (group : String) (members : Finset Member) : Groups :=
  groups.insert group (groups.bucket group ∪ members)

def discard (groups : Groups) (group : String) (member : Member) : Groups :=
  match groups.lookup group with
  | none => groups
  | some members => groups.insert group (members.erase member)

def members (localId : String) (groups : Groups) (group : String) : Finset Ref :=
  (groups.bucket group).image (Member.ref localId)

def joinGroup (localId : String) (groups : Groups) (group : String) (ref current : Option String) :
    Except Failure (Groups × List GroupMessage) := do
  let name ← me "join_group()/leave_group()" ref current
  let member := ⟨localId, name⟩
  return (groups.add group {member}, [.join group member])

def leaveGroup (localId : String) (groups : Groups) (group : String)
    (ref current : Option String) : Except Failure (Groups × List GroupMessage) := do
  let name ← me "join_group()/leave_group()" ref current
  let member := ⟨localId, name⟩
  return (groups.discard group member, [.leave group member])

def containing (groups : Groups) (member : Member) : List String :=
  (groups.entries.filter fun entry => member ∈ entry.2).map (·.1)

def clearGroups (localId : String) (groups : Groups) (name : String) :
    Groups × List GroupMessage :=
  let left := groups.containing ⟨localId, name⟩
  (left.foldl (fun groups group => groups.discard group ⟨localId, name⟩) groups,
    left.map fun group => .leave group ⟨localId, name⟩)

def perform (localId : String) (groups : Groups) :
    GroupOp → Except Failure (Groups × List GroupMessage)
  | .join group ref current => groups.joinGroup localId group ref current
  | .leave group ref current => groups.leaveGroup localId group ref current
  | .clear name => .ok (groups.clearGroups localId name)

def inhabited (groups : Groups) : Groups :=
  ⟨groups.entries.filter fun entry => entry.2 ≠ ∅, groups.nodupKeys.sublist List.filter_sublist⟩

def sendSnapshot (groups : Groups) : Option GroupMessage :=
  if groups.inhabited.entries = [] then none else some (.snapshot groups.inhabited)

def receive (groups : Groups) : GroupMessage → Groups
  | .join group member => groups.add group {member}
  | .leave group member => groups.discard group member
  | .snapshot snapshot =>
      snapshot.entries.foldl (fun groups entry => groups.add entry.1 entry.2) groups

def dropPeerMembers (groups : Groups) (peer : String) : Groups :=
  ⟨groups.entries.map fun entry => ⟨entry.1, entry.2.filter (·.origin ≠ peer)⟩, by
    have hkeys := groups.nodupKeys
    rwa [List.NodupKeys, List.keys, List.map_map]⟩

def protocol : Gossip.Protocol String Groups GroupOp GroupMessage Failure where
  empty := ∅
  perform := perform
  snapshot := sendSnapshot
  receive := receive
  purge := dropPeerMembers

/-- What a local operation does and what it tells the peers. -/
inductive Performed (localId : String) (groups : Groups) :
    GroupOp → Groups → List GroupMessage → Prop
  | joined {group name ref current} (hme : ref.or current = some name) :
      Performed localId groups (.join group ref current)
        (groups.add group {⟨localId, name⟩}) [.join group ⟨localId, name⟩]
  | left {group name ref current} (hme : ref.or current = some name) :
      Performed localId groups (.leave group ref current)
        (groups.discard group ⟨localId, name⟩) [.leave group ⟨localId, name⟩]
  | cleared {name} :
      Performed localId groups (.clear name)
        (groups.clearGroups localId name).1 (groups.clearGroups localId name).2

theorem performed_of_ok {localId : String} {groups after : Groups} {op : GroupOp}
    {msgs : List GroupMessage} (hperform : groups.perform localId op = .ok (after, msgs)) :
    Performed localId groups op after msgs := by
  cases op with
  | join group ref current =>
      cases hme : me "join_group()/leave_group()" ref current with
      | error failure => simp [perform, joinGroup, hme, bind, Except.bind] at hperform
      | ok name =>
          simp only [perform, joinGroup, hme, bind, Except.bind, pure, Except.pure, Except.ok.injEq,
            Prod.mk.injEq] at hperform
          obtain ⟨rfl, rfl⟩ := hperform
          exact .joined (me_eq_ok.mp hme)
  | leave group ref current =>
      cases hme : me "join_group()/leave_group()" ref current with
      | error failure => simp [perform, leaveGroup, hme, bind, Except.bind] at hperform
      | ok name =>
          simp only [perform, leaveGroup, hme, bind, Except.bind, pure, Except.pure,
            Except.ok.injEq, Prod.mk.injEq] at hperform
          obtain ⟨rfl, rfl⟩ := hperform
          exact .left (me_eq_ok.mp hme)
  | clear name =>
      obtain ⟨rfl, rfl⟩ := Prod.mk.inj (Except.ok.inj hperform)
      exact .cleared

section Buckets

variable (groups : Groups) (group other : String) (member : Member)

@[simp]
theorem bucket_empty : bucket ∅ group = ∅ := rfl

theorem bucket_add (members : Finset Member) :
    (groups.add group members).bucket other =
      if other = group then groups.bucket group ∪ members else groups.bucket other := by
  by_cases heq : other = group
  · subst heq
    simp [add, bucket]
  · simp [add, bucket, heq, AList.lookup_insert_ne heq]

theorem bucket_discard :
    (groups.discard group member).bucket other =
      if other = group then (groups.bucket group).erase member else groups.bucket other := by
  cases hlookup : groups.lookup group with
  | none =>
      by_cases heq : other = group
      · subst heq
        simp [discard, bucket, hlookup]
      · simp [discard, hlookup, heq]
  | some members =>
      by_cases heq : other = group
      · subst heq
        simp [discard, bucket, hlookup]
      · simp [discard, bucket, hlookup, heq, AList.lookup_insert_ne heq]

theorem mem_bucket_iff :
    member ∈ groups.bucket group ↔ ∃ members, ⟨group, members⟩ ∈ groups.entries ∧ member ∈ members := by
  simp only [← AList.mem_lookup_iff, bucket]
  cases groups.lookup group <;> simp

theorem mem_containing : group ∈ groups.containing member ↔ member ∈ groups.bucket group := by
  simp [containing, mem_bucket_iff]

theorem bucket_inhabited : groups.inhabited.bucket group = groups.bucket group := by
  ext member
  simp only [mem_bucket_iff, inhabited, List.mem_filter, decide_eq_true_eq]
  constructor
  · rintro ⟨members, ⟨hentry, -⟩, hmember⟩
    exact ⟨members, hentry, hmember⟩
  · rintro ⟨members, hentry, hmember⟩
    exact ⟨members, ⟨hentry, Finset.ne_empty_of_mem hmember⟩, hmember⟩

theorem bucket_dropPeerMembers (peer : String) :
    (groups.dropPeerMembers peer).bucket group = (groups.bucket group).filter (·.origin ≠ peer) := by
  ext member
  simp only [Finset.mem_filter, mem_bucket_iff, dropPeerMembers, List.mem_map, Sigma.mk.injEq]
  constructor
  · rintro ⟨_, ⟨entry, hentry, rfl, heq⟩, hmem⟩
    obtain rfl := eq_of_heq heq
    obtain ⟨hmember, horigin⟩ := Finset.mem_filter.mp hmem
    exact ⟨⟨entry.2, hentry, hmember⟩, horigin⟩
  · rintro ⟨⟨members, hentry, hmember⟩, horigin⟩
    exact ⟨_, ⟨_, hentry, rfl, HEq.rfl⟩, Finset.mem_filter.mpr ⟨hmember, horigin⟩⟩

theorem bucket_foldl_discard (left : List String) :
    (left.foldl (fun groups group => groups.discard group member) groups).bucket group =
      if group ∈ left then (groups.bucket group).erase member else groups.bucket group := by
  induction left generalizing groups with
  | nil => simp
  | cons first left ih =>
      rw [List.foldl_cons, ih, bucket_discard]
      by_cases hfirst : group = first <;> by_cases hleft : group ∈ left <;> simp [hfirst, hleft]

theorem bucket_clearGroups (localId name : String) :
    (groups.clearGroups localId name).1.bucket group =
      (groups.bucket group).erase ⟨localId, name⟩ := by
  rw [clearGroups, bucket_foldl_discard]
  split
  · rfl
  · rename_i hnot
    rw [mem_containing] at hnot
    rw [Finset.erase_eq_of_notMem hnot]

theorem mem_bucket_foldl_add (entries : List (Sigma fun _ : String => Finset Member)) :
    member ∈ (entries.foldl (fun groups entry => groups.add entry.1 entry.2) groups).bucket group ↔
      member ∈ groups.bucket group ∨ ∃ members, ⟨group, members⟩ ∈ entries ∧ member ∈ members := by
  induction entries generalizing groups with
  | nil => simp
  | cons first entries ih =>
      rw [List.foldl_cons, ih, bucket_add]
      obtain ⟨name, members⟩ := first
      by_cases heq : group = name
      · subst heq
        simp [or_and_right, exists_or, or_assoc]
      · simp [heq]

theorem bucket_receive_snapshot (snapshot : Groups) :
    (groups.receive (.snapshot snapshot)).bucket group =
      groups.bucket group ∪ snapshot.bucket group := by
  ext member
  rw [receive, mem_bucket_foldl_add, Finset.mem_union, mem_bucket_iff snapshot]

theorem mem_members_actor (localId name : String) :
    .actor name ∈ members localId groups group ↔ ⟨localId, name⟩ ∈ groups.bucket group := by
  simp only [members, Finset.mem_image, Member.ref]
  constructor
  · rintro ⟨⟨origin, name⟩, hmem, heq⟩
    split at heq
    · rename_i horigin
      simp only [Ref.actor.injEq] at heq
      exact heq ▸ horigin ▸ hmem
    · cases heq
  · exact fun hmem => ⟨_, hmem, if_pos rfl⟩

theorem mem_members_remote {localId peer : String} (hne : peer ≠ localId) (name : String) :
    .remote peer name ∈ members localId groups group ↔ ⟨peer, name⟩ ∈ groups.bucket group := by
  simp only [members, Finset.mem_image, Member.ref]
  constructor
  · rintro ⟨⟨origin, name⟩, hmem, heq⟩
    split at heq
    · cases heq
    · obtain ⟨rfl, rfl⟩ := Ref.remote.inj heq
      exact hmem
  · exact fun hmem => ⟨_, hmem, if_neg hne⟩

end Buckets

end Groups

end LapinBeam.Directory
