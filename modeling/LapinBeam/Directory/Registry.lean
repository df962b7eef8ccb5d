import LapinBeam.Directory.Groups

/-!
# `lapinbeam.registry`

`_registry` maps a name to the one actor that owns it. A claim for a name that belongs to another
actor is refused: the local `register_name` raises, and a claim of a peer is dropped and reported as
a `registry_conflict` event.
-/

namespace LapinBeam.Directory

abbrev Owners := AList fun _ : String => Member

structure Conflict where
  name : String
  existing : Member
  incoming : Member
deriving DecidableEq

/-- The names and their owners, and the events emitted so far. -/
structure Registry where
  owners : Owners := ∅
  events : List Conflict := []
deriving DecidableEq

inductive RegistryMessage
  | claim (name : String) (owner : Member)
  | release (name : String) (owner : Member)
  | snapshot (owners : Owners)
deriving DecidableEq

inductive RegistryOp
  | register (name : String) (ref current : Option String)
  | unregister (name : String) (ref current : Option String)
  | clear (actor : String)
deriving DecidableEq

namespace Registry

def set (registry : Registry) (name : String) (owner : Member) : Registry :=
  { registry with owners := registry.owners.insert name owner }

def delete (registry : Registry) (name : String) : Registry :=
  { registry with owners := registry.owners.erase name }

def whereisName (localId : String) (registry : Registry) (name : String) : Option Ref :=
  (registry.owners.lookup name).map (Member.ref localId)

def registerName (localId : String) (registry : Registry) (name : String)
    (ref current : Option String) : Except Failure (Registry × List RegistryMessage) := do
  let actor ← me "register_name()/unregister_name()" ref current
  let owner : Member := ⟨localId, actor⟩
  match registry.owners.lookup name with
  | some existing =>
      if existing ≠ owner then
        throw (.valueError ("name '" ++ name ++ "' is already registered to ('" ++
          existing.origin ++ "', '" ++ existing.name ++ "')"))
      else return (registry.set name owner, [.claim name owner])
  | none => return (registry.set name owner, [.claim name owner])

def unregisterName (localId : String) (registry : Registry) (name : String)
    (ref current : Option String) : Except Failure (Registry × List RegistryMessage) := do
  let actor ← me "register_name()/unregister_name()" ref current
  let owner : Member := ⟨localId, actor⟩
  if registry.owners.lookup name = some owner then
    return (registry.delete name, [.release name owner])
  else return (registry, [])

def namesWhere (registry : Registry) (condition : Member → Bool) : List String :=
  (registry.owners.entries.filter fun entry => condition entry.2).map (·.1)

def clearRegistry (localId : String) (registry : Registry) (actor : String) :
    Registry × List RegistryMessage :=
  let released := registry.namesWhere (· = ⟨localId, actor⟩)
  (released.foldl delete registry, released.map fun name => .release name ⟨localId, actor⟩)

def perform (localId : String) (registry : Registry) :
    RegistryOp → Except Failure (Registry × List RegistryMessage)
  | .register name ref current => registry.registerName localId name ref current
  | .unregister name ref current => registry.unregisterName localId name ref current
  | .clear actor => .ok (registry.clearRegistry localId actor)

def sendSnapshot (registry : Registry) : Option RegistryMessage :=
  if registry.owners.entries = [] then none else some (.snapshot registry.owners)

def claim (registry : Registry) (name : String) (owner : Member) : Registry :=
  match registry.owners.lookup name with
  | some existing =>
      if existing ≠ owner then
        { registry with events := registry.events ++ [⟨name, existing, owner⟩] }
      else registry.set name owner
  | none => registry.set name owner

/-- The event a claim of a peer is reported with, if it is refused. -/
def conflict (registry : Registry) (name : String) (owner : Member) : Option Conflict :=
  ((registry.owners.lookup name).filter (· ≠ owner)).map fun existing => ⟨name, existing, owner⟩

def receive (registry : Registry) : RegistryMessage → Registry
  | .claim name owner => registry.claim name owner
  | .release name owner =>
      if registry.owners.lookup name = some owner then registry.delete name else registry
  | .snapshot owners =>
      owners.entries.foldl (fun registry entry => registry.claim entry.1 entry.2) registry

def dropPeerNames (registry : Registry) (peer : String) : Registry :=
  (registry.namesWhere (·.origin = peer)).foldl delete registry

def protocol : Gossip.Protocol String Registry RegistryOp RegistryMessage Failure where
  empty := {}
  perform := perform
  snapshot := sendSnapshot
  receive := receive
  purge := dropPeerNames

/-- What a local operation does and what it tells the peers. -/
inductive Performed (localId : String) (registry : Registry) :
    RegistryOp → Registry → List RegistryMessage → Prop
  | registered {name actor ref current} (hme : ref.or current = some actor)
      (hfree : ∀ existing, registry.owners.lookup name = some existing →
        existing = ⟨localId, actor⟩) :
      Performed localId registry (.register name ref current)
        (registry.set name ⟨localId, actor⟩) [.claim name ⟨localId, actor⟩]
  | unregistered {name actor ref current} (hme : ref.or current = some actor)
      (howner : registry.owners.lookup name = some ⟨localId, actor⟩) :
      Performed localId registry (.unregister name ref current)
        (registry.delete name) [.release name ⟨localId, actor⟩]
  | unowned {name ref current} :
      Performed localId registry (.unregister name ref current) registry []
  | cleared {actor} :
      Performed localId registry (.clear actor)
        (registry.clearRegistry localId actor).1 (registry.clearRegistry localId actor).2

theorem performed_of_ok {localId : String} {registry after : Registry} {op : RegistryOp}
    {msgs : List RegistryMessage} (hperform : registry.perform localId op = .ok (after, msgs)) :
    Performed localId registry op after msgs := by
  cases op with
  | register name ref current =>
      cases hme : me "register_name()/unregister_name()" ref current with
      | error failure => simp [perform, registerName, hme, bind, Except.bind] at hperform
      | ok actor =>
          simp only [perform, registerName, hme, bind, Except.bind, pure, Except.pure] at hperform
          split at hperform
          · rename_i existing hlookup
            split at hperform
            · cases hperform
            · rename_i heq
              obtain ⟨rfl, rfl⟩ := Prod.mk.inj (Except.ok.inj hperform)
              refine .registered (me_eq_ok.mp hme) fun other hother => ?_
              rw [hlookup] at hother
              exact Option.some.inj hother ▸ not_not.mp heq
          · rename_i hlookup
            obtain ⟨rfl, rfl⟩ := Prod.mk.inj (Except.ok.inj hperform)
            refine .registered (me_eq_ok.mp hme) fun other hother => ?_
            rw [hlookup] at hother
            cases hother
  | unregister name ref current =>
      cases hme : me "register_name()/unregister_name()" ref current with
      | error failure => simp [perform, unregisterName, hme, bind, Except.bind] at hperform
      | ok actor =>
          simp only [perform, unregisterName, hme, bind, Except.bind, pure, Except.pure] at hperform
          split at hperform
          · rename_i howner
            obtain ⟨rfl, rfl⟩ := Prod.mk.inj (Except.ok.inj hperform)
            exact .unregistered (me_eq_ok.mp hme) howner
          · obtain ⟨rfl, rfl⟩ := Prod.mk.inj (Except.ok.inj hperform)
            exact .unowned
  | clear actor =>
      obtain ⟨rfl, rfl⟩ := Prod.mk.inj (Except.ok.inj hperform)
      exact .cleared

section Owners

variable (registry : Registry) (name other : String) (owner : Member)

theorem lookup_set :
    (registry.set name owner).owners.lookup other =
      if other = name then some owner else registry.owners.lookup other := by
  by_cases heq : other = name
  · subst heq
    simp [set]
  · simp [set, heq, AList.lookup_insert_ne heq]

theorem lookup_delete :
    (registry.delete name).owners.lookup other =
      if other = name then none else registry.owners.lookup other := by
  by_cases heq : other = name
  · subst heq
    simp [delete]
  · simp [delete, heq, AList.lookup_erase_ne heq]

theorem mem_namesWhere (condition : Member → Bool) :
    name ∈ registry.namesWhere condition ↔
      ∃ owner, registry.owners.lookup name = some owner ∧ condition owner = true := by
  simp [namesWhere, ← AList.mem_lookup_iff, Option.mem_def]

theorem lookup_foldl_delete (names : List String) :
    (names.foldl delete registry).owners.lookup other =
      if other ∈ names then none else registry.owners.lookup other := by
  induction names generalizing registry with
  | nil => simp
  | cons first names ih =>
      rw [List.foldl_cons, ih, lookup_delete]
      by_cases hfirst : other = first <;> by_cases hnames : other ∈ names <;> simp [hfirst, hnames]

theorem lookup_deleteWhere (condition : Member → Bool) :
    ((registry.namesWhere condition).foldl delete registry).owners.lookup name =
      (registry.owners.lookup name).filter fun owner => !condition owner := by
  rw [lookup_foldl_delete]
  cases hlookup : registry.owners.lookup name with
  | none => simp
  | some owner =>
      have hmem : name ∈ registry.namesWhere condition ↔ condition owner = true := by
        simp [mem_namesWhere, hlookup]
      cases hcondition : condition owner <;> simp [hmem, hcondition, Option.filter]

theorem lookup_claim :
    (registry.claim name owner).owners.lookup other =
      if other = name then some ((registry.owners.lookup name).getD owner)
      else registry.owners.lookup other := by
  cases hlookup : registry.owners.lookup name with
  | none => simp [claim, hlookup, lookup_set]
  | some existing =>
      by_cases heq : existing = owner
      · simp [claim, hlookup, lookup_set, heq]
      · by_cases hother : other = name
        · subst hother
          simp [claim, hlookup, heq]
        · simp [claim, hlookup, heq, hother]

theorem lookup_foldl_claim (entries : List (Sigma fun _ : String => Member)) :
    (entries.foldl (fun registry entry => registry.claim entry.1 entry.2) registry).owners.lookup
        name =
      (registry.owners.lookup name).or (entries.dlookup name) := by
  induction entries generalizing registry with
  | nil => simp
  | cons first entries ih =>
      rw [List.foldl_cons, ih, lookup_claim]
      obtain ⟨other, owner⟩ := first
      by_cases heq : name = other
      · subst heq
        cases registry.owners.lookup name <;> simp
      · rw [if_neg heq, List.dlookup_cons_ne entries ⟨other, owner⟩ heq]

theorem lookup_receive_snapshot (owners : Owners) :
    (registry.receive (.snapshot owners)).owners.lookup name =
      (registry.owners.lookup name).or (owners.lookup name) :=
  lookup_foldl_claim registry name owners.entries

theorem lookup_receive_release :
    (registry.receive (.release name owner)).owners.lookup other =
      if other = name then (registry.owners.lookup name).filter (· ≠ owner)
      else registry.owners.lookup other := by
  rw [receive]
  by_cases hother : other = name
  · subst hother
    by_cases howner : registry.owners.lookup other = some owner
    · simp [howner, lookup_delete, Option.filter]
    · rw [if_neg howner, if_pos rfl]
      cases hlookup : registry.owners.lookup other with
      | none => rfl
      | some existing =>
          have hne : existing ≠ owner := fun heq => howner (hlookup.trans (congrArg some heq))
          simp [Option.filter, hne]
  · split <;> simp [lookup_delete, hother]

theorem lookup_clearRegistry (localId actor : String) :
    (registry.clearRegistry localId actor).1.owners.lookup name =
      (registry.owners.lookup name).filter fun owner => !decide (owner = ⟨localId, actor⟩) :=
  lookup_deleteWhere registry name _

theorem events_claim :
    (registry.claim name owner).events =
      registry.events ++ (registry.conflict name owner).toList := by
  cases hlookup : registry.owners.lookup name with
  | none => simp [claim, conflict, hlookup, set]
  | some existing =>
      by_cases heq : existing = owner <;> simp [claim, conflict, hlookup, heq, set, Option.filter]

theorem conflict_claim_of_ne {name other : String} (hne : other ≠ name) (owner claimer : Member) :
    (registry.claim name owner).conflict other claimer = registry.conflict other claimer := by
  rw [conflict, lookup_claim, if_neg hne, conflict]

theorem events_foldl_claim (entries : List (Sigma fun _ : String => Member))
    (hkeys : entries.NodupKeys) :
    (entries.foldl (fun registry entry => registry.claim entry.1 entry.2) registry).events =
      registry.events ++ entries.filterMap fun entry => registry.conflict entry.1 entry.2 := by
  induction entries generalizing registry with
  | nil => simp
  | cons first entries ih =>
      obtain ⟨hfirst, hrest⟩ := List.nodupKeys_cons.mp hkeys
      have hsame : entries.filterMap (fun entry =>
            (registry.claim first.1 first.2).conflict entry.1 entry.2) =
          entries.filterMap fun entry => registry.conflict entry.1 entry.2 := by
        refine List.filterMap_congr fun entry hentry => ?_
        refine conflict_claim_of_ne registry ?_ first.2 entry.2
        rintro heq
        exact hfirst (heq ▸ List.mem_map_of_mem hentry)
      rw [List.foldl_cons, ih _ hrest, events_claim, hsame, List.filterMap_cons, List.append_assoc]
      cases registry.conflict first.1 first.2 <;> rfl

theorem lookup_of_whereisName_remote {localId peer actor : String}
    (hwhere : registry.whereisName localId name = some (.remote peer actor)) :
    registry.owners.lookup name = some ⟨peer, actor⟩ := by
  obtain ⟨⟨origin, actor⟩, hlookup, href⟩ := Option.map_eq_some_iff.mp hwhere
  rw [Member.ref] at href
  split at href
  · cases href
  · obtain ⟨rfl, rfl⟩ := Ref.remote.inj href
    exact hlookup

end Owners

end Registry

end LapinBeam.Directory
