import LapinBeam.Lib.Gossip

/-!
# What the nodes know of each other's entries

Every entry belongs to one node, its origin, and only the origin adds or removes it and broadcasts
that. The messages on their way from a node to a peer, applied in order to what the peer has now,
give what the node has; so the peer agrees once nothing is on its way. A snapshot also lists what its
sender has heard from others. That is not in order with what the others send themselves, and does no
harm only as long as the entry is the origin's, or the origin's removal is still to come.
-/

namespace Gossip

variable {Node Table Op Message Failure Entry : Type*}

/-- The entries of a table, and those a message adds to a table or removes from it. -/
structure Reading (Node Table Message Entry : Type*) where
  origin : Entry → Node
  has : Table → Entry → Bool
  adds : Message → Finset Entry
  drops : Message → Finset Entry

/-- An operation does what its broadcasts say, and they are about entries of the node itself; a message adds no more than it lists, and takes nothing away but what it drops. -/
structure Reading.Sound (reading : Reading Node Table Message Entry)
    (protocol : Protocol Node Table Op Message Failure) : Prop where
  empty : ∀ entry, reading.has protocol.empty entry = false
  performed : ∀ {self table op after msgs},
    protocol.perform self table op = .ok (after, msgs) → ∀ entry,
    reading.has after entry = true ↔
      (reading.has table entry = true ∧ ∀ msg ∈ msgs, entry ∉ reading.drops msg) ∨
        ∃ msg ∈ msgs, entry ∈ reading.adds msg
  own : ∀ {self table op after msgs}, protocol.perform self table op = .ok (after, msgs) →
    ∀ msg ∈ msgs, ∀ entry, entry ∈ reading.adds msg ∨ entry ∈ reading.drops msg →
    reading.origin entry = self
  consistent : ∀ {self table op after msgs},
    protocol.perform self table op = .ok (after, msgs) → ∀ added ∈ msgs, ∀ dropped ∈ msgs,
    ∀ entry, entry ∈ reading.adds added → entry ∉ reading.drops dropped
  received : ∀ {table msg entry}, reading.has (protocol.receive table msg) entry = true →
    entry ∉ reading.drops msg ∧ (entry ∈ reading.adds msg ∨ reading.has table entry = true)
  kept : ∀ {table msg entry}, reading.has table entry = true → entry ∉ reading.drops msg →
    reading.has (protocol.receive table msg) entry = true
  snapshot : ∀ {table msg entry}, protocol.snapshot table = some msg →
    entry ∉ reading.drops msg ∧ (entry ∈ reading.adds msg ↔ reading.has table entry = true)
  silent : ∀ {table entry}, protocol.snapshot table = none → reading.has table entry = false

structure Reading.Complete (reading : Reading Node Table Message Entry)
    (protocol : Protocol Node Table Op Message Failure) : Prop extends
    reading.Sound protocol where
  accepted : ∀ {table msg entry}, entry ∈ reading.adds msg → entry ∉ reading.drops msg →
    reading.has (protocol.receive table msg) entry = true

namespace Reading.Sound

variable {reading : Reading Node Table Message Entry}
  {protocol : Protocol Node Table Op Message Failure} (hsound : reading.Sound protocol)
  {self : Node} {table after : Table} {op : Op} {msgs : List Message} {entry : Entry}
  (hperform : protocol.perform self table op = .ok (after, msgs))
include hsound hperform

theorem foreign (horigin : reading.origin entry ≠ self) :
    reading.has after entry = reading.has table entry := by
  rw [Bool.eq_iff_iff, hsound.performed hperform]
  constructor
  · rintro (⟨hbefore, -⟩ | ⟨msg, hmsg, hadds⟩)
    · exact hbefore
    · exact absurd (hsound.own hperform msg hmsg entry (.inl hadds)) horigin
  · exact fun hbefore => .inl ⟨hbefore, fun msg hmsg hdrops =>
      horigin (hsound.own hperform msg hmsg entry (.inr hdrops))⟩

theorem unsaid {msg : Message} (hmsg : msg ∈ msgs) (hafter : reading.has after entry = false) :
    entry ∉ reading.adds msg := by
  intro hadds
  rw [(hsound.performed hperform entry).mpr (.inr ⟨msg, hmsg, hadds⟩)] at hafter
  cases hafter

theorem dropped (hbefore : reading.has table entry = true)
    (hafter : reading.has after entry = false) : ∃ msg ∈ msgs, entry ∈ reading.drops msg := by
  by_contra! hnone
  rw [(hsound.performed hperform entry).mpr (.inl ⟨hbefore, hnone⟩)] at hafter
  cases hafter

theorem undropped {msg : Message} (hmsg : msg ∈ msgs) (hafter : reading.has after entry = true) :
    entry ∉ reading.drops msg := by
  rcases (hsound.performed hperform entry).mp hafter with ⟨-, hnone⟩ | ⟨added, hadded, hadds⟩
  · exact hnone msg hmsg
  · exact hsound.consistent hperform added hadded msg hmsg entry hadds

theorem announced (hbefore : reading.has table entry = false)
    (hafter : reading.has after entry = true) : ∃ msg ∈ msgs, entry ∈ reading.adds msg := by
  rcases (hsound.performed hperform entry).mp hafter with ⟨hheld, -⟩ | hadded
  · rw [hbefore] at hheld
    cases hheld
  · exact hadded

end Reading.Sound

/-! ### Messages one after the other -/

section Settled

variable (reading : Reading Node Table Message Entry) (table : Table) (entry : Entry)

def Reading.settle (held : Prop) : Outgoing Message → Prop
  | .message msg => entry ∉ reading.drops msg ∧ (entry ∈ reading.adds msg ∨ held)
  | .snapshot => held ∨ reading.has table entry = true

def Reading.settled (stream : List (Outgoing Message)) (held : Prop) : Prop :=
  stream.foldl (reading.settle table entry) held

variable {reading table entry} {stream : List (Outgoing Message)} {held held' : Prop}

@[simp]
theorem Reading.settled_nil : reading.settled table entry [] held ↔ held := Iff.rfl

@[simp]
theorem Reading.settled_cons (outgoing : Outgoing Message) :
    reading.settled table entry (outgoing :: stream) held ↔
      reading.settled table entry stream (reading.settle table entry held outgoing) := Iff.rfl

theorem Reading.settled_append (later : List (Outgoing Message)) :
    reading.settled table entry (stream ++ later) held ↔
      reading.settled table entry later (reading.settled table entry stream held) := by
  rw [settled, List.foldl_append]
  rfl

theorem Reading.settled_mono (himp : held → held')
    (hsettled : reading.settled table entry stream held) :
    reading.settled table entry stream held' := by
  induction stream generalizing held held' with
  | nil => exact himp hsettled
  | cons outgoing stream ih =>
      refine ih ?_ hsettled
      cases outgoing with
      | message msg => exact fun ⟨hstays, hheld⟩ => ⟨hstays, hheld.imp_right himp⟩
      | snapshot => exact Or.imp_left himp

theorem Reading.held_of_settled
    (hnone : ∀ msg, .message msg ∈ stream → entry ∉ reading.adds msg)
    (htable : reading.has table entry = false)
    (hsettled : reading.settled table entry stream held) : held := by
  induction stream generalizing held with
  | nil => exact hsettled
  | cons outgoing stream ih =>
      have hrest := ih (fun msg hmem => hnone msg (List.mem_cons_of_mem _ hmem)) hsettled
      cases outgoing with
      | message msg => exact hrest.2.resolve_left (hnone msg List.mem_cons_self)
      | snapshot => exact hrest.resolve_right (by simp [htable])

theorem Reading.settled_of_dropped {msg : Message} (hmem : .message msg ∈ stream)
    (hdrops : entry ∈ reading.drops msg) (hsettled : reading.settled table entry stream held) :
    reading.settled table entry stream held' := by
  induction stream generalizing held held' with
  | nil => cases hmem
  | cons outgoing stream ih =>
      rcases List.mem_cons.mp hmem with rfl | hlater
      · rw [settled_cons] at hsettled ⊢
        exact settled_mono (fun hstays => absurd hdrops hstays.1) hsettled
      · exact ih hlater hsettled

theorem Reading.settled_of_held
    (hnone : ∀ msg, .message msg ∈ stream → entry ∉ reading.drops msg) (hheld : held) :
    reading.settled table entry stream held := by
  induction stream generalizing held with
  | nil => exact hheld
  | cons outgoing stream ih =>
      refine ih (fun msg hmem => hnone msg (List.mem_cons_of_mem _ hmem)) ?_
      cases outgoing with
      | message msg => exact ⟨hnone msg List.mem_cons_self, .inr hheld⟩
      | snapshot => exact .inl hheld

theorem Reading.settled_of_added {msg : Message} (hmem : .message msg ∈ stream)
    (hadds : entry ∈ reading.adds msg)
    (hnone : ∀ msg, .message msg ∈ stream → entry ∉ reading.drops msg) :
    reading.settled table entry stream held := by
  induction stream generalizing held with
  | nil => cases hmem
  | cons outgoing stream ih =>
      have hnone' := fun msg hmem => hnone msg (List.mem_cons_of_mem _ hmem)
      rcases List.mem_cons.mp hmem with rfl | hlater
      · rw [settled_cons]
        exact settled_of_held hnone' ⟨hnone msg List.mem_cons_self, .inl hadds⟩
      · exact ih hlater hnone'

theorem Reading.settled_table {after : Table}
    (himp : reading.has table entry = true → reading.has after entry = true)
    (hsettled : reading.settled table entry stream held) :
    reading.settled after entry stream held := by
  induction stream generalizing held with
  | nil => exact hsettled
  | cons outgoing stream ih =>
      rw [settled_cons] at hsettled ⊢
      refine settled_mono ?_ (ih hsettled)
      cases outgoing with
      | message msg => exact id
      | snapshot => exact Or.imp_right himp

end Settled

/-! ### What is on its way from one node to another -/

/-- The messages of one node to another, the oldest first, and the snapshots still to be taken. -/
def Cluster.stream [DecidableEq Node] (cluster : Cluster Node Table Message) (source target : Node) :
    List (Outgoing Message) :=
  ((cluster.nodes target).mailbox.filter (·.1 = source)).map (.message ·.2) ++
    (cluster.links source target).map .message ++
    ((cluster.nodes source).tasks.filter (·.1 = target)).map (·.2)

namespace Cluster

variable [DecidableEq Node] (cluster : Cluster Node Table Message)

/-- A node gets nothing lost: it does not lose a connection, it is there when a message arrives, and it is not its own peer. -/
def lossless : Action Node Op → Bool
  | .connected node peer => node ≠ peer
  | .disconnected _ _ => false
  | .arrive _ target => (cluster.nodes target).peers.isSome
  | _ => true

@[simp]
theorem nodes_setSite (node other : Node) (site : Site Node Table Message) :
    (cluster.setSite node site).nodes other =
      if other = node then site else cluster.nodes other :=
  Function.update_apply ..

@[simp]
theorem links_setSite (node source target : Node) (site : Site Node Table Message) :
    (cluster.setSite node site).links source target = cluster.links source target := rfl

@[simp]
theorem nodes_setLink (source target node : Node) (link : List Message) :
    (cluster.setLink source target link).nodes node = cluster.nodes node := rfl

theorem links_setLink (source target sender receiver : Node) (link : List Message) :
    (cluster.setLink source target link).links sender receiver =
      if sender = source ∧ receiver = target then link else cluster.links sender receiver := by
  by_cases hsource : sender = source
  · subst hsource
    simp [setLink, Function.update_apply]
  · simp [setLink, hsource]

variable {cluster} {node source target : Node} {site : Site Node Table Message}

theorem stream_setSite (extra : List (Node × Outgoing Message))
    (hmailbox : site.mailbox = (cluster.nodes node).mailbox)
    (htasks : site.tasks = (cluster.nodes node).tasks ++ extra) :
    (cluster.setSite node site).stream source target = cluster.stream source target ++
      if source = node then (extra.filter (·.1 = target)).map (·.2) else [] := by
  have hbox : (if target = node then site else cluster.nodes target).mailbox =
      (cluster.nodes target).mailbox := by
    split
    · rename_i heq
      rw [hmailbox, heq]
    · rfl
  by_cases heq : source = node
  · subst heq
    simp [stream, hbox, htasks]
  · simp [stream, hbox, heq]

end Cluster

section Invariant

variable [DecidableEq Node]

def Reading.removes [DecidableEq Entry] (reading : Reading Node Table Message Entry) (entry : Entry) :
    Outgoing Message → Bool
  | .message msg => entry ∈ reading.drops msg
  | .snapshot => false

/-- An entry that a node hears of is still its origin's, or the origin's removal is still on its way to the node. -/
def Reading.confirmed [DecidableEq Entry] (reading : Reading Node Table Message Entry)
    (cluster : Cluster Node Table Message) (node : Node) (entry : Entry) : Bool :=
  let origin := reading.origin entry
  if origin = node then reading.has (cluster.nodes node).table entry
  else
    node ∈ (cluster.nodes origin).knows &&
      (reading.has (cluster.nodes origin).table entry ||
        (cluster.stream origin node).any (reading.removes entry))

/-- The next message lists no entry of a third node, or of the node itself, that is not confirmed. -/
def Reading.fresh [DecidableEq Entry] (reading : Reading Node Table Message Entry)
    (cluster : Cluster Node Table Message) : Action Node Op → Bool
  | .receive node =>
      match (cluster.nodes node).mailbox with
      | [] => true
      | (source, msg) :: _ =>
          decide (∀ entry ∈ reading.adds msg,
            reading.origin entry = source ∨ reading.confirmed cluster node entry = true)
  | _ => true

structure Reading.Views (reading : Reading Node Table Message Entry)
    (cluster : Cluster Node Table Message) : Prop where
  apart : ∀ node, node ∉ (cluster.nodes node).knows
  idle : ∀ {source target}, target ∉ (cluster.nodes source).knows →
    cluster.stream source target = []
  unheard : ∀ {target entry}, target ∉ (cluster.nodes (reading.origin entry)).knows →
    reading.origin entry ≠ target → reading.has (cluster.nodes target).table entry = false
  authority : ∀ {source target msg entry}, .message msg ∈ cluster.stream source target →
    entry ∈ reading.drops msg → reading.origin entry = source
  sound : ∀ {target entry}, reading.origin entry ≠ target →
    reading.settled (cluster.nodes (reading.origin entry)).table entry
      (cluster.stream (reading.origin entry) target)
      (reading.has (cluster.nodes target).table entry = true) →
    reading.has (cluster.nodes (reading.origin entry)).table entry = true

/-- What a node has is on its way to every peer that does not have it. -/
def Reading.Told (reading : Reading Node Table Message Entry)
    (cluster : Cluster Node Table Message) : Prop :=
  ∀ target entry, target ∈ (cluster.nodes (reading.origin entry)).knows →
    reading.has (cluster.nodes (reading.origin entry)).table entry = true →
    reading.settled (cluster.nodes (reading.origin entry)).table entry
      (cluster.stream (reading.origin entry) target)
      (reading.has (cluster.nodes target).table entry = true)

omit [DecidableEq Node] in
theorem Site.arrive_of_peers {site : Site Node Table Message} {peers : List Node}
    (hpeers : site.peers = some peers) (source : Node) (msg : Message) :
    site.arrive source msg = { site with mailbox := site.mailbox ++ [(source, msg)] } := by
  rw [arrive, hpeers]

namespace Reading

variable {reading : Reading Node Table Message Entry}
  {protocol : Protocol Node Table Op Message Failure} {cluster later : Cluster Node Table Message}
  {node peer : Node} {site : Site Node Table Message}

theorem Views.start (hsound : reading.Sound protocol) :
    reading.Views (Cluster.start protocol) where
  apart node := by simp [Cluster.start, Site.start, Site.knows]
  idle _ := by simp [Cluster.stream, Cluster.start, Site.start]
  unheard _ _ := hsound.empty _
  authority hmem := by simp [Cluster.stream, Cluster.start, Site.start] at hmem
  sound _ hsettled := by
    simp [Cluster.stream, Cluster.start, Site.start, hsound.empty] at hsettled

/-! ### An operation of a node -/

section Perform

variable {op : Op} {after : Table} {msgs : List Message}

def told (site : Site Node Table Message) (msgs : List Message) (target : Node) :
    List (Outgoing Message) :=
  ((msgs.flatMap fun msg => site.knows.map fun peer => (peer, Outgoing.message msg)).filter
    (·.1 = target)).map (·.2)

theorem mem_told {target : Node} {outgoing : Outgoing Message} :
    outgoing ∈ told site msgs target ↔
      target ∈ site.knows ∧ ∃ msg ∈ msgs, outgoing = .message msg := by
  simp only [told, List.mem_map, List.mem_filter, List.mem_flatMap, decide_eq_true_eq]
  constructor
  · rintro ⟨_, ⟨⟨msg, hmsg, peer, hpeer, rfl⟩, rfl⟩, rfl⟩
    exact ⟨hpeer, msg, hmsg, rfl⟩
  · rintro ⟨htarget, msg, hmsg, rfl⟩
    exact ⟨_, ⟨⟨msg, hmsg, target, htarget, rfl⟩, rfl⟩, rfl⟩

theorem stream_broadcast (source target : Node) :
    (cluster.setSite node ({ cluster.nodes node with table := after }.broadcast msgs)).stream
        source target =
      cluster.stream source target ++
        if source = node then told (cluster.nodes node) msgs target else [] :=
  Cluster.stream_setSite _ rfl rfl

theorem Views.perform (hviews : reading.Views cluster) (hsound : reading.Sound protocol)
    (hperform : protocol.perform node (cluster.nodes node).table op = .ok (after, msgs)) :
    reading.Views
      (cluster.setSite node ({ cluster.nodes node with table := after }.broadcast msgs)) := by
  have hknows : ∀ other, ((cluster.setSite node
      ({ cluster.nodes node with table := after }.broadcast msgs)).nodes other).knows =
        (cluster.nodes other).knows := by
    intro other
    by_cases heq : other = node <;> simp [heq, Site.broadcast, Site.knows]
  have hforeign : ∀ {other entry}, reading.origin entry ≠ other →
      reading.has ((cluster.setSite node
        ({ cluster.nodes node with table := after }.broadcast msgs)).nodes other).table entry =
      reading.has (cluster.nodes other).table entry := by
    intro other entry hother
    by_cases heq : other = node
    · subst heq
      simpa [Site.broadcast] using hsound.foreign hperform hother
    · simp [heq]
  constructor
  case apart => exact fun other => hknows other ▸ hviews.apart other
  case idle =>
    intro source target hunknown
    rw [hknows] at hunknown
    rw [stream_broadcast, hviews.idle hunknown, List.nil_append]
    split
    · rename_i heq
      exact List.eq_nil_iff_forall_not_mem.mpr fun _ hmem =>
        hunknown (heq ▸ (mem_told.mp hmem).1)
    · rfl
  case unheard =>
    intro target entry hunknown horigin
    rw [hknows] at hunknown
    rw [hforeign horigin]
    exact hviews.unheard hunknown horigin
  case authority =>
    intro source target msg entry hmem hdrops
    rw [stream_broadcast, List.mem_append] at hmem
    rcases hmem with hold | hnew
    · exact hviews.authority hold hdrops
    · split at hnew
      · rename_i heq
        obtain ⟨-, msg, hmsg, ⟨⟩⟩ := mem_told.mp hnew
        exact heq ▸ hsound.own hperform msg hmsg entry (.inr hdrops)
      · cases hnew
  case sound =>
    intro target entry horigin hsettled
    rw [hforeign horigin, stream_broadcast] at hsettled
    by_cases heq : reading.origin entry = node
    · subst heq
      rw [Cluster.nodes_setSite, if_pos rfl, if_pos rfl] at hsettled
      rw [Cluster.nodes_setSite, if_pos rfl]
      show reading.has after entry = true
      by_contra hgone
      rw [Bool.not_eq_true] at hgone
      -- nothing of what is told adds the entry, so it is what the peer has without it
      have hunsaid : ∀ msg, .message msg ∈ told (cluster.nodes (reading.origin entry)) msgs target →
          entry ∉ reading.adds msg := by
        intro msg hmem
        obtain ⟨-, _, hmsg, ⟨⟩⟩ := mem_told.mp hmem
        exact hsound.unsaid hperform hmsg hgone
      rw [settled_append] at hsettled
      have hbefore := hviews.sound horigin
        (settled_table (fun hhas => absurd hhas (by simp [Site.broadcast, hgone]))
          (held_of_settled hunsaid hgone hsettled))
      obtain ⟨msg, hmsg, hdrops⟩ := hsound.dropped hperform hbefore hgone
      by_cases hknown : target ∈ (cluster.nodes (reading.origin entry)).knows
      · have hnever : reading.settled after entry (told _ msgs target) False :=
          settled_of_dropped (mem_told.mpr ⟨hknown, msg, hmsg, rfl⟩) hdrops hsettled
        exact held_of_settled hunsaid hgone hnever
      · have hheld := held_of_settled hunsaid hgone hsettled
        rw [hviews.idle hknown, hviews.unheard hknown horigin] at hheld
        cases hheld
    · rw [Cluster.nodes_setSite, if_neg heq, if_neg heq, List.append_nil] at hsettled
      rw [Cluster.nodes_setSite, if_neg heq]
      exact hviews.sound horigin hsettled

theorem Told.perform (htold : reading.Told cluster) (hviews : reading.Views cluster)
    (hcomplete : reading.Complete protocol)
    (hperform : protocol.perform node (cluster.nodes node).table op = .ok (after, msgs)) :
    reading.Told
      (cluster.setSite node ({ cluster.nodes node with table := after }.broadcast msgs)) := by
  intro target entry hknown hhas
  rw [stream_broadcast]
  by_cases heq : reading.origin entry = node
  · subst heq
    have hne : target ≠ reading.origin entry := by
      rintro rfl
      simp only [Cluster.nodes_setSite, if_pos] at hknown
      exact hviews.apart _ hknown
    simp only [Cluster.nodes_setSite, if_pos, if_neg hne] at hknown hhas ⊢
    have hundropped : ∀ msg, .message msg ∈ told (cluster.nodes (reading.origin entry)) msgs target →
        entry ∉ reading.drops msg := by
      intro msg hmem
      obtain ⟨-, _, hmsg, ⟨⟩⟩ := mem_told.mp hmem
      exact hcomplete.undropped hperform hmsg hhas
    rw [settled_append]
    cases hbefore : reading.has (cluster.nodes (reading.origin entry)).table entry with
    | true =>
        exact settled_of_held hundropped (settled_table (fun _ => hhas) (htold _ _ hknown hbefore))
    | false =>
        obtain ⟨msg, hmsg, hadds⟩ := hcomplete.announced hperform hbefore hhas
        exact settled_of_added (mem_told.mpr ⟨hknown, msg, hmsg, rfl⟩) hadds hundropped
  · simp only [Cluster.nodes_setSite, if_neg heq, List.append_nil] at hknown hhas ⊢
    split
    · rename_i htarget
      subst htarget
      show reading.settled _ _ _ (reading.has after entry = true)
      rw [hcomplete.foreign hperform heq]
      exact htold _ _ hknown hhas
    · exact htold _ _ hknown hhas

end Perform

/-! ### Messages on their way

Connections, tasks and arrivals leave the tables as they are. -/

section Tables

variable (htable : ∀ node, (later.nodes node).table = (cluster.nodes node).table)
include htable

theorem Views.of_tables (hviews : reading.Views cluster)
    (hapart : ∀ node, node ∉ (later.nodes node).knows)
    (hidle : ∀ source target, target ∉ (later.nodes source).knows →
      target ∉ (cluster.nodes source).knows ∧
        later.stream source target = cluster.stream source target)
    (hmessage : ∀ source target msg, .message msg ∈ later.stream source target →
      .message msg ∈ cluster.stream source target ∨ ∀ entry, entry ∉ reading.drops msg)
    (hsettled : ∀ source target entry held,
      reading.settled (cluster.nodes source).table entry (later.stream source target) held →
      reading.settled (cluster.nodes source).table entry (cluster.stream source target) held ∨
        reading.has (cluster.nodes source).table entry = true) :
    reading.Views later where
  apart := hapart
  idle hunknown := by
    obtain ⟨hbefore, hsame⟩ := hidle _ _ hunknown
    rw [hsame, hviews.idle hbefore]
  unheard hunknown horigin := by
    rw [htable]
    exact hviews.unheard (hidle _ _ hunknown).1 horigin
  authority hmem hdrops := by
    rcases hmessage _ _ _ hmem with hold | hnone
    · exact hviews.authority hold hdrops
    · exact absurd hdrops (hnone _)
  sound horigin hnext := by
    rw [htable, htable] at hnext
    rw [htable]
    exact (hsettled _ _ _ _ hnext).elim (hviews.sound horigin) id

theorem Told.of_tables (htold : reading.Told cluster)
    (hsettled : ∀ source target entry held, target ∈ (later.nodes source).knows →
      reading.has (cluster.nodes source).table entry = true →
      (target ∈ (cluster.nodes source).knows →
        reading.settled (cluster.nodes source).table entry (cluster.stream source target) held) →
      reading.settled (cluster.nodes source).table entry (later.stream source target) held) :
    reading.Told later := by
  intro target entry hknown hhas
  simp only [htable] at hhas ⊢
  exact hsettled _ _ _ _ hknown hhas fun hbefore => htold _ _ hbefore hhas

end Tables

section Connected

variable {peers : List Node} (hpeers : (cluster.nodes node).peers = some peers)
include hpeers

theorem mem_knows_connected {source target : Node} :
    target ∈ ((cluster.setSite node ((cluster.nodes node).connected peer)).nodes source).knows ↔
      (source = node ∧ target = peer) ∨ target ∈ (cluster.nodes source).knows := by
  by_cases heq : source = node
  · subst heq
    by_cases hmem : peer ∈ peers
    · simp only [Cluster.nodes_setSite, Site.connected, Site.knows, hpeers, hmem, ↓reduceIte,
        Option.getD_some, true_and]
      exact ⟨.inr, fun hor => hor.elim (fun heq => heq ▸ hmem) id⟩
    · simp [Site.connected, Site.knows, hpeers, hmem, or_comm]
  · simp [heq]

theorem table_connected (other : Node) :
    ((cluster.setSite node ((cluster.nodes node).connected peer)).nodes other).table =
      (cluster.nodes other).table := by
  by_cases heq : other = node <;> simp [heq, Site.connected, hpeers]

theorem stream_connected (source target : Node) :
    (cluster.setSite node ((cluster.nodes node).connected peer)).stream source target =
      cluster.stream source target ++
        if source = node ∧ target = peer then [.snapshot] else [] := by
  rw [Cluster.stream_setSite [(peer, .snapshot)]]
  · by_cases hsource : source = node <;> by_cases htarget : target = peer <;>
      simp [hsource, htarget, eq_comm]
  all_goals simp [Site.connected, hpeers]

theorem Views.connected (hviews : reading.Views cluster) (hne : node ≠ peer) :
    reading.Views (cluster.setSite node ((cluster.nodes node).connected peer)) := by
  refine hviews.of_tables (table_connected hpeers) ?_ ?_ ?_ ?_
  · intro other hself
    rcases (mem_knows_connected hpeers).mp hself with ⟨rfl, heq⟩ | hbefore
    · exact hne heq
    · exact hviews.apart other hbefore
  · intro source target hunknown
    rw [mem_knows_connected hpeers, not_or] at hunknown
    rw [stream_connected hpeers, if_neg hunknown.1, List.append_nil]
    exact ⟨hunknown.2, rfl⟩
  · intro source target msg hmem
    rw [stream_connected hpeers, List.mem_append] at hmem
    refine .inl (hmem.resolve_right fun hnew => ?_)
    split at hnew <;> simp at hnew
  · intro source target entry held hsettled
    rw [stream_connected hpeers, settled_append] at hsettled
    split at hsettled
    · exact hsettled
    · exact .inl hsettled

theorem Told.connected (htold : reading.Told cluster) :
    reading.Told (cluster.setSite node ((cluster.nodes node).connected peer)) := by
  refine htold.of_tables (table_connected hpeers) ?_
  intro source target entry held hknown hhas hsettled
  rw [stream_connected hpeers, settled_append]
  split
  · exact .inr hhas
  · rename_i hother
    exact hsettled (((mem_knows_connected hpeers).mp hknown).resolve_left hother)

end Connected

section RunTask

variable {outgoing : Outgoing Message} {rest : List (Node × Outgoing Message)}

def ran (protocol : Protocol Node Table Op Message Failure) (cluster : Cluster Node Table Message)
    (node peer : Node) (outgoing : Outgoing Message) (rest : List (Node × Outgoing Message)) :
    Cluster Node Table Message :=
  (cluster.setSite node { cluster.nodes node with tasks := rest }).post node
    ((outgoing.render protocol (cluster.nodes node).table).map fun msg => (peer, msg))

theorem nodes_ran (other : Node) :
    (ran protocol cluster node peer outgoing rest).nodes other =
      if other = node then { cluster.nodes node with tasks := rest } else cluster.nodes other := by
  unfold ran
  cases outgoing.render protocol (cluster.nodes node).table <;> simp [Cluster.post]

theorem links_ran (source target : Node) :
    (ran protocol cluster node peer outgoing rest).links source target =
      cluster.links source target ++ if source = node ∧ target = peer then
        (outgoing.render protocol (cluster.nodes node).table).toList else [] := by
  unfold ran
  cases outgoing.render protocol (cluster.nodes node).table with
  | none => simp [Cluster.post]
  | some msg =>
      simp only [Option.map_some, Cluster.post, Cluster.links_setLink, Cluster.links_setSite,
        Option.toList_some]
      split
      · rename_i heq
        rw [heq.1, heq.2]
      · rw [List.append_nil]

theorem knows_ran (other : Node) :
    ((ran protocol cluster node peer outgoing rest).nodes other).knows =
      (cluster.nodes other).knows := by
  rw [nodes_ran]
  split
  · rename_i heq
    rw [heq]
    rfl
  · rfl

theorem table_ran (other : Node) :
    ((ran protocol cluster node peer outgoing rest).nodes other).table =
      (cluster.nodes other).table := by
  rw [nodes_ran]
  split
  · rename_i heq
    rw [heq]
  · rfl

theorem stream_ran (protocol : Protocol Node Table Op Message Failure)
    (htasks : (cluster.nodes node).tasks = (peer, outgoing) :: rest) (source target : Node) :
    ∃ before later, cluster.stream source target =
        before ++ (if source = node ∧ target = peer then [outgoing] else []) ++ later ∧
      (ran protocol cluster node peer outgoing rest).stream source target =
        before ++ (if source = node ∧ target = peer then
          (outgoing.render protocol (cluster.nodes node).table).toList.map .message else []) ++
            later := by
  have hmailbox : ((ran protocol cluster node peer outgoing rest).nodes target).mailbox =
      (cluster.nodes target).mailbox := by
    rw [nodes_ran]
    split
    · rename_i heq
      rw [heq]
    · rfl
  refine ⟨((cluster.nodes target).mailbox.filter (·.1 = source)).map (.message ·.2) ++
      (cluster.links source target).map .message,
    (((ran protocol cluster node peer outgoing rest).nodes source).tasks.filter
      (·.1 = target)).map (·.2), ?_, ?_⟩
  · rw [Cluster.stream, List.append_assoc, nodes_ran]
    by_cases hsource : source = node
    · subst hsource
      by_cases htarget : target = peer <;> simp [htasks, htarget, eq_comm]
    · simp [hsource]
  · rw [Cluster.stream, hmailbox, links_ran]
    split <;> simp [List.append_assoc]

omit [DecidableEq Node] in
theorem settled_render (hsound : reading.Sound protocol) {table : Table} {entry : Entry}
    {held : Prop} :
    reading.settled table entry ((outgoing.render protocol table).toList.map .message) held ↔
      reading.settled table entry [outgoing] held := by
  cases outgoing with
  | message msg => rfl
  | snapshot =>
      rw [Outgoing.render]
      cases hsnapshot : protocol.snapshot table with
      | none => simp [settle, hsound.silent hsnapshot]
      | some msg =>
          have hdrops : entry ∉ reading.drops msg := (hsound.snapshot hsnapshot).1
          simp [settle, hdrops, (hsound.snapshot hsnapshot).2, or_comm]

theorem settled_ran (hsound : reading.Sound protocol)
    (htasks : (cluster.nodes node).tasks = (peer, outgoing) :: rest)
    {source target : Node} {entry : Entry} {held : Prop} :
    reading.settled (cluster.nodes source).table entry
        ((ran protocol cluster node peer outgoing rest).stream source target) held ↔
      reading.settled (cluster.nodes source).table entry (cluster.stream source target) held := by
  obtain ⟨before, later, hbefore, hafter⟩ := stream_ran protocol htasks source target
  rw [hbefore, hafter]
  simp only [settled_append]
  split
  · rename_i heq
    rw [heq.1, settled_render hsound]
  · exact Iff.rfl

theorem Views.ran (hviews : reading.Views cluster) (hsound : reading.Sound protocol)
    (htasks : (cluster.nodes node).tasks = (peer, outgoing) :: rest) :
    reading.Views (ran protocol cluster node peer outgoing rest) := by
  refine hviews.of_tables table_ran ?_ ?_ ?_
    fun _ _ _ _ hsettled => .inl ((settled_ran hsound htasks).mp hsettled)
  · intro other
    rw [knows_ran]
    exact hviews.apart other
  · intro source target hunknown
    rw [knows_ran] at hunknown
    obtain ⟨before, later, hbefore, hafter⟩ := stream_ran protocol htasks source target
    have hnil := hviews.idle hunknown
    rw [hbefore] at hnil
    -- nobody is sent anything the node does not know
    have hother : ¬(source = node ∧ target = peer) := fun heq => by simp [heq] at hnil
    rw [hbefore, hafter, if_neg hother, if_neg hother]
    exact ⟨hunknown, rfl⟩
  · intro source target msg hmem
    obtain ⟨before, later, hbefore, hafter⟩ := stream_ran protocol htasks source target
    rw [hafter] at hmem
    rw [hbefore]
    split at hmem
    · rename_i heq
      rw [if_pos heq]
      simp only [List.mem_append, List.mem_map, Option.mem_toList, Outgoing.message.injEq,
        exists_eq_right, List.mem_singleton] at hmem ⊢
      rcases hmem with (hold | hrendered) | hold
      · exact .inl (.inl (.inl hold))
      · cases outgoing with
        | message sent => exact .inl (.inl (.inr (congrArg _ (Option.some.inj hrendered).symm)))
        | snapshot => exact .inr fun entry => (hsound.snapshot hrendered).1
      · exact .inl (.inr hold)
    · rename_i hother
      rw [if_neg hother]
      exact .inl hmem

theorem Told.ran (htold : reading.Told cluster) (hsound : reading.Sound protocol)
    (htasks : (cluster.nodes node).tasks = (peer, outgoing) :: rest) :
    reading.Told (ran protocol cluster node peer outgoing rest) := by
  refine htold.of_tables table_ran ?_
  intro source target entry held hknown _ hsettled
  exact (settled_ran hsound htasks).mpr (hsettled (knows_ran source ▸ hknown))

end RunTask

section Arrive

variable {source target : Node} {msg : Message} {rest : List Message} {peers : List Node}

def arrived (cluster : Cluster Node Table Message) (source target : Node) (msg : Message)
    (rest : List Message) : Cluster Node Table Message :=
  (cluster.setLink source target rest).setSite target
    { cluster.nodes target with mailbox := (cluster.nodes target).mailbox ++ [(source, msg)] }

theorem knows_arrived (other : Node) :
    ((arrived cluster source target msg rest).nodes other).knows =
      (cluster.nodes other).knows := by
  by_cases heq : other = target <;> simp [arrived, heq, Site.knows]

theorem table_arrived (other : Node) :
    ((arrived cluster source target msg rest).nodes other).table =
      (cluster.nodes other).table := by
  by_cases heq : other = target <;> simp [arrived, heq]

theorem stream_arrived (hlink : cluster.links source target = msg :: rest) (sender receiver : Node) :
    (arrived cluster source target msg rest).stream sender receiver = cluster.stream sender receiver := by
  have htasks : ((arrived cluster source target msg rest).nodes sender).tasks =
      (cluster.nodes sender).tasks := by
    by_cases heq : sender = target <;> simp [arrived, heq]
  rw [Cluster.stream, Cluster.stream, htasks]
  simp only [arrived, Cluster.nodes_setSite, Cluster.links_setSite, Cluster.links_setLink,
    Cluster.nodes_setLink]
  by_cases hto : receiver = target
  · subst hto
    by_cases hfrom : sender = source
    · subst hfrom
      simp [hlink]
    · simp [hfrom, Ne.symm hfrom]
  · simp [hto]

theorem Views.arrived (hviews : reading.Views cluster)
    (hlink : cluster.links source target = msg :: rest) :
    reading.Views (arrived cluster source target msg rest) := by
  refine hviews.of_tables table_arrived ?_ ?_ ?_ ?_
  · intro other
    rw [knows_arrived]
    exact hviews.apart other
  · intro sender receiver hunknown
    rw [knows_arrived] at hunknown
    exact ⟨hunknown, stream_arrived hlink sender receiver⟩
  · intro sender receiver msg hmem
    exact .inl (stream_arrived hlink sender receiver ▸ hmem)
  · intro sender receiver entry held hsettled
    exact .inl (stream_arrived hlink sender receiver ▸ hsettled)

theorem Told.arrived (htold : reading.Told cluster)
    (hlink : cluster.links source target = msg :: rest) :
    reading.Told (arrived cluster source target msg rest) := by
  refine htold.of_tables table_arrived ?_
  intro sender receiver entry held hknown _ hsettled
  rw [stream_arrived hlink]
  exact hsettled (knows_arrived sender ▸ hknown)

end Arrive

/-! ### A message is taken -/

section Receive

variable {source : Node} {msg : Message} {rest : List (Node × Message)}

def taken (protocol : Protocol Node Table Op Message Failure) (cluster : Cluster Node Table Message)
    (node : Node) (msg : Message) (rest : List (Node × Message)) : Cluster Node Table Message :=
  cluster.setSite node
    { cluster.nodes node with
      table := protocol.receive (cluster.nodes node).table msg
      mailbox := rest }

theorem knows_taken (other : Node) :
    ((taken protocol cluster node msg rest).nodes other).knows = (cluster.nodes other).knows := by
  by_cases heq : other = node <;> simp [taken, heq, Site.knows]

theorem stream_taken (protocol : Protocol Node Table Op Message Failure)
    (hmailbox : (cluster.nodes node).mailbox = (source, msg) :: rest) (sender receiver : Node) :
    cluster.stream sender receiver =
      (if sender = source ∧ receiver = node then [.message msg] else []) ++
        (taken protocol cluster node msg rest).stream sender receiver := by
  have htasks : ((taken protocol cluster node msg rest).nodes sender).tasks =
      (cluster.nodes sender).tasks := by
    by_cases heq : sender = node <;> simp [taken, heq]
  rw [Cluster.stream, Cluster.stream, htasks]
  by_cases hreceiver : receiver = node
  · subst hreceiver
    by_cases hsender : sender = source
    · simp [taken, hmailbox, hsender]
    · simp [taken, hmailbox, hsender, Ne.symm hsender]
  · simp [taken, hreceiver]

theorem mem_stream_of_mailbox
    (hmailbox : (cluster.nodes node).mailbox = (source, msg) :: rest) :
    .message msg ∈ cluster.stream source node := by
  simp [Cluster.stream, hmailbox]

theorem Views.knows_of_mailbox (hviews : reading.Views cluster)
    (hmailbox : (cluster.nodes node).mailbox = (source, msg) :: rest) :
    node ∈ (cluster.nodes source).knows := by
  by_contra hunknown
  have hmem := mem_stream_of_mailbox hmailbox
  rw [hviews.idle hunknown] at hmem
  cases hmem

theorem Views.source_ne (hviews : reading.Views cluster)
    (hmailbox : (cluster.nodes node).mailbox = (source, msg) :: rest) : source ≠ node := by
  rintro rfl
  exact hviews.apart _ (hviews.knows_of_mailbox hmailbox)

theorem confirmed_of_new [DecidableEq Entry] (hsound : reading.Sound protocol)
    (hfresh : ∀ entry ∈ reading.adds msg,
      reading.origin entry = source ∨ reading.confirmed cluster node entry = true)
    {entry : Entry} (hsource : reading.origin entry ≠ source)
    (hnode : reading.origin entry ≠ node)
    (hbefore : reading.has (cluster.nodes node).table entry = false)
    (hafter : reading.has (protocol.receive (cluster.nodes node).table msg) entry = true) :
    node ∈ (cluster.nodes (reading.origin entry)).knows ∧
      (reading.has (cluster.nodes (reading.origin entry)).table entry = true ∨
        ∃ removal, .message removal ∈ cluster.stream (reading.origin entry) node ∧
          entry ∈ reading.drops removal) := by
  have hadds := (hsound.received hafter).2.resolve_right (by simp [hbefore])
  have hconfirmed := (hfresh entry hadds).resolve_left hsource
  simp only [confirmed, hnode, ↓reduceIte, Bool.and_eq_true, decide_eq_true_eq, Bool.or_eq_true,
    List.any_eq_true] at hconfirmed
  refine hconfirmed.imp_right (Or.imp_right ?_)
  rintro ⟨outgoing, hmem, hremoves⟩
  cases outgoing with
  | message removal => exact ⟨removal, hmem, of_decide_eq_true hremoves⟩
  | snapshot => cases hremoves

variable [DecidableEq Entry] (hviews : reading.Views cluster) (hsound : reading.Sound protocol)
  (hmailbox : (cluster.nodes node).mailbox = (source, msg) :: rest)
  (hfresh : ∀ entry ∈ reading.adds msg,
    reading.origin entry = source ∨ reading.confirmed cluster node entry = true)
include hviews hsound hmailbox hfresh

theorem Views.own_taken {entry : Entry} (horigin : reading.origin entry = node) :
    reading.has (protocol.receive (cluster.nodes node).table msg) entry =
      reading.has (cluster.nodes node).table entry := by
  have hsource : reading.origin entry ≠ source := fun heq =>
    hviews.source_ne hmailbox (heq.symm.trans horigin)
  rw [Bool.eq_iff_iff]
  constructor
  · intro hafter
    rcases (hsound.received hafter).2 with hadds | hbefore
    · have hconfirmed := (hfresh entry hadds).resolve_left hsource
      simpa [confirmed, horigin] using hconfirmed
    · exact hbefore
  · intro hbefore
    refine hsound.kept hbefore fun hdrops => hsource ?_
    exact hviews.authority (mem_stream_of_mailbox hmailbox) hdrops

theorem Views.has_taken (entry : Entry) :
    reading.has ((taken protocol cluster node msg rest).nodes (reading.origin entry)).table entry =
      reading.has (cluster.nodes (reading.origin entry)).table entry := by
  rw [Reading.taken, Cluster.nodes_setSite]
  split
  · rename_i heq
    rw [heq]
    exact hviews.own_taken hsound hmailbox hfresh heq
  · rfl

theorem Views.sound_taken {target : Node} {entry : Entry} (horigin : reading.origin entry ≠ target)
    (hsettled : reading.settled (cluster.nodes (reading.origin entry)).table entry
      ((taken protocol cluster node msg rest).stream (reading.origin entry) target)
      (reading.has ((taken protocol cluster node msg rest).nodes target).table entry = true)) :
    reading.has (cluster.nodes (reading.origin entry)).table entry = true := by
  have hstream := stream_taken protocol hmailbox (reading.origin entry) target
  by_cases htarget : target = node
  · subst htarget
    simp only [taken, Cluster.nodes_setSite, if_pos] at hsettled
    rw [← taken] at hsettled
    by_cases hsource : reading.origin entry = source
    · rw [if_pos ⟨hsource, rfl⟩] at hstream
      refine hviews.sound horigin ?_
      rw [hstream, settled_append]
      exact settled_mono (fun hafter => hsound.received hafter) hsettled
    · rw [if_neg fun heq => hsource heq.1, List.nil_append] at hstream
      rw [← hstream] at hsettled
      cases hbefore : reading.has (cluster.nodes target).table entry with
      | true => exact hviews.sound horigin (settled_mono (fun _ => hbefore) hsettled)
      | false =>
          cases hafter : reading.has (protocol.receive (cluster.nodes target).table msg) entry with
          | false =>
              rw [hafter, ← hbefore] at hsettled
              exact hviews.sound horigin hsettled
          | true =>
              obtain ⟨-, hhas | ⟨removal, hmem, hdrops⟩⟩ :=
                confirmed_of_new hsound hfresh hsource horigin hbefore hafter
              · exact hhas
              · exact hviews.sound horigin (settled_of_dropped hmem hdrops hsettled)
  · rw [if_neg fun heq => htarget heq.2, List.nil_append] at hstream
    rw [← hstream] at hsettled
    simp only [taken, Cluster.nodes_setSite, if_neg htarget] at hsettled
    exact hviews.sound horigin hsettled

theorem Views.taken : reading.Views (taken protocol cluster node msg rest) := by
  constructor
  case apart =>
    intro other
    rw [knows_taken]
    exact hviews.apart other
  case idle =>
    intro sender receiver hunknown
    rw [knows_taken] at hunknown
    have hstream := stream_taken protocol hmailbox sender receiver
    rw [hviews.idle hunknown] at hstream
    exact (List.append_eq_nil_iff.mp hstream.symm).2
  case unheard =>
    intro target entry hunknown horigin
    rw [knows_taken] at hunknown
    have hbefore := hviews.unheard hunknown horigin
    by_cases htarget : target = node
    · subst htarget
      rw [Reading.taken, Cluster.nodes_setSite, if_pos rfl]
      by_contra hafter
      rw [Bool.not_eq_false] at hafter
      by_cases hsource : reading.origin entry = source
      · exact hunknown (hsource ▸ hviews.knows_of_mailbox hmailbox)
      · exact hunknown (confirmed_of_new hsound hfresh hsource horigin hbefore hafter).1
    · rwa [Reading.taken, Cluster.nodes_setSite, if_neg htarget]
  case authority =>
    intro sender receiver other entry hmem hdrops
    have hbefore : .message other ∈ cluster.stream sender receiver := by
      rw [stream_taken protocol hmailbox]
      exact List.mem_append_right _ hmem
    exact hviews.authority hbefore hdrops
  case sound =>
    intro target entry horigin hsettled
    have hsame := hviews.has_taken hsound hmailbox hfresh entry
    rw [hsame]
    exact hviews.sound_taken hsound hmailbox hfresh horigin
      (settled_table (fun hhas => hsame.symm.trans hhas) hsettled)

omit hsound in
theorem Told.taken (htold : reading.Told cluster) (hcomplete : reading.Complete protocol) :
    reading.Told (taken protocol cluster node msg rest) := by
  intro target entry hknown hhas
  rw [knows_taken] at hknown
  have hsame := hviews.has_taken hcomplete.toSound hmailbox hfresh entry
  have hbefore := hsame.symm.trans hhas
  have hsettled := settled_table (fun _ => hhas) (htold _ _ hknown hbefore)
  have hstream := stream_taken protocol hmailbox (reading.origin entry) target
  rw [hstream] at hsettled
  by_cases htarget : target = node
  · subst htarget
    rw [show ((Reading.taken protocol cluster target msg rest).nodes target).table =
      protocol.receive (cluster.nodes target).table msg by simp [Reading.taken]]
    by_cases hsource : reading.origin entry = source
    · rw [if_pos ⟨hsource, rfl⟩, settled_append] at hsettled
      refine settled_mono ?_ hsettled
      rintro ⟨hstays, hadds | hheld⟩
      · exact hcomplete.accepted hadds hstays
      · exact hcomplete.kept hheld hstays
    · rw [if_neg fun heq => hsource heq.1, List.nil_append] at hsettled
      refine settled_mono (fun hheld => hcomplete.kept hheld fun hdrops => hsource ?_) hsettled
      exact hviews.authority (mem_stream_of_mailbox hmailbox) hdrops
  · rw [if_neg fun heq => htarget heq.2, List.nil_append] at hsettled
    simpa only [Reading.taken, Cluster.nodes_setSite, if_neg htarget] using hsettled

end Receive

section Step

theorem registered_tables (hpeers : (cluster.nodes node).peers = none) (other : Node) :
    ((cluster.setSite node { cluster.nodes node with peers := some [] }).nodes other).table =
        (cluster.nodes other).table ∧
      ((cluster.setSite node { cluster.nodes node with peers := some [] }).nodes other).knows =
        (cluster.nodes other).knows := by
  by_cases heq : other = node <;> simp [heq, Site.knows, hpeers]

theorem stream_registered (source target : Node) :
    (cluster.setSite node { cluster.nodes node with peers := some [] }).stream source target =
      cluster.stream source target := by
  rw [Cluster.stream_setSite []]
  all_goals simp

theorem Views.registered (hviews : reading.Views cluster)
    (hpeers : (cluster.nodes node).peers = none) :
    reading.Views (cluster.setSite node { cluster.nodes node with peers := some [] }) := by
  refine hviews.of_tables (fun other => (registered_tables hpeers other).1) ?_ ?_ ?_ ?_
  · intro other
    rw [(registered_tables hpeers other).2]
    exact hviews.apart other
  · intro source target hunknown
    rw [(registered_tables hpeers source).2] at hunknown
    exact ⟨hunknown, stream_registered source target⟩
  · intro source target msg hmem
    exact .inl (stream_registered source target ▸ hmem)
  · intro source target entry held hsettled
    exact .inl (stream_registered source target ▸ hsettled)

theorem Told.registered (htold : reading.Told cluster)
    (hpeers : (cluster.nodes node).peers = none) :
    reading.Told (cluster.setSite node { cluster.nodes node with peers := some [] }) := by
  refine htold.of_tables (fun other => (registered_tables hpeers other).1) ?_
  intro source target entry held hknown _ hsettled
  rw [stream_registered]
  exact hsettled ((registered_tables hpeers source).2 ▸ hknown)

inductive Moved (protocol : Protocol Node Table Op Message Failure) (cluster : Cluster Node Table Message) :
    Action Node Op → Cluster Node Table Message → Prop
  | idle {action : Action Node Op} : Moved protocol cluster action cluster
  | registered {node : Node} (hpeers : (cluster.nodes node).peers = none) :
      Moved protocol cluster (.register node)
        (cluster.setSite node { cluster.nodes node with peers := some [] })
  | performed {node : Node} {op : Op} {after : Table} {msgs : List Message}
      (hperform : protocol.perform node (cluster.nodes node).table op = .ok (after, msgs)) :
      Moved protocol cluster (.perform node op)
        (cluster.setSite node ({ cluster.nodes node with table := after }.broadcast msgs))
  | connected {node peer : Node} {peers : List Node} (hne : node ≠ peer)
      (hpeers : (cluster.nodes node).peers = some peers) :
      Moved protocol cluster (.connected node peer)
        (cluster.setSite node ((cluster.nodes node).connected peer))
  | ran {node peer : Node} {outgoing : Outgoing Message} {rest : List (Node × Outgoing Message)}
      (htasks : (cluster.nodes node).tasks = (peer, outgoing) :: rest) :
      Moved protocol cluster (.runTask node) (ran protocol cluster node peer outgoing rest)
  | arrived {source target : Node} {msg : Message} {rest : List Message}
      (hlink : cluster.links source target = msg :: rest) :
      Moved protocol cluster (.arrive source target) (arrived cluster source target msg rest)
  | taken {node source : Node} {msg : Message} {rest : List (Node × Message)}
      (hmailbox : (cluster.nodes node).mailbox = (source, msg) :: rest) :
      Moved protocol cluster (.receive node) (taken protocol cluster node msg rest)

theorem setSite_self : cluster.setSite node (cluster.nodes node) = cluster := by
  rw [Cluster.setSite, Function.update_eq_self]

theorem moved_of_step {action : Action Node Op} (hlossless : cluster.lossless action = true)
    (hstep : cluster.step protocol action = some later) :
    Moved protocol cluster action later := by
  cases action with
  | register node =>
      obtain ⟨site, hsite, rfl⟩ := Option.map_eq_some_iff.mp hstep
      rw [Site.step, Option.ite_none_right_eq_some] at hsite
      obtain ⟨hpeers, hsite⟩ := hsite
      exact Option.some.inj hsite ▸ .registered (Option.isNone_iff_eq_none.mp hpeers)
  | perform node op =>
      obtain rfl := Option.some.inj hstep
      cases hperform : protocol.perform node (cluster.nodes node).table op with
      | error text =>
          rw [Site.perform, hperform]
          show Moved protocol cluster _ (cluster.setSite node (cluster.nodes node))
          rw [setSite_self]
          exact .idle
      | ok result =>
          rw [Site.perform, hperform]
          exact .performed hperform
  | connected node peer =>
      obtain rfl := Option.some.inj hstep
      cases hpeers : (cluster.nodes node).peers with
      | none =>
          rw [Site.connected, hpeers]
          show Moved protocol cluster _ (cluster.setSite node (cluster.nodes node))
          rw [setSite_self]
          exact .idle
      | some peers => exact .connected (of_decide_eq_true hlossless) hpeers
  | disconnected node peer => cases hlossless
  | runTask node =>
      obtain ⟨⟨site, sent⟩, hrun, rfl⟩ := Option.map_eq_some_iff.mp hstep
      cases htasks : (cluster.nodes node).tasks with
      | nil => simp [Site.runTask, htasks] at hrun
      | cons task rest =>
          simp only [Site.runTask, htasks, Option.some.injEq, Prod.mk.injEq] at hrun
          obtain ⟨rfl, rfl⟩ := hrun
          exact .ran htasks
  | arrive source target =>
      cases hlink : cluster.links source target with
      | nil => simp [Cluster.step, hlink] at hstep
      | cons msg rest =>
          obtain ⟨peers, hpeers⟩ := Option.isSome_iff_exists.mp hlossless
          rw [Cluster.step, hlink] at hstep
          obtain rfl := Option.some.inj hstep
          rw [Site.arrive_of_peers hpeers]
          exact .arrived hlink
  | receive node =>
      obtain ⟨site, hsite, rfl⟩ := Option.map_eq_some_iff.mp hstep
      cases hmailbox : (cluster.nodes node).mailbox with
      | nil => simp [Site.receive, hmailbox] at hsite
      | cons head rest =>
          simp only [Site.receive, hmailbox, Option.some.injEq] at hsite
          exact hsite ▸ .taken hmailbox

variable [DecidableEq Entry] {action : Action Node Op}

theorem fresh_of_mailbox {source : Node} {msg : Message} {rest : List (Node × Message)}
    (hmailbox : (cluster.nodes node).mailbox = (source, msg) :: rest)
    (hfresh : reading.fresh cluster (.receive node : Action Node Op) = true) :
    ∀ entry ∈ reading.adds msg,
      reading.origin entry = source ∨ reading.confirmed cluster node entry = true := by
  rw [fresh, hmailbox] at hfresh
  exact of_decide_eq_true hfresh

theorem Views.next (hviews : reading.Views cluster) (hsound : reading.Sound protocol)
    (hfresh : reading.fresh cluster action = true) (hmoved : Moved protocol cluster action later) :
    reading.Views later := by
  cases hmoved with
  | idle => exact hviews
  | registered hpeers => exact hviews.registered hpeers
  | performed hperform => exact hviews.perform hsound hperform
  | connected hne hpeers => exact hviews.connected hpeers hne
  | ran htasks => exact hviews.ran hsound htasks
  | arrived hlink => exact hviews.arrived hlink
  | taken hmailbox => exact hviews.taken hsound hmailbox (fresh_of_mailbox hmailbox hfresh)

theorem Told.next (htold : reading.Told cluster) (hviews : reading.Views cluster)
    (hcomplete : reading.Complete protocol) (hfresh : reading.fresh cluster action = true)
    (hmoved : Moved protocol cluster action later) : reading.Told later := by
  cases hmoved with
  | idle => exact htold
  | registered hpeers => exact htold.registered hpeers
  | performed hperform => exact htold.perform hviews hcomplete hperform
  | connected _ hpeers => exact htold.connected hpeers
  | ran htasks => exact htold.ran hcomplete.toSound htasks
  | arrived hlink => exact htold.arrived hlink
  | taken hmailbox =>
      exact htold.taken hviews hmailbox (fresh_of_mailbox hmailbox hfresh) hcomplete

end Step

/-! ### Nothing is on its way -/

variable [DecidableEq Entry]

/-- A run in which nothing is lost, and nothing that is relayed is out of date. -/
abbrev Calm (protocol : Protocol Node Table Op Message Failure)
    (reading : Reading Node Table Message Entry) : Cluster Node Table Message → Prop :=
  Machine.ReachableWhere (Cluster.step protocol)
    (fun cluster action =>
      cluster.lossless action = true ∧ reading.fresh cluster action = true)
    (Cluster.start protocol)

theorem Calm.views (hsound : reading.Sound protocol) (hreach : Calm protocol reading cluster) :
    reading.Views cluster :=
  hreach.invariant (Views.start hsound) fun _ _ _ hviews hallowed hstep =>
    hviews.next hsound hallowed.2 (moved_of_step hallowed.1 hstep)

theorem Calm.told (hcomplete : reading.Complete protocol)
    (hreach : Calm protocol reading cluster) : reading.Told cluster := by
  refine hreach.invariant_of_reachable ?_ ?_
  · intro target entry hknown
    simp [Cluster.start, Site.start, Site.knows] at hknown
  · intro before action after hbefore htold hallowed hstep
    exact htold.next (Calm.views hcomplete.toSound hbefore) hcomplete hallowed.2
      (moved_of_step hallowed.1 hstep)

variable {ids : List Node} {source target : Node} (entry : Entry)

omit [DecidableEq Entry] in
theorem stream_of_quiescent (hquiescent : cluster.Quiescent ids) (hsource : source ∈ ids)
    (htarget : target ∈ ids) : cluster.stream source target = [] := by
  simp [Cluster.stream, (hquiescent target htarget).2.1, (hquiescent source hsource).1,
    (hquiescent source hsource).2.2 target htarget]

theorem Calm.has_origin (hsound : reading.Sound protocol) (hreach : Calm protocol reading cluster)
    (hquiescent : cluster.Quiescent ids) (hsource : reading.origin entry ∈ ids)
    (htarget : target ∈ ids)
    (hhas : reading.has (cluster.nodes target).table entry = true) :
    reading.has (cluster.nodes (reading.origin entry)).table entry = true := by
  by_cases horigin : reading.origin entry = target
  · rwa [horigin]
  · refine (Calm.views hsound hreach).sound horigin ?_
    rwa [stream_of_quiescent hquiescent hsource htarget]

theorem Calm.has_peer (hcomplete : reading.Complete protocol)
    (hreach : Calm protocol reading cluster) (hquiescent : cluster.Quiescent ids)
    (hsource : reading.origin entry ∈ ids) (htarget : target ∈ ids)
    (hpeer : target ∈ (cluster.nodes (reading.origin entry)).knows)
    (hhas : reading.has (cluster.nodes (reading.origin entry)).table entry = true) :
    reading.has (cluster.nodes target).table entry = true := by
  have hsettled := Calm.told hcomplete hreach _ _ hpeer hhas
  rwa [stream_of_quiescent hquiescent hsource htarget] at hsettled

end Reading

end Invariant

end Gossip
