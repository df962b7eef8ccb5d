import LapinBeam.Py.Discovery
import Mathlib.Data.Finset.Card

/-!
# A join finds what there is to find

`join_via_seeds` is a search by levels in the graph of who answers with whom. Ids are marked before
they are tried, so each is tried once, and what a pass leaves behind is closed under the answers up
to the next frontier (`Exploring`). An exception other than the two that are caught ends the search,
whoever caused it; so it is exact if and only if no peer it gets to causes one.
-/

namespace LapinBeam.Discovery

variable {Id : Type}

namespace Network

def Answers (network : Network Id) (peer : Id) (peers : List Id) : Prop :=
  ∃ reply, network.contact peer = .ok reply ∧ reply.peers = .ok peers

def Unreachable (network : Network Id) (peer : Id) : Prop :=
  ∃ failure, network.contact peer = .error failure ∧ failure.caught = true

def Aborts (network : Network Id) (peer : Id) (failure : Failure) : Prop :=
  (network.contact peer = .error failure ∧ failure.caught = false) ∨
    ∃ reply, network.contact peer = .ok reply ∧ reply.peers = .error failure

/-- The ids that come up in a join, itself apart: the seeds, and what answering peers reply. -/
inductive Discovered (network : Network Id) (localId : Id) (seeds : List Id) : Id → Prop
  | seed {peer} (hseed : peer ∈ seeds) (hother : peer ≠ localId) :
      Discovered network localId seeds peer
  | told {peer candidate peers} (hpeer : Discovered network localId seeds peer)
      (hanswers : network.Answers peer peers) (hmem : candidate ∈ peers)
      (hother : candidate ≠ localId) : Discovered network localId seeds candidate

variable {network : Network Id} {peer : Id}

theorem Discovered.ne {localId : Id} {seeds : List Id}
    (hdiscovered : network.Discovered localId seeds peer) : peer ≠ localId := by
  cases hdiscovered with
  | seed _ hother => exact hother
  | told _ _ _ hother => exact hother

theorem Answers.unique {peers others : List Id} (hanswers : network.Answers peer peers)
    (hothers : network.Answers peer others) : peers = others := by
  obtain ⟨reply, hcontact, hpeers⟩ := hanswers
  obtain ⟨other, hcontact', hothers⟩ := hothers
  cases hcontact.symm.trans hcontact'
  exact Except.ok.inj (hpeers.symm.trans hothers)

theorem Answers.not_aborts {peers : List Id} {failure : Failure}
    (hanswers : network.Answers peer peers) : ¬ network.Aborts peer failure := by
  obtain ⟨reply, hcontact, hpeers⟩ := hanswers
  rintro (⟨herror, -⟩ | ⟨other, hcontact', hfailure⟩)
  · cases hcontact.symm.trans herror
  · cases hcontact.symm.trans hcontact'
    cases hpeers.symm.trans hfailure

theorem Unreachable.not_answers {peers : List Id} (hunreachable : network.Unreachable peer) :
    ¬ network.Answers peer peers := by
  rintro ⟨reply, hcontact, -⟩
  obtain ⟨failure, herror, -⟩ := hunreachable
  cases hcontact.symm.trans herror

theorem Unreachable.not_aborts {failure : Failure} (hunreachable : network.Unreachable peer) :
    ¬ network.Aborts peer failure := by
  obtain ⟨other, herror, hcaught⟩ := hunreachable
  rintro (⟨herror', huncaught⟩ | ⟨reply, hcontact, -⟩)
  · cases herror.symm.trans herror'
    cases hcaught.symm.trans huncaught
  · cases herror.symm.trans hcontact

variable [DecidableEq Id]

inductive Visit (network : Network Id) (pass : Pass Id) (peer : Id) :
    Except Failure (Pass Id) → Prop
  | known (hvisited : peer ∈ pass.search.visited) : Visit network pass peer (.ok pass)
  | aborted {failure} (hnew : peer ∉ pass.search.visited) (haborts : network.Aborts peer failure) :
      Visit network pass peer (.error failure)
  | skipped (hnew : peer ∉ pass.search.visited) (hunreachable : network.Unreachable peer) :
      Visit network pass peer (.ok { pass with search := pass.search.mark peer })
  | answered {peers} (hnew : peer ∉ pass.search.visited) (hanswers : network.Answers peer peers) :
      Visit network pass peer (.ok
        ⟨{ pass.search.mark peer with connected := insert peer pass.search.connected },
          pass.next ++ peers.filter fun candidate => candidate ∉ (pass.search.mark peer).visited⟩)

theorem visit_spec (network : Network Id) (pass : Pass Id) (peer : Id) :
    Visit network pass peer (network.visit pass peer) := by
  fun_cases Network.visit network pass peer with
  | case1 hvisited => exact .known hvisited
  | case2 hnew search failure hcontact hcaught => exact .skipped hnew ⟨failure, hcontact, hcaught⟩
  | case3 hnew failure hcontact huncaught =>
      exact .aborted hnew (.inl ⟨hcontact, Bool.eq_false_iff.mpr huncaught⟩)
  | case4 hnew reply hcontact failure hpeers =>
      exact .aborted hnew (.inr ⟨reply, hcontact, hpeers⟩)
  | case5 hnew search reply hcontact peers hpeers => exact .answered hnew ⟨reply, hcontact, hpeers⟩

end Network

section Search

variable [DecidableEq Id] {network : Network Id} {localId : Id} {seeds : List Id} {fuel : Nat}

structure Exploring (network : Network Id) (localId : Id) (seeds : List Id) (search : Search Id)
    (pending : List Id) : Prop where
  self : localId ∈ search.visited
  once : search.contacted.Nodup
  contacted : ∀ peer, peer ∈ search.contacted ↔ peer ∈ search.visited ∧ peer ≠ localId
  connected : ∀ peer, peer ∈ search.connected ↔
    peer ∈ search.contacted ∧ ∃ peers, network.Answers peer peers
  harmless : ∀ peer ∈ search.contacted, ∀ failure, ¬ network.Aborts peer failure
  discovered : ∀ peer, peer ∈ search.visited ∨ peer ∈ pending → peer ≠ localId →
    network.Discovered localId seeds peer
  seeded : ∀ peer ∈ seeds, peer ∈ search.visited ∨ peer ∈ pending
  closed : ∀ peer ∈ search.connected, ∀ peers, network.Answers peer peers →
    ∀ candidate ∈ peers, candidate ∈ search.visited ∨ candidate ∈ pending

theorem Exploring.start (network : Network Id) (localId : Id) (seeds : List Id) :
    Exploring network localId seeds ⟨∅, {localId}, []⟩ (seeds.filter (· ≠ localId)) where
  self := Finset.mem_singleton_self _
  once := List.nodup_nil
  contacted peer := by simp
  connected peer := by simp
  harmless peer hmem := by cases hmem
  discovered := by
    intro peer hpeer hother
    rcases hpeer with hself | hseed
    · exact absurd (Finset.mem_singleton.mp hself) hother
    · exact .seed (List.mem_filter.mp hseed).1 hother
  seeded peer hseed := by
    by_cases hself : peer = localId
    · exact .inl (Finset.mem_singleton.mpr hself)
    · exact .inr (List.mem_filter.mpr ⟨hseed, decide_eq_true hself⟩)
  closed peer hmem := by simp at hmem

variable {search : Search Id} {pass later : Pass Id} {peer : Id} {rest frontier : List Id}

theorem Exploring.mark (hexploring : Exploring network localId seeds search (peer :: rest))
    (hnew : peer ∉ search.visited) (hharmless : ∀ failure, ¬ network.Aborts peer failure)
    {connected : Finset Id} {extra : List Id}
    (hconnected : ∀ id, id ∈ connected ↔
      id ∈ search.connected ∨ (id = peer ∧ ∃ peers, network.Answers peer peers))
    (hextra : ∀ id ∈ extra, id ≠ localId → network.Discovered localId seeds id)
    (hcovered : ∀ peers, network.Answers peer peers →
      ∀ id ∈ peers, id ∈ (search.mark peer).visited ∨ id ∈ extra) :
    Exploring network localId seeds { search.mark peer with connected } (rest ++ extra) := by
  have hother : peer ≠ localId := fun hself => hnew (hself ▸ hexploring.self)
  have hcontacted : ∀ id, id ∈ (search.mark peer).contacted ↔ id ∈ search.contacted ∨ id = peer :=
    fun id => by simp [Search.mark]
  have hvisited : ∀ id, id ∈ (search.mark peer).visited ↔ id = peer ∨ id ∈ search.visited :=
    fun id => by simp [Search.mark]
  have hplace : ∀ id, id ∈ search.visited ∨ id ∈ peer :: rest →
      id ∈ (search.mark peer).visited ∨ id ∈ rest ++ extra := by
    rintro id (hold | hpending)
    · exact .inl ((hvisited id).mpr (.inr hold))
    · rcases List.mem_cons.mp hpending with rfl | hrest
      · exact .inl ((hvisited _).mpr (.inl rfl))
      · exact .inr (List.mem_append_left _ hrest)
  constructor
  · exact (hvisited localId).mpr (.inr hexploring.self)
  · refine List.Nodup.append hexploring.once (List.nodup_singleton _) ?_
    rintro id hold hsame
    obtain rfl := List.mem_singleton.mp hsame
    exact hnew ((hexploring.contacted id).mp hold).1
  · intro id
    rw [hcontacted, hvisited, hexploring.contacted]
    constructor
    · rintro (⟨hold, hne⟩ | rfl)
      · exact ⟨.inr hold, hne⟩
      · exact ⟨.inl rfl, hother⟩
    · rintro ⟨rfl | hold, hne⟩
      · exact .inr rfl
      · exact .inl ⟨hold, hne⟩
  · intro id
    rw [hconnected, hcontacted, hexploring.connected]
    constructor
    · rintro (⟨hold, hanswers⟩ | ⟨rfl, hanswers⟩)
      · exact ⟨.inl hold, hanswers⟩
      · exact ⟨.inr rfl, hanswers⟩
    · rintro ⟨hold | rfl, hanswers⟩
      · exact .inl ⟨hold, hanswers⟩
      · exact .inr ⟨rfl, hanswers⟩
  · intro id hid
    rcases (hcontacted id).mp hid with hold | rfl
    · exact hexploring.harmless id hold
    · exact hharmless
  · intro id hid hne
    rcases hid with hmarked | hpending
    · rcases (hvisited id).mp hmarked with rfl | hold
      · exact hexploring.discovered id (.inr List.mem_cons_self) hne
      · exact hexploring.discovered id (.inl hold) hne
    · rcases List.mem_append.mp hpending with hrest | hmem
      · exact hexploring.discovered id (.inr (List.mem_cons_of_mem _ hrest)) hne
      · exact hextra id hmem hne
  · exact fun id hseed => hplace id (hexploring.seeded id hseed)
  · intro id hid peers hanswers candidate hmem
    rcases (hconnected id).mp hid with hold | ⟨rfl, -⟩
    · exact hplace candidate (hexploring.closed id hold peers hanswers candidate hmem)
    · exact (hcovered peers hanswers candidate hmem).imp_right (List.mem_append_right _)

omit [DecidableEq Id] in
theorem Exploring.known (hexploring : Exploring network localId seeds search (peer :: rest))
    (hvisited : peer ∈ search.visited) : Exploring network localId seeds search rest := by
  have hplace : ∀ id, id ∈ search.visited ∨ id ∈ peer :: rest → id ∈ search.visited ∨ id ∈ rest := by
    rintro id (hold | hpending)
    · exact .inl hold
    · rcases List.mem_cons.mp hpending with rfl | hrest
      · exact .inl hvisited
      · exact .inr hrest
  exact { hexploring with
    discovered := fun id hid =>
      hexploring.discovered id (hid.imp_right (List.mem_cons_of_mem _))
    seeded := fun id hseed => hplace id (hexploring.seeded id hseed)
    closed := fun id hid peers hanswers candidate hmem =>
      hplace candidate (hexploring.closed id hid peers hanswers candidate hmem) }

theorem Exploring.visit
    (hexploring : Exploring network localId seeds pass.search (peer :: rest ++ pass.next))
    (hvisit : network.visit pass peer = .ok later) :
    Exploring network localId seeds later.search (rest ++ later.next) := by
  have hspec := network.visit_spec pass peer
  rw [hvisit] at hspec
  cases hspec with
  | known hvisited => exact hexploring.known hvisited
  | skipped hnew hunreachable =>
      rw [← List.append_nil (rest ++ pass.next)]
      refine hexploring.mark hnew (fun _ => hunreachable.not_aborts) (fun id => ?_)
        (fun id hmem => by cases hmem) (fun peers hanswers => absurd hanswers hunreachable.not_answers)
      refine ⟨.inl, fun hid => hid.elim (fun hold => hold) fun hself => ?_⟩
      obtain ⟨-, peers, hanswers⟩ := hself
      exact absurd hanswers hunreachable.not_answers
  | @answered peers hnew hanswers =>
      have hother : peer ≠ localId := fun hself => hnew (hself ▸ hexploring.self)
      have hpeer := hexploring.discovered peer (.inr List.mem_cons_self) hother
      rw [← List.append_assoc]
      refine hexploring.mark hnew (fun _ => hanswers.not_aborts) (fun id => ?_)
        (fun id hmem => .told hpeer hanswers (List.mem_filter.mp hmem).1) ?_
      · rw [Finset.mem_insert, or_comm]
        exact or_congr_right ⟨fun hself => ⟨hself, peers, hanswers⟩, And.left⟩
      · intro others hothers id hmem
        cases hanswers.unique hothers
        by_cases hmarked : id ∈ (pass.search.mark peer).visited
        · exact .inl hmarked
        · exact .inr (List.mem_filter.mpr ⟨hmem, decide_eq_true hmarked⟩)

theorem Exploring.next (hexploring : Exploring network localId seeds pass.search
      (frontier ++ pass.next)) (hpass : frontier.foldlM network.visit pass = .ok later) :
    Exploring network localId seeds later.search later.next := by
  induction frontier generalizing pass with
  | nil =>
      cases hpass
      exact hexploring
  | cons peer rest ih =>
      rw [List.foldlM_cons] at hpass
      cases hvisit : network.visit pass peer with
      | error failure => simp [hvisit, bind, Except.bind] at hpass
      | ok middle =>
          rw [hvisit] at hpass
          exact ih (hexploring.visit hvisit) hpass

theorem Exploring.abort (hexploring : Exploring network localId seeds pass.search
      (frontier ++ pass.next)) {failure : Failure}
    (hpass : frontier.foldlM network.visit pass = .error failure) :
    ∃ peer, network.Discovered localId seeds peer ∧ network.Aborts peer failure := by
  induction frontier generalizing pass with
  | nil => cases hpass
  | cons peer rest ih =>
      rw [List.foldlM_cons] at hpass
      cases hvisit : network.visit pass peer with
      | error other =>
          rw [hvisit] at hpass
          obtain rfl : other = failure := Except.error.inj hpass
          have hspec := network.visit_spec pass peer
          rw [hvisit] at hspec
          cases hspec with
          | aborted hnew haborts =>
              refine ⟨peer, hexploring.discovered peer (.inr List.mem_cons_self) ?_, haborts⟩
              exact fun hself => hnew (hself ▸ hexploring.self)
      | ok middle =>
          rw [hvisit] at hpass
          exact ih (hexploring.visit hvisit) hpass

theorem visited_of_pass (hpass : frontier.foldlM network.visit pass = .ok later) :
    (∀ peer ∈ frontier, peer ∈ later.search.visited) ∧
      (later = pass ∨ pass.search.visited ⊂ later.search.visited) := by
  induction frontier generalizing pass with
  | nil =>
      cases hpass
      exact ⟨fun peer hmem => (by cases hmem), .inl rfl⟩
  | cons peer rest ih =>
      rw [List.foldlM_cons] at hpass
      cases hvisit : network.visit pass peer with
      | error failure => simp [hvisit, bind, Except.bind] at hpass
      | ok middle =>
          rw [hvisit] at hpass
          obtain ⟨hrest, hgrown⟩ := ih hpass
          have hsub : middle.search.visited ⊆ later.search.visited := by
            rcases hgrown with rfl | hsub
            · exact Finset.Subset.refl _
            · exact hsub.subset
          have hmiddle : peer ∈ middle.search.visited ∧
              (middle = pass ∨ pass.search.visited ⊂ middle.search.visited) := by
            have hspec := network.visit_spec pass peer
            rw [hvisit] at hspec
            cases hspec with
            | known hvisited => exact ⟨hvisited, .inl rfl⟩
            | skipped hnew | answered hnew =>
                exact ⟨Finset.mem_insert_self _ _, .inr (Finset.ssubset_insert hnew)⟩
          refine ⟨fun id hmem => ?_, ?_⟩
          · rcases List.mem_cons.mp hmem with rfl | hmem
            · exact hsub hmiddle.1
            · exact hrest id hmem
          · rcases hmiddle.2 with rfl | hstrict
            · exact hgrown
            · exact .inr (hstrict.trans_subset hsub)

theorem Exploring.loop {final : Search Id}
    (hexploring : Exploring network localId seeds search frontier)
    (hloop : network.loop fuel search frontier = some (.ok final)) :
    Exploring network localId seeds final [] := by
  fun_induction Network.loop network fuel search frontier with
  | case1 => cases hloop
  | case2 =>
      cases hloop
      exact hexploring
  | case3 => cases hloop
  | case4 fuel search frontier _ later hpass ih =>
      refine ih (Exploring.next ?_ hpass) hloop
      rwa [List.append_nil]

theorem Exploring.loop_abort {failure : Failure}
    (hexploring : Exploring network localId seeds search frontier)
    (hloop : network.loop fuel search frontier = some (.error failure)) :
    ∃ peer, network.Discovered localId seeds peer ∧ network.Aborts peer failure := by
  fun_induction Network.loop network fuel search frontier with
  | case1 => cases hloop
  | case2 => cases hloop
  | case3 fuel search frontier _ other hpass =>
      cases hloop
      refine Exploring.abort ?_ hpass
      rwa [List.append_nil]
  | case4 fuel search frontier _ later hpass ih =>
      refine ih (Exploring.next ?_ hpass) hloop
      rwa [List.append_nil]

theorem Exploring.card_visited_le {bound : Finset Id}
    (hbound : ∀ peer, network.Discovered localId seeds peer → peer ∈ bound)
    (hexploring : Exploring network localId seeds search frontier) :
    search.visited.card ≤ bound.card + 1 := by
  refine (Finset.card_le_card fun peer hvisited => ?_).trans (Finset.card_insert_le localId bound)
  by_cases hself : peer = localId
  · exact Finset.mem_insert.mpr (.inl hself)
  · exact Finset.mem_insert_of_mem (hbound peer (hexploring.discovered peer (.inl hvisited) hself))

theorem Exploring.returns {bound : Finset Id}
    (hbound : ∀ peer, network.Discovered localId seeds peer → peer ∈ bound)
    (hharmless : ∀ peer, network.Discovered localId seeds peer →
      ∀ failure, ¬ network.Aborts peer failure)
    (hexploring : Exploring network localId seeds search frontier)
    (hfuel : bound.card + 3 ≤ fuel + search.visited.card) :
    ∃ final, network.loop fuel search frontier = some (.ok final) := by
  induction fuel generalizing search frontier with
  | zero =>
      have hcard := hexploring.card_visited_le hbound
      omega
  | succ fuel ih =>
      cases frontier with
      | nil => exact ⟨search, rfl⟩
      | cons first rest =>
          have hexploring' : Exploring network localId seeds search (first :: rest ++ []) := by
            rwa [List.append_nil]
          cases hpass : (first :: rest).foldlM network.visit ⟨search, []⟩ with
          | error failure =>
              obtain ⟨peer, hdiscovered, haborts⟩ := Exploring.abort hexploring' hpass
              exact absurd haborts (hharmless peer hdiscovered failure)
          | ok later =>
              simp only [Network.loop, hpass]
              rcases (visited_of_pass hpass).2 with rfl | hgrown
              · have hcard := hexploring.card_visited_le hbound
                obtain ⟨less, rfl⟩ : ∃ less, fuel = less + 1 := ⟨fuel - 1, by omega⟩
                exact ⟨search, rfl⟩
              · have hmore : search.visited.card < later.search.visited.card :=
                  Finset.card_lt_card hgrown
                exact ih (Exploring.next hexploring' hpass) (by omega)

theorem loop_mono {result : Except Failure (Search Id)}
    (hloop : network.loop fuel search frontier = some result) (more : Nat) :
    network.loop (fuel + more) search frontier = some result := by
  fun_induction Network.loop network fuel search frontier with
  | case1 => cases hloop
  | case2 => rw [Nat.succ_add, Network.loop, hloop]
  | case3 fuel search frontier hne failure hpass =>
      rw [Nat.succ_add]
      simp only [Network.loop, hpass, hloop]
  | case4 fuel search frontier hne later hpass ih =>
      rw [Nat.succ_add]
      simp only [Network.loop, hpass, ih hloop]

omit [DecidableEq Id] in
theorem Exploring.complete (hexploring : Exploring network localId seeds search []) {peer : Id}
    (hdiscovered : network.Discovered localId seeds peer) : peer ∈ search.contacted := by
  induction hdiscovered with
  | seed hseed hother =>
      rcases hexploring.seeded _ hseed with hvisited | hpending
      · exact (hexploring.contacted _).mpr ⟨hvisited, hother⟩
      · cases hpending
  | told _ hanswers hmem hother ih =>
      have hconnected := (hexploring.connected _).mpr ⟨ih, _, hanswers⟩
      rcases hexploring.closed _ hconnected _ hanswers _ hmem with hvisited | hpending
      · exact (hexploring.contacted _).mpr ⟨hvisited, hother⟩
      · cases hpending

structure Search.Exact (network : Network Id) (localId : Id) (seeds : List Id) (search : Search Id) :
    Prop where
  once : search.contacted.Nodup
  contacted : ∀ peer, peer ∈ search.contacted ↔ network.Discovered localId seeds peer
  connected : ∀ peer, peer ∈ search.connected ↔
    network.Discovered localId seeds peer ∧ ∃ peers, network.Answers peer peers

omit [DecidableEq Id] in
theorem Exploring.exact (hexploring : Exploring network localId seeds search []) :
    search.Exact network localId seeds := by
  have hcontacted : ∀ peer, peer ∈ search.contacted ↔ network.Discovered localId seeds peer := by
    refine fun peer => ⟨fun hmem => ?_, hexploring.complete⟩
    obtain ⟨hvisited, hother⟩ := (hexploring.contacted peer).mp hmem
    exact hexploring.discovered peer (.inl hvisited) hother
  refine ⟨hexploring.once, hcontacted, fun peer => ?_⟩
  rw [hexploring.connected, hcontacted]

theorem Network.Discovered.mem {ids : Finset Id}
    (hdrawn : ∀ peer peers, network.Answers peer peers → ∀ candidate ∈ peers, candidate ∈ ids)
    {peer : Id} (hdiscovered : network.Discovered localId seeds peer) :
    peer ∈ seeds.toFinset ∪ ids := by
  cases hdiscovered with
  | seed hseed => exact Finset.mem_union_left _ (List.mem_toFinset.mpr hseed)
  | told _ hanswers hmem => exact Finset.mem_union_right _ (hdrawn _ _ hanswers _ hmem)

theorem joinViaSeeds_returns {ids : Finset Id}
    (hdrawn : ∀ peer peers, network.Answers peer peers → ∀ candidate ∈ peers, candidate ∈ ids)
    (hharmless : ∀ peer, network.Discovered localId seeds peer →
      ∀ failure, ¬ network.Aborts peer failure) (hfuel : (seeds.toFinset ∪ ids).card + 2 ≤ fuel) :
    ∃ final, network.joinViaSeeds localId fuel seeds = some (.ok final) := by
  refine Exploring.returns (fun peer => Network.Discovered.mem hdrawn) hharmless (.start _ _ _) ?_
  rw [Finset.card_singleton]
  omega

/-- If every peer cannot be reached or answers, with ids of a finite set, the join returns, tries each id at most once and never its own, and finds exactly the peers that can be discovered. -/
theorem joinViaSeeds_exact (network : Network Id) (localId : Id) (seeds : List Id) (ids : Finset Id)
    (houtcome : ∀ peer, network.Unreachable peer ∨
      ∃ peers, network.Answers peer peers ∧ ∀ candidate ∈ peers, candidate ∈ ids) :
    ∃ final,
      (∀ fuel, (seeds.toFinset ∪ ids).card + 2 ≤ fuel →
        network.joinViaSeeds localId fuel seeds = some (.ok final)) ∧
      final.contacted.Nodup ∧ localId ∉ final.contacted ∧
      ∀ peer, peer ∈ final.connected ↔
        network.Discovered localId seeds peer ∧ ∃ peers, network.Answers peer peers := by
  have hdrawn : ∀ peer peers, network.Answers peer peers →
      ∀ candidate ∈ peers, candidate ∈ ids := by
    intro peer peers hanswers
    rcases houtcome peer with hunreachable | ⟨others, hothers, hids⟩
    · exact absurd hanswers hunreachable.not_answers
    · exact hanswers.unique hothers ▸ hids
  have hharmless : ∀ peer, network.Discovered localId seeds peer →
      ∀ failure, ¬ network.Aborts peer failure := by
    intro peer _ failure
    rcases houtcome peer with hunreachable | ⟨peers, hanswers, -⟩
    · exact hunreachable.not_aborts
    · exact hanswers.not_aborts
  obtain ⟨final, hfinal⟩ := joinViaSeeds_returns hdrawn hharmless le_rfl
  have hexact := (Exploring.loop (.start _ _ _) hfinal).exact
  refine ⟨final, fun fuel hfuel => ?_, hexact.once, ?_, hexact.connected⟩
  · obtain ⟨more, rfl⟩ := Nat.exists_eq_add_of_le hfuel
    exact loop_mono hfinal more
  · exact fun hself => ((hexact.contacted localId).mp hself).ne rfl

end Search

namespace Fixed

def answering (peers : List String) : Contact := { reply := some ⟨.ok peers⟩ }

def cycle (peer : String) : Contact :=
  if peer = "a@h:1" then answering ["b@h:2", "me@h:0", "a@h:1"]
  else if peer = "b@h:2" then answering ["a@h:1", "c@h:3"]
  else { connects := false }

theorem answers_answering {contacts : String → Contact} {peer : String} {peers : List String}
    (hcontact : contacts peer = answering peers) : (network contacts).Answers peer peers := by
  refine ⟨⟨.ok peers⟩, ?_, rfl⟩
  show ((contacts peer).connectPeer peer >>= fun _ => (contacts peer).ask) = _
  rw [hcontact]
  rfl

end Fixed

theorem joinViaSeeds_exact_cycle :
    ∃ final, (network Fixed.cycle).joinViaSeeds "me@h:0" 6 ["a@h:1", "a@h:1"] = some (.ok final) ∧
      final.contacted.Nodup ∧ "me@h:0" ∉ final.contacted ∧ "b@h:2" ∈ final.connected := by
  have houtcome : ∀ peer, (network Fixed.cycle).Unreachable peer ∨
      ∃ peers, (network Fixed.cycle).Answers peer peers ∧
        ∀ candidate ∈ peers, candidate ∈ ["a@h:1", "b@h:2", "c@h:3", "me@h:0"].toFinset := by
    intro peer
    by_cases ha : peer = "a@h:1"
    · exact .inr ⟨_, Fixed.answers_answering (if_pos ha), by decide⟩
    by_cases hb : peer = "b@h:2"
    · refine .inr ⟨["a@h:1", "c@h:3"], Fixed.answers_answering ?_, by decide⟩
      rw [Fixed.cycle, if_neg ha, if_pos hb]
    · refine .inl ⟨.connectionError ("failed to connect to peer '" ++ peer ++ "'"), ?_, rfl⟩
      show ((Fixed.cycle peer).connectPeer peer >>= fun _ => (Fixed.cycle peer).ask) = _
      rw [Fixed.cycle, if_neg ha, if_neg hb]
      rfl
  obtain ⟨final, hfinal, honce, hself, hconnected⟩ := joinViaSeeds_exact (network Fixed.cycle)
    "me@h:0" ["a@h:1", "a@h:1"] ["a@h:1", "b@h:2", "c@h:3", "me@h:0"].toFinset houtcome
  refine ⟨final, hfinal 6 (by decide), honce, hself, (hconnected "b@h:2").mpr ⟨?_, ?_⟩⟩
  · have hseed : (network Fixed.cycle).Discovered "me@h:0" ["a@h:1", "a@h:1"] "a@h:1" :=
      .seed (by decide) (by decide)
    exact .told hseed (Fixed.answers_answering rfl) (by decide) (by decide)
  · exact ⟨_, Fixed.answers_answering rfl⟩

section Abort

variable [DecidableEq Id] {network : Network Id} {localId : Id} {seeds : List Id}
  {search : Search Id} {frontier : List Id}

/-- The join raises nothing, and what it returns leaves out nobody it should have. -/
structure Tolerant (network : Network Id) (localId : Id) (seeds : List Id) : Prop where
  quiet : ∀ fuel failure, network.joinViaSeeds localId fuel seeds ≠ some (.error failure)
  exact : ∀ fuel final, network.joinViaSeeds localId fuel seeds = some (.ok final) →
    final.Exact network localId seeds
  returns : ∀ ids : Finset Id,
    (∀ peer peers, network.Answers peer peers → ∀ candidate ∈ peers, candidate ∈ ids) →
    ∀ fuel, (seeds.toFinset ∪ ids).card + 2 ≤ fuel →
      ∃ final, network.joinViaSeeds localId fuel seeds = some (.ok final)

def Calm (network : Network Id) (search : Search Id) (frontier : List Id) : Prop :=
  ∀ fuel failure, network.loop fuel search frontier ≠ some (.error failure)

theorem Calm.next (hcalm : Calm network search frontier) :
    ∃ later, frontier.foldlM network.visit ⟨search, []⟩ = .ok later ∧
      Calm network later.search later.next := by
  cases frontier with
  | nil => exact ⟨⟨search, []⟩, rfl, hcalm⟩
  | cons first rest =>
      cases hpass : (first :: rest).foldlM network.visit ⟨search, []⟩ with
      | error failure =>
          refine absurd ?_ (hcalm 1 failure)
          simp only [Network.loop, hpass]
      | ok later =>
          refine ⟨later, rfl, fun fuel failure hloop => hcalm (fuel + 1) failure ?_⟩
          simp only [Network.loop, hpass, hloop]

theorem Calm.exists_contacted (hcalm : Calm network ⟨∅, {localId}, []⟩ (seeds.filter (· ≠ localId)))
    {peer : Id} (hdiscovered : network.Discovered localId seeds peer) :
    ∃ search frontier, Exploring network localId seeds search frontier ∧
      Calm network search frontier ∧ peer ∈ search.contacted := by
  -- One more pass tries what is pending.
  have hpass : ∀ {search frontier} {id : Id}, Exploring network localId seeds search frontier →
      Calm network search frontier → id ∈ search.visited ∨ id ∈ frontier → id ≠ localId →
      ∃ search frontier, Exploring network localId seeds search frontier ∧
        Calm network search frontier ∧ id ∈ search.contacted := by
    intro search frontier id hexploring hcalm hplace hother
    rcases hplace with hvisited | hpending
    · exact ⟨search, frontier, hexploring, hcalm, (hexploring.contacted id).mpr ⟨hvisited, hother⟩⟩
    · obtain ⟨later, hlater, hcalm'⟩ := hcalm.next
      have hexploring' : Exploring network localId seeds later.search later.next :=
        Exploring.next (by rwa [List.append_nil]) hlater
      exact ⟨later.search, later.next, hexploring', hcalm', (hexploring'.contacted id).mpr
        ⟨(visited_of_pass hlater).1 id hpending, hother⟩⟩
  induction hdiscovered with
  | seed hseed hother =>
      have hstart := Exploring.start network localId seeds
      exact hpass hstart hcalm (hstart.seeded _ hseed) hother
  | told _ hanswers hmem hother ih =>
      obtain ⟨search, frontier, hexploring, hcalm', hcontacted⟩ := ih
      have hconnected := (hexploring.connected _).mpr ⟨hcontacted, _, hanswers⟩
      exact hpass hexploring hcalm' (hexploring.closed _ hconnected _ hanswers _ hmem) hother

theorem tolerant_iff_harmless : Tolerant network localId seeds ↔
    ∀ peer, network.Discovered localId seeds peer → ∀ failure, ¬ network.Aborts peer failure := by
  constructor
  · intro htolerant peer hdiscovered
    obtain ⟨search, frontier, hexploring, -, hcontacted⟩ :=
      Calm.exists_contacted htolerant.quiet hdiscovered
    exact hexploring.harmless peer hcontacted
  · intro hharmless
    refine ⟨fun fuel failure hraised => ?_, fun fuel final hfinal => ?_,
      fun ids hdrawn fuel hfuel => joinViaSeeds_returns hdrawn hharmless hfuel⟩
    · obtain ⟨peer, hdiscovered, haborts⟩ := Exploring.loop_abort (.start _ _ _) hraised
      exact hharmless peer hdiscovered failure haborts
    · exact (Exploring.loop (.start _ _ _) hfinal).exact

end Abort

/-- The id parses; and if the peer is connected to, the send does not fail, and a reply has a list of peers. -/
def Contact.orderly (contact : Contact) : Bool :=
  contact.parseError.isNone && (!contact.connects || (contact.sendError.isNone &&
    match contact.reply with
    | none => true
    | some reply => reply.peers.isOk))

theorem orderly_iff {contacts : String → Contact} {peer : String} :
    (contacts peer).orderly = true ↔ ∀ failure, ¬ (network contacts).Aborts peer failure := by
  have hspec : (network contacts).contact peer =
      (contacts peer).connectPeer peer >>= fun _ => (contacts peer).ask := rfl
  simp only [Network.Aborts, hspec]
  generalize contacts peer = contact
  obtain ⟨parseError, connects, sendError, reply⟩ := contact
  cases parseError with
  | some text => simp [Contact.orderly, Contact.connectPeer, bind, Except.bind, Failure.caught]
  | none =>
      cases connects with
      | false => simp [Contact.orderly, Contact.connectPeer, bind, Except.bind, Failure.caught]
      | true =>
          cases sendError with
          | some text =>
              simp [Contact.orderly, Contact.connectPeer, Contact.ask, Contact.sendData, bind,
                Except.bind, Failure.caught]
          | none =>
              rcases reply with _ | ⟨_ | _⟩ <;>
                simp [Contact.orderly, Contact.connectPeer, Contact.ask, Contact.sendData, bind,
                  Except.bind, Failure.caught, Except.isOk, Except.toBool]

/-- Bad peers do not abort a join if and only if no id that comes up in it fails to parse, belongs to a peer that is gone again when it is asked, or replies with something else than peers. -/
theorem tolerant_iff (contacts : String → Contact) (localId : String) (seeds : List String) :
    Tolerant (network contacts) localId seeds ↔
      ∀ peer, (network contacts).Discovered localId seeds peer →
        (contacts peer).orderly = true := by
  rw [tolerant_iff_harmless]
  exact forall₂_congr fun peer _ => orderly_iff.symm

namespace Fixed

/-- A seed that reports two peers; what becomes of an attempt to reach the first one is open. -/
def reporting (bad : Contact) (peer : String) : Contact :=
  if peer = "a@h:1" then answering ["bad", "b@h:2"]
  else if peer = "bad" then bad
  else answering []

end Fixed

/-- An id that does not parse, or a peer that is gone again when it is asked, ends the join, and the peer after it is never contacted. -/
theorem join_aborted :
    (network (Fixed.reporting { parseError := some "expected 'name@host:port'" })).joinViaSeeds
        "me@h:0" 3 ["a@h:1"] =
      some (.error (.valueError "invalid peer id: expected 'name@host:port'")) ∧
    (network (Fixed.reporting { sendError := some "peer not connected" })).joinViaSeeds
        "me@h:0" 3 ["a@h:1"] = some (.error (.valueError "send failed: peer not connected")) ∧
    ∀ bad, (network (Fixed.reporting bad)).Discovered "me@h:0" ["a@h:1"] "b@h:2" ∧
      (network (Fixed.reporting bad)).Answers "b@h:2" [] := by
  refine ⟨by rfl, by rfl, fun bad => ⟨?_, Fixed.answers_answering rfl⟩⟩
  have hseed : (network (Fixed.reporting bad)).Discovered "me@h:0" ["a@h:1"] "a@h:1" :=
    .seed (by decide) (by decide)
  exact .told hseed (Fixed.answers_answering rfl) (by decide) (by decide)

end LapinBeam.Discovery
