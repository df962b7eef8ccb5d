import LapinBeam.Proof.DialRace

/-!
# The invariant of the race

No step takes back what `Later` lists, so what holds of the tasks that do not run keeps holding,
and each turn is checked only against the task that makes it.
-/

namespace LapinBeam

open TaskSystem

namespace Pair

variable {pair : Pair} {nodes : TwoNodes} {side : Side} {task : Task} {move : Move}
  {conn : ConnectionId}

theorem Fine.conn_cases (hfine : pair.Fine nodes side task) (hconn : task.conn = some conn) :
    conn = side.conn ∨ conn = side.other.conn := by
  cases hfine with
  | dial hown => exact .inl (hown conn hconn)
  | outbound => exact .inl (Option.some.inj hconn).symm
  | answering hid => exact .inr ((Option.some.inj hconn).symm.trans hid)
  | leaving hstage hregistered hdoomed =>
      obtain rfl : _ = conn := Option.some.inj hconn
      rw [hdoomed.1]
      rcases side.eq_or_eq_other nodes.smaller with heq | heq <;> simp [heq]
  | _ => cases hconn

theorem Fine.registering {connection : Connection} {peer : NodeId} {frames : List WireMessage}
    (hfine : pair.Fine nodes side (.readLoop connection (.registering peer frames))) :
    connection.id = side.other.conn ∧ connection.registered = none ∧
      (pair.transport side.other).outbound side.other.conn ≠ [] := by
  cases hfine with
  | answering hid hanswers =>
      obtain ⟨hregistered, hspoke⟩ := hanswers.registering
      exact ⟨hid, hregistered, hid ▸ hspoke⟩
  | outbound hstage | leaving hstage => simp at hstage

theorem Fine.departing {connection : Connection} {stage : ReadLoop}
    (hfine : pair.Fine nodes side (.readLoop connection stage))
    (hstage : stage = .closing ∨ ∃ peer removed, stage = .emitting peer removed) :
    pair.Doomed nodes connection.id := by
  cases hfine with
  | leaving _ _ hdoomed => exact hdoomed
  | outbound hphase => rcases hstage with rfl | ⟨_, _, rfl⟩ <;> simp at hphase
  | answering hid hanswers =>
      rcases hstage with rfl | ⟨_, _, rfl⟩
      · exact absurd rfl hanswers.engaged.1
      · exact absurd rfl (hanswers.engaged.2 _ _)

theorem Race.entry (hrace : pair.Race nodes) (haccounted : Transport.Accounted (pair.node side))
    {handle : PeerHandle}
    (hpeer : (pair.transport side).peers (nodes.ids side.other) = some handle) :
    handle.tx ∈ (pair.transport side).opened ∧
      (pair.Holds nodes side side.conn ∧ handle.tx = side.conn ∨
        pair.Holds nodes side side.other.conn ∧ handle.tx = side.other.conn) := by
  obtain ⟨peerId, tx⟩ := handle
  obtain rfl : peerId = nodes.ids side.other := haccounted.coherent.keyed hpeer
  obtain ⟨position, task, hlookup, hcarried⟩ := haccounted.carried hpeer
  have hmem := List.mem_of_getElem? hlookup
  have hconn := Task.conn_of_carried (haccounted.tasks task hmem) hcarried
  refine ⟨haccounted.opened task hmem _ hconn, ?_⟩
  rcases (hrace.fine side task hmem).conn_cases hconn with rfl | rfl
  · exact .inl ⟨hpeer, rfl⟩
  · exact .inr ⟨hpeer, rfl⟩

structure Later (pair next : Pair) (nodes : TwoNodes) : Prop where
  opened : ∀ side, (pair.transport side).opened ⊆ (next.transport side).opened
  desired : ∀ side, (pair.transport side).desired ⊆ (next.transport side).desired
  spoke : ∀ side conn, (pair.transport side).outbound conn ≠ [] →
    (next.transport side).outbound conn ≠ []
  won : pair.Won nodes → next.Won nodes
  keeps : ∀ side conn, pair.Keeps nodes side conn → next.Keeps nodes side conn

theorem Later.doomed {next : Pair} (hlater : Later pair next nodes)
    (hdoomed : pair.Doomed nodes conn) : next.Doomed nodes conn :=
  ⟨hdoomed.1, hlater.won hdoomed.2⟩

theorem Fine.mono {next : Pair} (hlater : Later pair next nodes)
    (hfine : pair.Fine nodes side task) : next.Fine nodes side task := by
  have hspoke : ∀ {side' conn}, (pair.transport side').outbound conn ≠ [] →
      (next.transport side').outbound conn ≠ [] := hlater.spoke _ _
  cases hfine with
  | accepting => exact .accepting
  | listening => exact .listening
  | heartbeat => exact .heartbeat
  | dial hconn hgreets hkeeps hdesired =>
      exact .dial hconn (hgreets.mono hspoke) (fun h => hlater.keeps _ _ (hkeeps h))
        fun h => hlater.desired side (hdesired h)
  | dialed hcause => exact .dialed (hcause.imp (hlater.desired side ·) (hlater.opened side ·))
  | returned hcause => exact .returned (hcause.imp (hlater.desired side ·) (hlater.opened side ·))
  | outbound hstage hkeeps hsaid => exact .outbound hstage (hlater.keeps _ _ hkeeps) (hspoke hsaid)
  | answering hid hanswers hkeeps =>
      exact .answering hid (hanswers.mono hspoke) fun h => hlater.keeps _ _ (hkeeps h)
  | leaving hstage hregistered hdoomed =>
      exact .leaving hstage hregistered (hlater.doomed hdoomed)

section Later

variable {index : Nat} {taken : ConnectionId → Nat}

theorem Turn.peers_cases (hturn : pair.Turn nodes side task move)
    (hfine : pair.Fine nodes side task) :
    (move.effect.apply (pair.transport side)).peers = (pair.transport side).peers ∨
    (move.effect = .insertPeer ⟨nodes.ids side.other, side.conn⟩ ∧
      (pair.transport side).refuses (nodes.ids side.other) true = false) ∨
    (move.effect = .insertPeer ⟨nodes.ids side.other, side.other.conn⟩ ∧
      (pair.transport side).refuses (nodes.ids side.other) false = false ∧
      (pair.transport side.other).outbound side.other.conn ≠ []) ∨
    ∃ current, move.effect = .removePeer (nodes.ids side.other) current ∧
      (pair.transport side).peers (nodes.ids side.other) = some current ∧
      pair.Doomed nodes current.tx := by
  cases hturn with
  | accept | returned => exact .inl rfl
  | dials hdials =>
      rcases hdials.peers_cases with hsame | ⟨conn, heffect, rfl, hadmits⟩
      · exact .inl hsame
      · cases hfine with
        | dial hconn =>
            obtain rfl := hconn conn rfl
            exact .inr (.inl ⟨heffect, hadmits⟩)
  | reads hreads =>
      rcases hreads.peers_cases with hsame | ⟨heffect, ⟨frames, rfl⟩, hadmits⟩ |
        ⟨current, heffect, rfl, hcurrent, hsame⟩
      · exact .inl hsame
      · obtain ⟨hid, -, hspoke⟩ := hfine.registering
        exact .inr (.inr (.inl ⟨hid ▸ heffect, hadmits, hspoke⟩))
      · exact .inr (.inr (.inr ⟨current, heffect, hcurrent, hsame ▸ hfine.departing (.inl rfl)⟩))

theorem Race.smaller_of_admits (hrace : pair.Race nodes)
    (hadmits : (pair.transport side).refuses (nodes.ids side.other) true = false)
    (hholds : pair.Holds nodes side conn) : nodes.smaller = side := by
  have hpeer : (pair.transport side).hasPeer (nodes.ids side.other) = true := by
    rw [Transport.hasPeer, hholds, Option.isSome_some]
  rw [Transport.refuses, hpeer] at hadmits
  exact (hrace.toUndisturbed.wins_dialed side).mp (by simpa using hadmits)

theorem Race.larger_of_admits (hrace : pair.Race nodes)
    (hadmits : (pair.transport side).refuses (nodes.ids side.other) false = false)
    (hholds : pair.Holds nodes side conn) : nodes.smaller = side.other := by
  have hpeer : (pair.transport side).hasPeer (nodes.ids side.other) = true := by
    rw [Transport.hasPeer, hholds, Option.isSome_some]
  rw [Transport.refuses, hpeer] at hadmits
  exact (hrace.toUndisturbed.wins_accepted side).mp (by simpa using hadmits)

section

variable (hturn : pair.Turn nodes side task move) (hrace : pair.Race nodes)
  (hfine : pair.Fine nodes side task)

include hturn hrace hfine

theorem Turn.won (hwon : pair.Won nodes) : (pair.moved side index move taken).Won nodes := by
  rcases side.eq_or_eq_other nodes.smaller with hsmaller | hsmaller
  · rw [Won, hsmaller] at hwon ⊢
    rw [holds_moved]
    rcases hturn.peers_cases hfine with hpeers | ⟨heffect, -⟩ | ⟨-, hadmits, -⟩ |
      ⟨current, heffect, hcurrent, hdoomed⟩
    · rw [hpeers]
      exact hwon
    · simp [heffect, Effect.apply]
    · have := hrace.larger_of_admits hadmits hwon
      simp [hsmaller] at this
    · -- the entry taken out would be the winner's
      obtain rfl : _ = current := Option.some.inj (hwon.symm.trans hcurrent)
      have := hdoomed.1
      simp [hsmaller] at this
  · rw [Won, hsmaller] at hwon ⊢
    exact holds_moved_other.mpr hwon

theorem Turn.keeps_of_holds (hconn : conn = side.conn ∨ conn = side.other.conn)
    (hholds : pair.Holds nodes side conn) :
    (pair.moved side index move taken).Keeps nodes side conn := by
  rcases hturn.peers_cases hfine with hpeers | ⟨heffect, hadmits⟩ | ⟨heffect, hadmits, hspoke⟩ |
    ⟨current, heffect, hcurrent, hdoomed⟩
  · exact .inl (holds_moved.mpr (by rw [hpeers]; exact hholds))
  · have hnew : (pair.moved side index move taken).Holds nodes side side.conn := by
      simp [holds_moved, heffect, Effect.apply]
    have hsmaller := hrace.smaller_of_admits hadmits hholds
    rcases hconn with rfl | rfl
    · exact .inl hnew
    · exact .inr ⟨by rw [hsmaller], by rw [Won, hsmaller]; exact hnew⟩
  · have hnew : (pair.moved side index move taken).Holds nodes side side.other.conn := by
      simp [holds_moved, heffect, Effect.apply]
    have hsmaller := hrace.larger_of_admits hadmits hholds
    rcases hconn with rfl | rfl
    · exact .inr ⟨by simp [hsmaller],
        hturn.won hrace hfine (hrace.told (by rw [hsmaller]; exact hspoke))⟩
    · exact .inl hnew
  · obtain rfl : _ = current := Option.some.inj (hholds.symm.trans hcurrent)
    exact .inr ⟨hdoomed.1, hturn.won hrace hfine hdoomed.2⟩

theorem Turn.later (haccounted : Transport.Accounted (pair.node side)) :
    Later pair (pair.moved side index move taken) nodes := by
  refine ⟨fun side' => ?_, fun side' => ?_, fun side' conn hspoke => ?_,
    hturn.won hrace hfine, fun side' conn hkeeps => ?_⟩ <;>
    rcases side.eq_or_eq_other side' with rfl | rfl
  · rw [transport_moved]
    exact move.effect.opened_subset _
  · rw [transport_moved_other]
    exact List.Subset.refl _
  · rw [transport_moved]
    cases hturn with
    | dials hdials => cases hdials <;> simp [Effect.apply]
    | reads hreads => rw [hreads.unchanged.2.1]
    | _ => exact subset_rfl
  · rw [transport_moved_other]
  · rw [transport_moved]
    cases hturn with
    | dials hdials =>
        rcases hdials.outbound_cases conn with hsame | ⟨hs, -, -, happend⟩
        · rwa [hsame]
        · simp [happend]
    | reads hreads => rwa [hreads.unchanged.2.2.1]
    | _ => exact hspoke
  · rwa [transport_moved_other]
  · rcases hkeeps with hholds | hdoomed
    · rcases hrace.entry haccounted hholds with ⟨-, ⟨-, heq⟩ | ⟨-, heq⟩⟩
      · exact hturn.keeps_of_holds hrace hfine (.inl heq) hholds
      · exact hturn.keeps_of_holds hrace hfine (.inr heq) hholds
    · exact .inr ⟨hdoomed.1, hturn.won hrace hfine hdoomed.2⟩
  · rcases hkeeps with hholds | hdoomed
    · exact .inl (holds_moved_other.mpr hholds)
    · exact .inr ⟨hdoomed.1, hturn.won hrace hfine hdoomed.2⟩

end

theorem Race.doomed_of_dropped (hrace : pair.Race nodes) (hdropped : pair.Dropped side conn) :
    pair.Doomed nodes conn := by
  rcases hrace.kept side conn hdropped.1 with hdoomed | ⟨task, hmem, hopen⟩
  · exact hdoomed
  · exact absurd hopen (hdropped.2 task hmem)

theorem Race.won_of_refuses (hrace : pair.Race nodes)
    (haccounted : Transport.Accounted (pair.node side)) {weAreDialer : Bool}
    (hrefuses : (pair.transport side).refuses (nodes.ids side.other) weAreDialer = true)
    (hfree : ∀ handle, (pair.transport side).peers (nodes.ids side.other) = some handle →
      handle.tx ≠ if weAreDialer then side.conn else side.other.conn) :
    pair.Doomed nodes (if weAreDialer then side.conn else side.other.conn) := by
  rw [Transport.refuses, Bool.and_eq_true, Transport.hasPeer, Option.isSome_iff_exists,
    Bool.not_eq_true', Bool.eq_false_iff] at hrefuses
  obtain ⟨⟨handle, hpeer⟩, hloses⟩ := hrefuses
  have hentry := (hrace.entry haccounted hpeer).2
  cases weAreDialer with
  | true =>
      rw [Ne, hrace.toUndisturbed.wins_dialed] at hloses
      have hsmaller := (side.eq_or_eq_other nodes.smaller).resolve_left hloses
      rcases hentry with ⟨-, htx⟩ | ⟨hholds, -⟩
      · exact absurd htx (hfree handle hpeer)
      · exact ⟨by simp [hsmaller], hrace.agreed (by simpa [hsmaller] using hholds)⟩
  | false =>
      rw [Ne, hrace.toUndisturbed.wins_accepted] at hloses
      have hsmaller := (side.eq_or_eq_other nodes.smaller).resolve_right hloses
      rcases hentry with ⟨hholds, -⟩ | ⟨-, htx⟩
      · exact ⟨by simp [hsmaller], by simpa [Won, hsmaller] using hholds⟩
      · exact absurd htx (hfree handle hpeer)

theorem Turn.fine_dials {stage : Dial} (hdials : pair.Dials nodes side .connect stage move)
    (hown : ∀ conn, move.effect = .openConnection conn → conn = side.conn)
    (hthrough : move.task ≠ .dialed .connect (nodes.ids side.other) false)
    (hrace : pair.Race nodes) (haccounted : Transport.Accounted (pair.node side))
    (hmem : .dial .connect (nodes.ids side.other) stage ∈ pair.tasks side)
    (hfine : (pair.moved side index move taken).Fine nodes side
      (.dial .connect (nodes.ids side.other) stage))
    (hlater : Later pair (pair.moved side index move taken) nodes) :
    ∀ holder ∈ move.task :: move.spawned,
      (pair.moved side index move taken).Fine nodes side holder := by
  have hopened : stage.conn = some side.conn →
      nodes.ids side.other ∈ ((pair.moved side index move taken).transport side).desired ∨
        side.other.conn ∈ ((pair.moved side index move taken).transport side).opened := fun hconn =>
    .inl (hlater.desired side (hrace.wanted side (haccounted.opened _ hmem _ hconn)))
  obtain ⟨hconn, hgreets, hkeeps⟩ : (∀ conn, stage.conn = some conn → conn = side.conn) ∧
      (pair.moved side index move taken).Greets nodes side stage ∧
      (stage.registered.isSome = true →
        (pair.moved side index move taken).Keeps nodes side side.conn) := by
    cases hfine with
    | dial hconn hgreets hkeeps => exact ⟨hconn, hgreets, hkeeps⟩
  cases hdials with
  | present hpeer =>
      obtain ⟨handle, hhandle⟩ := Option.isSome_iff_exists.mp hpeer
      refine List.forall_mem_singleton.mpr (.dialed ?_)
      obtain ⟨hopen, ⟨-, htx⟩ | ⟨-, htx⟩⟩ := hrace.entry haccounted hhandle
      · exact .inl (hlater.desired side (hrace.wanted side (htx ▸ hopen)))
      · exact .inr (hlater.opened side (htx ▸ hopen))
  | absent =>
      exact List.forall_mem_singleton.mpr
        (.dial (by rintro _ ⟨⟩) trivial (by rintro ⟨⟩) (by rintro ⟨⟩))
  | desire =>
      exact List.forall_mem_singleton.mpr
        (.dial (by rintro _ ⟨⟩) trivial (by rintro ⟨⟩) fun _ => by simp [Effect.apply])
  | @connected conn hfresh =>
      obtain rfl := hown conn rfl
      exact List.forall_mem_singleton.mpr
        (.dial (fun _ heq => (Option.some.inj heq).symm) trivial (by rintro ⟨⟩) (by rintro ⟨⟩))
  | refused => exact absurd rfl hthrough
  | @yield conn hrefuses =>
      obtain rfl := hconn conn rfl
      exact List.forall_mem_singleton.mpr (.dialed (hopened rfl))
  | @register conn hadmits =>
      obtain rfl := hconn conn rfl
      exact List.forall_mem_singleton.mpr (.dial hconn trivial
        (fun _ => .inl (by simp [holds_moved, Effect.apply])) (by rintro ⟨⟩))
  | draw hgreeting =>
      exact List.forall_mem_singleton.mpr
        (.dial hconn hgreeting (fun _ => hkeeps rfl) (by rintro ⟨⟩))
  | send =>
      exact List.forall_mem_singleton.mpr
        (.dial hconn (by simp [Greets, Effect.apply]) (fun _ => hkeeps rfl) (by rintro ⟨⟩))
  | announce =>
      exact List.forall_mem_singleton.mpr
        (.dial hconn hgreets (fun _ => hkeeps rfl) (by rintro ⟨⟩))
  | @handOver conn =>
      obtain rfl := hconn conn rfl
      simp only [List.mem_cons, List.not_mem_nil, or_false, forall_eq_or_imp, forall_eq]
      exact ⟨.dialed (hopened rfl), .outbound (.inl rfl) (hkeeps rfl) hgreets, .heartbeat⟩

theorem Turn.fine_reads {connection : Connection} {stage : ReadLoop}
    (hreads : pair.Reads nodes side connection stage move) (hrace : pair.Race nodes)
    (haccounted : Transport.Accounted (pair.node side))
    (htask : (pair.tasks side)[index]? = some (.readLoop connection stage))
    (hlater : Later pair (pair.moved side index move taken) nodes) :
    ∀ holder ∈ move.task :: move.spawned,
      (pair.moved side index move taken).Fine nodes side holder := by
  cases hrace.fine side _ (List.mem_of_getElem? htask) with
  | outbound hstage hkeeps hspoke =>
      rcases hstage with rfl | rfl <;> cases hreads
      · exact List.forall_mem_singleton.mpr
          (.outbound (.inr rfl) (hlater.keeps _ _ hkeeps) (hlater.spoke _ _ hspoke))
      case read hsaid => exact absurd hrace.unsent hsaid
      case lose hdropped =>
        exact List.forall_mem_singleton.mpr (.leaving (.inl rfl) (by simp)
          (hlater.doomed (hrace.doomed_of_dropped hdropped)))
  | answering hid hanswers hkeeps =>
      cases hanswers.answered hreads (hlater.spoke side.other _) with
      | goesOn hsame hnext hspawned hregistered =>
          refine List.forall_mem_cons.mpr ⟨.answering (hsame.trans hid) hnext fun hsome => ?_,
            fun holder hholder => hspawned holder hholder ▸ .heartbeat⟩
          rcases hregistered hsome with hbefore | rfl
          · exact hlater.keeps _ _ (hkeeps hbefore)
          · exact .inl (by simp [holds_moved, Effect.apply, hid])
      | lost hdropped =>
          exact List.forall_mem_singleton.mpr (.leaving (.inl rfl)
            (fun handle hhandle => (hanswers.registered hhandle).1)
            (hlater.doomed (hrace.doomed_of_dropped hdropped)))
      | refused hrefuses hregistered hspoke =>
          refine List.forall_mem_singleton.mpr (.leaving (.inr (.inl rfl)) (by simp [hregistered])
            (hlater.doomed ?_))
          rw [hid]
          exact hrace.won_of_refuses haccounted hrefuses fun handle hpeer => hid ▸
            unregistered haccounted htask rfl (by simp [Task.carried, hregistered]) hpeer
  | leaving hstage hregistered hdoomed =>
      have hdoomed' := hlater.doomed hdoomed
      rcases hstage with rfl | rfl | ⟨removed, rfl⟩ <;> cases hreads
      case depart | announceLoss =>
        exact List.forall_mem_singleton.mpr (.leaving (.inr (.inl rfl)) hregistered hdoomed')
      case evict =>
        exact List.forall_mem_singleton.mpr (.leaving (.inr (.inr ⟨_, rfl⟩)) hregistered hdoomed')

theorem Turn.fine (hturn : pair.Turn nodes side task move) (hrace : pair.Race nodes)
    (haccounted : Transport.Accounted (pair.node side))
    (htask : (pair.tasks side)[index]? = some task) :
    ∀ holder ∈ move.task :: move.spawned,
      (pair.moved side index move taken).Fine nodes side holder := by
  have hmem := List.mem_of_getElem? htask
  have hfine := hrace.fine side task hmem
  have hlater : Later pair (pair.moved side index move taken) nodes :=
    hturn.later hrace hfine haccounted
  cases hturn with
  | accept =>
      simp only [List.mem_cons, List.not_mem_nil, or_false, forall_eq_or_imp, forall_eq]
      exact ⟨.accepting, .answering rfl (.waiting (.inl rfl)) nofun⟩
  | dials hdials hown hthrough =>
      exact fine_dials hdials hown hthrough hrace haccounted hmem (hfine.mono hlater) hlater
  | returned =>
      refine List.forall_mem_singleton.mpr ?_
      cases hfine.mono hlater with
      | dialed hcause => exact .returned hcause
  | reads hreads => exact fine_reads hreads hrace haccounted htask hlater

end Later

section Step

variable {index : Nat} {taken : ConnectionId → Nat}

section

variable (hturn : pair.Turn nodes side task move)

include hturn

theorem Turn.keepsOpen (hrace : pair.Race nodes) (haccounted : Transport.Accounted (pair.node side))
    (htask : (pair.tasks side)[index]? = some task) (hopen : task.keepsOpen = some conn) :
    pair.Doomed nodes conn ∨ ∃ holder ∈ move.task :: move.spawned, holder.keepsOpen = some conn := by
  have hfine := hrace.fine side task (List.mem_of_getElem? htask)
  cases hturn with
  | accept | returned => cases hopen
  | dials hdials =>
      cases hdials with
      | yield hrefuses =>
          obtain rfl : _ = conn := Option.some.inj hopen
          cases hfine with
          | dial hconn =>
              obtain rfl := hconn _ rfl
              exact .inl (hrace.won_of_refuses haccounted hrefuses fun handle hpeer =>
                unregistered haccounted htask rfl rfl hpeer)
      | _ => simp_all [Task.keepsOpen]
  | reads hreads =>
      cases hreads with
      | giveWay hrefuses =>
          obtain ⟨hid, hregistered, -⟩ := hfine.registering
          obtain rfl : side.other.conn = conn := hid ▸ Option.some.inj hopen
          exact .inl (hrace.won_of_refuses haccounted hrefuses fun handle hpeer =>
            unregistered haccounted htask (congrArg some hid)
              (by simp [Task.carried, hregistered]) hpeer)
      | depart => exact .inl (Option.some.inj hopen ▸ hfine.departing (.inl rfl))
      | announceLoss => exact .inl (Option.some.inj hopen ▸ hfine.departing (.inr ⟨_, _, rfl⟩))
      | _ => simp_all [Task.keepsOpen]

theorem Turn.opened_cases (hopened : conn ∈ (move.effect.apply (pair.transport side)).opened) :
    conn ∈ (pair.transport side).opened ∨
      (conn = side.conn ∧ task = .dial .connect (nodes.ids side.other) .connecting ∧
        ∃ holder ∈ move.task :: move.spawned, holder.keepsOpen = some conn) ∨
      (conn = side.other.conn ∧ side.other.conn ∈ (pair.transport side.other).opened ∧
        ∃ holder ∈ move.task :: move.spawned, holder.keepsOpen = some conn) := by
  cases hturn with
  | accept hdialed hfresh =>
      rcases List.mem_cons.mp hopened with rfl | hold
      · exact .inr (.inr ⟨rfl, hdialed, _, List.mem_cons_of_mem _ List.mem_cons_self, rfl⟩)
      · exact .inl hold
  | dials hdials hown =>
      cases hdials with
      | connected =>
          rcases List.mem_cons.mp hopened with rfl | hold
          · exact .inr (.inl ⟨hown _ rfl, rfl, _, List.mem_cons_self, rfl⟩)
          · exact .inl hold
      | _ => exact .inl hopened
  | returned => exact .inl hopened
  | reads hreads => exact .inl (hreads.unchanged.1 ▸ hopened)

theorem Turn.outbound_cases (hfine : pair.Fine nodes side task) (conn : ConnectionId) :
    (move.effect.apply (pair.transport side)).outbound conn = (pair.transport side).outbound conn ∨
      ∃ hs, conn = side.conn ∧ nodes.Greeting side hs ∧ pair.Keeps nodes side side.conn ∧
        (move.effect.apply (pair.transport side)).outbound conn =
          (pair.transport side).outbound conn ++ [hs] := by
  cases hturn with
  | accept | returned => exact .inl rfl
  | dials hdials =>
      rcases hdials.outbound_cases conn with hsame | ⟨hs, rfl, -, happend⟩
      · exact .inl hsame
      · cases hfine with
        | dial hconn hgreets hkeeps =>
            exact .inr ⟨hs, hconn conn rfl, hgreets, hkeeps rfl, happend⟩
  | reads hreads => exact .inl (by rw [hreads.unchanged.2.2.1])

theorem Turn.stopped :
    (move.effect.apply (pair.transport side)).stopped = (pair.transport side).stopped := by
  cases hturn with
  | accept | returned => rfl
  | dials hdials => exact hdials.stopped
  | reads hreads => exact hreads.unchanged.2.2.2

theorem Turn.desired_cases
    (hdesired : nodes.ids side.other ∈ (move.effect.apply (pair.transport side)).desired) :
    nodes.ids side.other ∈ (pair.transport side).desired ∨
      move.task = .dial .connect (nodes.ids side.other) .connecting := by
  cases hturn with
  | accept | returned => exact .inl hdesired
  | dials hdials =>
      cases hdials with
      | desire => exact .inr rfl
      | _ => exact .inl hdesired
  | reads hreads => exact .inl (hreads.unchanged.2.1 ▸ hdesired)

theorem Turn.heardFrom (hfine : pair.Fine nodes side task)
    (hheard : Pair.heardFrom task = some conn) :
    ∃ holder ∈ move.task :: move.spawned, Pair.heardFrom holder = some conn := by
  refine ⟨move.task, List.mem_cons_self, ?_⟩
  cases hturn with
  | accept | returned | dials => cases hheard
  | reads hreads =>
      cases hfine with
      | answering hid hanswers => exact hanswers.heardFrom hreads hheard
      | outbound hstage => rcases hstage with rfl | rfl <;> cases hreads <;> exact hheard
      | leaving hstage =>
          rcases hstage with rfl | rfl | ⟨removed, rfl⟩ <;> cases hreads <;> exact hheard

end

section Moved

variable (hrace : pair.Race nodes) (haccounted : Transport.Accounted (pair.node side))
  (htask : (pair.tasks side)[index]? = some task) (hturn : pair.Turn nodes side task move)

include hrace haccounted htask hturn

theorem Race.later_moved : Later pair (pair.moved side index move taken) nodes :=
  hturn.later hrace (hrace.fine side task (List.mem_of_getElem? htask)) haccounted

theorem Race.told_moved (hspoke : ((pair.moved side index move taken).transport
      nodes.smaller).outbound nodes.smaller.conn ≠ []) :
    (pair.moved side index move taken).Won nodes := by
  have hfine := hrace.fine side task (List.mem_of_getElem? htask)
  refine (hrace.later_moved haccounted htask hturn).won ?_
  rcases side.eq_or_eq_other nodes.smaller with hsmaller | hsmaller
  · rw [hsmaller, transport_moved] at hspoke
    rcases hturn.outbound_cases hfine side.conn with hsame | ⟨hs, -, -, hholds | hdoomed, -⟩
    · exact hrace.told (by rw [hsmaller, ← hsame]; exact hspoke)
    · rwa [Won, hsmaller]
    · exact hdoomed.2
  · rw [hsmaller, transport_moved_other] at hspoke
    exact hrace.told (by rw [hsmaller]; exact hspoke)

theorem Race.agreed_moved
    (hholds : (pair.moved side index move taken).Holds nodes nodes.smaller.other
      nodes.smaller.conn) :
    (pair.moved side index move taken).Won nodes := by
  have hfine := hrace.fine side task (List.mem_of_getElem? htask)
  refine (hrace.later_moved haccounted htask hturn).won ?_
  rcases side.eq_or_eq_other nodes.smaller with hsmaller | hsmaller
  · rw [hsmaller, holds_moved_other] at hholds
    exact hrace.agreed (by rw [hsmaller]; exact hholds)
  · rw [hsmaller, Side.other_other, holds_moved] at hholds
    rcases hturn.peers_cases hfine with hpeers | ⟨heffect, -⟩ | ⟨heffect, -, hspoke⟩ |
      ⟨current, heffect, -⟩
    · rw [hpeers] at hholds
      exact hrace.agreed (by rw [hsmaller, Side.other_other]; exact hholds)
    · simp [heffect, Effect.apply] at hholds
    · exact hrace.told (by rw [hsmaller]; exact hspoke)
    · simp [heffect, Effect.apply] at hholds

theorem Race.kept_moved {side' : Side}
    (hopened : conn ∈ ((pair.moved side index move taken).transport side').opened) :
    (pair.moved side index move taken).Doomed nodes conn ∨
      ∃ holder ∈ (pair.moved side index move taken).tasks side', holder.keepsOpen = some conn := by
  by_cases hdoomed : (pair.moved side index move taken).Doomed nodes conn
  · exact .inl hdoomed
  refine .inr ?_
  have halive : ¬ pair.Doomed nodes conn := fun hold =>
    hdoomed ((hrace.later_moved haccounted htask hturn).doomed hold)
  rcases side.eq_or_eq_other side' with rfl | rfl
  · rw [transport_moved] at hopened
    rcases hturn.opened_cases hopened with hold | ⟨-, -, holder, hholder, hopen⟩ |
      ⟨-, -, holder, hholder, hopen⟩
    · exact exists_moved htask
        (fun hopen => (hturn.keepsOpen hrace haccounted htask hopen).resolve_left halive)
        ((hrace.kept _ conn hold).resolve_left halive)
    · exact ⟨holder, mem_moved_of_mem htask hholder, hopen⟩
    · exact ⟨holder, mem_moved_of_mem htask hholder, hopen⟩
  · rw [transport_moved_other] at hopened
    rw [tasks_moved_other]
    exact (hrace.kept _ conn hopened).resolve_left halive

theorem Race.pursued_moved
    (hdesired : nodes.ids side.other ∈
      ((pair.moved side index move taken).transport side).desired) :
    side.conn ∈ ((pair.moved side index move taken).transport side).opened ∨
      .dial .connect (nodes.ids side.other) .connecting ∈
        (pair.moved side index move taken).tasks side := by
  rw [transport_moved] at hdesired
  rcases hturn.desired_cases hdesired with hold | hnew
  · rcases hrace.pursued _ hold with hopened | hconnecting
    · exact .inl ((hrace.later_moved haccounted htask hturn).opened _ hopened)
    · by_cases hopened : side.conn ∈ ((pair.moved side index move taken).transport side).opened
      · exact .inl hopened
      · refine .inr (stays_moved htask ?_ hconnecting)
        rintro rfl
        cases hturn with
        | dials hdials hown hthrough =>
            cases hdials with
            | connected =>
                obtain rfl := hown _ rfl
                simp [Effect.apply] at hopened
            | refused => exact absurd rfl hthrough
  · exact .inr (mem_moved_of_mem htask (hnew ▸ List.mem_cons_self))

theorem Race.moved (htaken : ∀ conn, 0 < taken conn → 0 < pair.taken side conn ∨
      Pair.heardFrom move.task = some conn) :
    (pair.moved side index move taken).Race nodes := by
  have hfine := hrace.fine side task (List.mem_of_getElem? htask)
  have hlater : Later pair (pair.moved side index move taken) nodes :=
    hrace.later_moved haccounted htask hturn
  constructor
  case toUndisturbed => exact hrace.toUndisturbed.moved hturn.stopped
  case told => exact hrace.told_moved haccounted htask hturn
  case agreed => exact hrace.agreed_moved haccounted htask hturn
  case kept => exact fun _ _ => hrace.kept_moved haccounted htask hturn
  all_goals
    intro side'
    rcases side.eq_or_eq_other side' with rfl | rfl
  case fine.inl =>
    intro holder hholder
    rcases mem_moved hholder with hold | hnew
    · exact (hrace.fine _ holder hold).mono hlater
    · exact hturn.fine hrace haccounted htask holder hnew
  case fine.inr =>
    intro holder hholder
    rw [tasks_moved_other] at hholder
    exact (hrace.fine _ holder hholder).mono hlater
  case accepting.inl =>
    refine stays_moved htask ?_ (hrace.accepting side')
    rintro rfl
    cases hturn with
    | accept => exact List.mem_cons_self
  case accepting.inr =>
    rw [tasks_moved_other]
    exact hrace.accepting _
  case wanted.inl =>
    intro hopened
    rw [transport_moved] at hopened
    rcases hturn.opened_cases hopened with hold | ⟨-, rfl, -⟩ | ⟨hconn, -⟩
    · exact hlater.desired _ (hrace.wanted _ hold)
    · cases hfine with
      | dial _ _ _ hdesired => exact hlater.desired _ (hdesired rfl)
    · simp at hconn
  case wanted.inr =>
    intro hopened
    rw [transport_moved_other] at hopened ⊢
    exact hrace.wanted _ hopened
  case pursued.inl => exact hrace.pursued_moved haccounted htask hturn
  case pursued.inr =>
    rw [transport_moved_other, tasks_moved_other]
    exact hrace.pursued _
  case dialed.inl =>
    intro hopened
    rw [transport_moved] at hopened
    rcases hturn.opened_cases hopened with hold | ⟨hconn, -⟩ | ⟨-, hdialed, -⟩
    · exact hlater.opened _ (hrace.dialed _ hold)
    · simp at hconn
    · exact hlater.opened _ hdialed
  case dialed.inr =>
    intro hopened
    rw [transport_moved_other] at hopened
    exact hlater.opened _ (hrace.dialed _ hopened)
  case greetings.inl =>
    intro msg hmsg
    rw [transport_moved] at hmsg
    rcases hturn.outbound_cases hfine side'.conn with hsame | ⟨hs, -, hgreeting, -, happend⟩
    · exact hrace.greetings _ msg (hsame ▸ hmsg)
    · rw [happend] at hmsg
      rcases List.mem_append.mp hmsg with hold | hnew
      · exact hrace.greetings _ msg hold
      · exact List.mem_singleton.mp hnew ▸ hgreeting
  case greetings.inr =>
    rw [transport_moved_other]
    exact hrace.greetings _
  case silent.inl =>
    rw [transport_moved]
    rcases hturn.outbound_cases hfine side'.other.conn with hsame | ⟨hs, hconn, -⟩
    · rw [hsame, hrace.silent]
    · simp at hconn
  case silent.inr => rw [transport_moved_other, hrace.silent]
  case heard.inl =>
    intro conn hpos
    have hold : 0 < taken conn := by simpa [Pair.moved] using hpos
    rcases htaken conn hold with hbefore | hnew
    · exact exists_moved htask (hturn.heardFrom hfine) (hrace.heard _ conn hbefore)
    · exact ⟨_, mem_moved_of_mem htask List.mem_cons_self, hnew⟩
  case heard.inr =>
    intro conn hpos
    rw [tasks_moved_other]
    exact hrace.heard _ conn (by simpa [Pair.moved] using hpos)

end Moved

theorem Race.called (hrace : pair.Race nodes) :
    (pair.called side (.dial .connect (nodes.ids side.other) .checkingPeer)).Race nodes := by
  set next := pair.called side (.dial .connect (nodes.ids side.other) .checkingPeer)
  have htransport : ∀ side', next.transport side' = pair.transport side' := transport_called
  have hholds : ∀ side' conn, next.Holds nodes side' conn ↔ pair.Holds nodes side' conn :=
    fun side' conn => by rw [Holds, Holds, htransport]
  have hwon : next.Won nodes ↔ pair.Won nodes := hholds _ _
  have hlater : Later pair next nodes := by
    refine ⟨fun side' => ?_, fun side' => ?_, fun side' conn => ?_, hwon.mpr, fun side' conn => ?_⟩
    · rw [htransport]
      exact List.Subset.refl _
    · rw [htransport]
    · rw [htransport]
      exact id
    · rw [Keeps, Keeps, Doomed, Doomed, hholds, hwon]
      exact id
  constructor
  case toUndisturbed => exact hrace.toUndisturbed.called
  case fine =>
    intro side' other hother
    rcases mem_called hother with hold | ⟨rfl, rfl⟩
    · exact (hrace.fine side' other hold).mono hlater
    · exact .dial (by rintro _ ⟨⟩) trivial (by rintro ⟨⟩) (by rintro ⟨⟩)
  case kept =>
    intro side' conn hopened
    rw [htransport] at hopened
    rcases hrace.kept side' conn hopened with hdoomed | ⟨other, hother, hopen⟩
    · exact .inl (hlater.doomed hdoomed)
    · exact .inr ⟨other, tasks_subset_called side' hother, hopen⟩
  case heard =>
    intro side' conn hpos
    obtain ⟨other, hother, hheard⟩ := hrace.heard side' conn hpos
    exact ⟨other, tasks_subset_called side' hother, hheard⟩
  case accepting => exact fun side' => tasks_subset_called side' (hrace.accepting side')
  case pursued =>
    intro side' hdesired
    rw [htransport] at hdesired ⊢
    exact (hrace.pursued side' hdesired).imp_right fun hmem => tasks_subset_called side' hmem
  case agreed =>
    intro hagreed
    exact hwon.mpr (hrace.agreed ((hholds _ _).mp hagreed))
  case told =>
    intro htold
    rw [htransport] at htold
    exact hwon.mpr (hrace.told htold)
  all_goals
    intro side'
    simp only [htransport]
  case wanted => exact hrace.wanted side'
  case dialed => exact hrace.dialed side'
  case greetings => exact hrace.greetings side'
  case silent => exact hrace.silent side'

end Step

end Pair

namespace TwoNodes

variable {nodes : TwoNodes} {pair next : Pair}

theorem race_start : nodes.start.Race nodes where
  toUndisturbed := undisturbed_start
  fine side task hmem := by
    rcases List.mem_pair.mp hmem with rfl | rfl
    · exact .accepting
    · exact .listening
  accepting side := List.mem_cons_self
  wanted side hopened := by simp [start, Transport.start, Transport.listen] at hopened
  pursued side hdesired := by simp [start, Transport.start, Transport.listen] at hdesired
  dialed side hopened := by simp [start, Transport.start, Transport.listen] at hopened
  greetings side msg hmsg := by simp [start, Transport.start, Transport.listen] at hmsg
  silent _ := rfl
  told hspoke := absurd rfl hspoke
  agreed hholds := by cases hholds
  kept side conn hopened := by simp [start, Transport.start, Transport.listen] at hopened
  heard side conn hpos := absurd hpos (Nat.lt_irrefl 0)

theorem race_step (hreach : nodes.Reaches pair) (hrace : pair.Race nodes) {side : Side}
    {action : Transport.Action} (hoffers : pair.Offers side nodes action)
    (hstep : pair.step nodes.externals (side, action) = some next) : next.Race nodes := by
  rcases Pair.step_cases hstep with
    ⟨task, rfl, rfl⟩ | ⟨index, input, task, move, rfl, htask, hmove, rfl⟩
  · obtain ⟨rfl, -⟩ := hoffers
    exact hrace.called
  · refine hrace.moved (accounted_node hreach side) htask (hrace.turn htask hoffers hmove) ?_
    intro conn hpos
    rcases Pair.takes_cases htask hmove conn with hsame | ⟨connection, frames, -, rfl, htaken⟩
    · exact .inl (hsame ▸ hpos)
    · exact .inr (by rw [htaken]; rfl)

theorem race_of_reaches (hreach : nodes.Reaches pair) : pair.Race nodes := by
  induction hreach with
  | start => exact race_start
  | step action hbefore hoffers hstep ih => exact race_step hbefore ih hoffers hstep

end TwoNodes

end LapinBeam
