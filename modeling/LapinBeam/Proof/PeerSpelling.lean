import LapinBeam.Actor.Signals
import LapinBeam.Lib.JsonText
import LapinBeam.Proof.WakeUps

/-!
# Two spellings of one peer

`NodeId::parse` reads the port with Rust's integer parser, which takes a leading `+` and leading
zeros. The core forgets how an id was spelled, and its events carry the id as it prints it; Python
keeps the caller's text as the key of `_peer_waiters` and as the node of a link or monitor target.
The two agree exactly for ids whose port is spelled as it is printed.
-/

namespace LapinBeam

/-! ### Digits as they are printed -/

theorem digitChar_toNat_sub {c : Char} (hdigit : c.isDigit = true) :
    c.toNat - '0'.toNat < 10 ∧ Nat.digitChar (c.toNat - '0'.toNat) = c := by
  have hbounds : 48 ≤ c.toNat ∧ c.toNat ≤ 57 := by
    simpa [Char.isDigit, UInt32.le_iff_toNat_le] using hdigit
  have hzero : '0'.toNat = 48 := rfl
  have hlt : c.toNat - '0'.toNat < 10 := by omega
  refine ⟨hlt, Char.toNat_inj.mp ?_⟩
  rw [Nat.toNat_digitChar_of_lt_ten hlt]
  omega

theorem toDigits_ofDigitChars {digits : List Char} (hdigits : ∀ c ∈ digits, c.isDigit = true)
    {init : Nat} (hpos : 0 < init) :
    Nat.toDigits 10 (Nat.ofDigitChars 10 digits init) = Nat.toDigits 10 init ++ digits := by
  induction digits generalizing init with
  | nil => simp [Nat.ofDigitChars_nil]
  | cons c rest ih =>
      obtain ⟨hlt, hchar⟩ := digitChar_toNat_sub (hdigits c List.mem_cons_self)
      have hnext : 0 < 10 * init + (c.toNat - '0'.toNat) := by omega
      calc Nat.toDigits 10 (Nat.ofDigitChars 10 (c :: rest) init)
          = Nat.toDigits 10 (10 * init + (c.toNat - '0'.toNat)) ++ rest := by
            rw [Nat.ofDigitChars_cons,
              ih (fun d hmem => hdigits d (List.mem_cons_of_mem _ hmem)) hnext]
        _ = (Nat.toDigits 10 init ++ [c]) ++ rest := by
            rw [← Nat.toDigits_append_toDigits (by decide) hpos hlt, Nat.toDigits_of_lt_base hlt,
              hchar]
        _ = Nat.toDigits 10 init ++ c :: rest := by simp

theorem toDigits_eq_iff {digits : List Char} (hne : digits ≠ [])
    (hdigits : ∀ c ∈ digits, c.isDigit = true) :
    Nat.toDigits 10 (Nat.ofDigitChars 10 digits 0) = digits ↔
      (digits.head? = some '0' → digits = ['0']) := by
  cases digits with
  | nil => exact absurd rfl hne
  | cons c rest =>
      obtain ⟨hlt, hchar⟩ := digitChar_toNat_sub (hdigits c List.mem_cons_self)
      constructor
      · intro heq hhead
        have hzero : Nat.ofDigitChars 10 (c :: rest) 0 = 0 :=
          Json.head?_toDigits (heq.symm ▸ hhead)
        rw [hzero] at heq
        exact heq.symm
      · intro hcanonical
        by_cases hzero : c = '0'
        · rw [hcanonical (by rw [hzero]; rfl)]
          rfl
        · have hpos : 0 < c.toNat - '0'.toNat := by
            refine Nat.pos_of_ne_zero fun heq => hzero ?_
            rw [← hchar, heq]
            rfl
          have hrest : ∀ d ∈ rest, d.isDigit = true := fun d hmem =>
            hdigits d (List.mem_cons_of_mem _ hmem)
          rw [Nat.ofDigitChars_cons, Nat.mul_zero, Nat.zero_add, toDigits_ofDigitChars hrest hpos,
            Nat.toDigits_of_lt_base hlt, hchar, List.singleton_append]

/-! ### The port of an id -/

theorem rsplitOnce_eq_some {sep : Char} {text before after : List Char}
    (hsplit : rsplitOnce sep text = some (before, after)) :
    text = before ++ sep :: after ∧ sep ∉ after := by
  simp only [rsplitOnce, Option.map_eq_some_iff, Prod.exists, Prod.mk.injEq] at hsplit
  obtain ⟨last, first, hreverse, rfl, rfl⟩ := hsplit
  obtain ⟨htext, hnotMem⟩ := splitOnce_eq_some hreverse
  refine ⟨?_, by simpa using hnotMem⟩
  rw [← List.reverse_reverse text, htext]
  simp

theorem stripPlus_of_head? {text : List Char} (hhead : text.head? ≠ some '+') :
    stripPlus text = text := by
  unfold stripPlus
  split
  · exact absurd rfl hhead
  · rfl

theorem parsePort_eq_some {text : List Char} {port : UInt16} (hport : parsePort text = some port) :
    stripPlus text ≠ [] ∧ (∀ c ∈ stripPlus text, c.isDigit = true) ∧
      Nat.ofDigitChars 10 (stripPlus text) 0 = port.toNat := by
  simp only [parsePort] at hport
  split at hport
  · rename_i hdigits
    split at hport
    · rename_i hlt
      obtain rfl := Option.some.inj hport
      exact ⟨hdigits.1, List.all_eq_true.mp hdigits.2, (UInt16.toNat_ofNat_of_lt hlt).symm⟩
    · cases hport
  · cases hport

/-- A port is spelled as it is printed: without `+`, and without a zero in front of another digit. -/
def PrintedPort (text : List Char) : Prop :=
  text.head? ≠ some '+' ∧ (text.head? = some '0' → text = ['0'])

instance (text : List Char) : Decidable (PrintedPort text) :=
  inferInstanceAs (Decidable (_ ∧ _))

theorem toDigits_port_iff {text : List Char} {port : UInt16} (hport : parsePort text = some port) :
    Nat.toDigits 10 port.toNat = text ↔ PrintedPort text := by
  obtain ⟨hne, hdigits, hvalue⟩ := parsePort_eq_some hport
  by_cases hplus : text.head? = some '+'
  · refine iff_of_false (fun heq => ?_) fun hprinted => hprinted.1 hplus
    have hmem : '+' ∈ Nat.toDigits 10 port.toNat := heq ▸ List.mem_of_head? hplus
    exact notMem_toDigits (by decide) _ hmem
  · rw [stripPlus_of_head? hplus] at hne hdigits hvalue
    rw [← hvalue, toDigits_eq_iff hne hdigits, PrintedPort]
    exact ⟨fun hzero => ⟨hplus, hzero⟩, fun hprinted => hprinted.2⟩

namespace NodeId

def portText (s : String) : List Char := ((rsplitOnce ':' s.toList).map (·.2)).getD []

theorem toList_of_parse {s : String} {id : NodeId} (hparse : parse s = .ok id) :
    s.toList = id.name.toList ++ '@' :: (id.host.toList ++ ':' :: portText s) ∧
      parsePort (portText s) = some id.port := by
  unfold parse at hparse
  split at hparse
  · cases hparse
  rename_i name addr hsplit
  split at hparse
  · cases hparse
  rename_i host portStr hrsplit
  split at hparse
  · cases hparse
  split at hparse
  · cases hparse
  split at hparse
  · cases hparse
  rename_i port hport
  obtain rfl := Except.ok.inj hparse
  obtain ⟨haddr, hcolon⟩ := rsplitOnce_eq_some hrsplit
  have htext : s.toList = (name ++ '@' :: host) ++ ':' :: portStr := by
    rw [(splitOnce_eq_some hsplit).1, haddr]
    simp
  have hportText : portText s = portStr := by
    rw [portText, htext, rsplitOnce_append hcolon]
    rfl
  rw [hportText]
  exact ⟨by simp [htext], hport⟩

theorem toFull_eq_iff {s : String} {id : NodeId} (hparse : parse s = .ok id) :
    id.toFull = s ↔ PrintedPort (portText s) := by
  obtain ⟨htext, hport⟩ := toList_of_parse hparse
  rw [← toDigits_port_iff hport, ← String.toList_inj, toList_toFull, toList_address, htext]
  simp

end NodeId

/-! ### What Python keeps under the caller's text -/

namespace Connecting.State

theorem resolved_register_iff {state : State} {index : Nat} {peerId : String} {peer : NodeId}
    (hfresh : index ∉ state.waitersOf peer.toFull) (hpending : state.futures index = .pending) :
    ((state.register index peerId).onCoreEvent (.peerConnected peer)).futures index = .resolved ↔
      peer.toFull = peerId := by
  have hwaiters : index ∈ (state.register index peerId).waitersOf peer.toFull ↔
      peer.toFull = peerId := by
    by_cases heq : peer.toFull = peerId
    · simp [register, waitersOf, heq]
    · simpa [register, waitersOf, Function.update_of_ne heq, heq] using hfresh
  have hfuture : (state.register index peerId).futures index = .pending := hpending
  simp only [onCoreEvent, hwaiters, hfuture, and_true]
  split <;> simp_all

end Connecting.State

namespace Actor.Signals

variable {signals : Signals} {peer : String}

theorem exit_mem_lost_iff {name target : String} :
    .exit (peer ++ "/" ++ target) name "noconnection" ∈ signals.lost peer ↔
      name ∈ signals.linkKeys ∧ ⟨some peer, target⟩ ∈ signals.links name := by
  simp only [lost, List.mem_append, List.mem_flatMap, List.mem_map, List.mem_filter,
    List.mem_filterMap]
  constructor
  · rintro (⟨key, hkey, ⟨node, actor⟩, ⟨htarget, hnode⟩, hexit⟩ | ⟨ref, -, hdown⟩)
    · obtain ⟨hsource, rfl, -⟩ := Delivery.exit.inj hexit
      obtain rfl : actor = target := by simpa using hsource
      obtain rfl : node = some peer := of_decide_eq_true hnode
      exact ⟨hkey, htarget⟩
    · split at hdown
      · split at hdown <;> cases hdown
      · cases hdown
  · rintro ⟨hkey, htarget⟩
    exact .inl ⟨name, hkey, ⟨some peer, target⟩, ⟨htarget, by simp⟩, rfl⟩

theorem down_mem_lost_iff {ref : Ref} {target : String} :
    .down ref (peer ++ "/" ++ target) "noconnection" ∈ signals.lost peer ↔
      ref ∈ signals.monitorKeys ∧
        ∃ watcher, signals.monitors ref = some ⟨watcher, some peer, target⟩ := by
  simp only [lost, List.mem_append, List.mem_flatMap, List.mem_map, List.mem_filterMap]
  constructor
  · rintro (⟨key, -, address, -, hexit⟩ | ⟨key, hkey, hdown⟩)
    · cases hexit
    · split at hdown
      · rename_i watcher address hmonitor
        split at hdown
        · rename_i hnode
          obtain ⟨rfl, hactor, -⟩ := Delivery.down.inj (Option.some.inj hdown)
          obtain ⟨node, actor⟩ := address
          obtain rfl : node = some peer := hnode
          obtain rfl : actor = target := by simpa using hactor
          exact ⟨hkey, watcher, hmonitor⟩
        · cases hdown
      · cases hdown
  · rintro ⟨hkey, watcher, hmonitor⟩
    exact .inr ⟨ref, hkey, by simp [hmonitor]⟩

theorem mem_linkKeys_addLink (name : String) (target : Address) :
    name ∈ (signals.addLink name target).linkKeys := by
  simp only [addLink]
  split <;> simp_all

theorem mem_monitorKeys_addMonitor (ref : Ref) (monitor : Monitor) :
    ref ∈ (signals.addMonitor ref monitor).monitorKeys := by
  simp only [addMonitor]
  split <;> simp_all

theorem exit_mem_lost_addLink_iff {name target peerId : String}
    (hfresh : ⟨some peer, target⟩ ∉ signals.links name) :
    .exit (peer ++ "/" ++ target) name "noconnection" ∈
        (signals.addLink name ⟨some peerId, target⟩).lost peer ↔ peer = peerId := by
  rw [exit_mem_lost_iff, and_iff_right (mem_linkKeys_addLink name _)]
  simp [addLink, hfresh]

theorem down_mem_lost_addMonitor_iff {ref : Ref} {watcher target peerId : String} :
    .down ref (peer ++ "/" ++ target) "noconnection" ∈
        (signals.addMonitor ref ⟨watcher, ⟨some peerId, target⟩⟩).lost peer ↔ peer = peerId := by
  rw [down_mem_lost_iff, and_iff_right (mem_monitorKeys_addMonitor ref _)]
  simp [addMonitor, eq_comm]

end Actor.Signals

/-- **Ids match across the language boundary exactly if their port is spelled as it is printed**: only then do the futures, links and monitors under an accepted text get the events of the peer. -/
theorem peer_ids_match_iff {s : String} {id : NodeId} (hparse : NodeId.parse s = .ok id) :
    (id.toFull = s ↔ PrintedPort (NodeId.portText s)) ∧
    (∀ (state : Connecting.State) (index : Nat), index ∉ state.waitersOf id.toFull →
      state.futures index = .pending →
      (((state.register index s).onCoreEvent (.peerConnected id)).futures index = .resolved ↔
        PrintedPort (NodeId.portText s))) ∧
    ∀ signals : Actor.Signals,
      (∀ name target, ⟨some id.toFull, target⟩ ∉ signals.links name →
        (.exit (id.toFull ++ "/" ++ target) name "noconnection" ∈
            (signals.addLink name ⟨some s, target⟩).lost id.toFull ↔
          PrintedPort (NodeId.portText s))) ∧
      ∀ ref watcher target,
        .down ref (id.toFull ++ "/" ++ target) "noconnection" ∈
            (signals.addMonitor ref ⟨watcher, ⟨some s, target⟩⟩).lost id.toFull ↔
          PrintedPort (NodeId.portText s) := by
  rw [← NodeId.toFull_eq_iff hparse]
  refine ⟨Iff.rfl, fun state index hfresh hpending => ?_, fun signals => ⟨?_, ?_⟩⟩
  · exact Connecting.State.resolved_register_iff hfresh hpending
  · exact fun name target hfresh => Actor.Signals.exit_mem_lost_addLink_iff hfresh
  · exact fun ref watcher target => Actor.Signals.down_mem_lost_addMonitor_iff

theorem peer_ids_match_iff_printed :
    NodeId.parse "a@h:2" = .ok Fixed.peer ∧
    ((Connecting.Fixed.start.register 0 "a@h:2").onCoreEvent (.peerConnected Fixed.peer)).futures 0 =
      .resolved := by
  have hparse : NodeId.parse "a@h:2" = .ok Fixed.peer := by decide +kernel
  have hmatch := (peer_ids_match_iff hparse).2.1 Connecting.Fixed.start 0
  exact ⟨hparse, (hmatch (by decide +kernel) rfl).mpr (by decide +kernel)⟩

namespace Connecting.Fixed

/-- `connect_peer` is given a port with a leading zero. The core connects and tells so, the event is delivered, and the call times out. -/
def misspelled : List Action :=
  [.connectPeer "a@h:02", .resume 0 .go, .resume 0 .go, .resume 0 .go] ++
  ([.resume 2 .go, .resume 2 .go, .resume 2 (.connected 1), .resume 2 .go, .resume 2 (.nonce []),
    .resume 2 .go, .resume 2 .go, .resume 2 .go] : List Transport.Action).map .core ++
  [.drain, .deliver, .resume 0 .timedOut, .resume 0 .go]

end Connecting.Fixed

theorem peer_ids_not_canonical :
    NodeId.parse "a@h:02" = .ok Fixed.peer ∧ Fixed.peer.toFull ≠ "a@h:02" ∧
    ∃ state, Machine.Reachable (Connecting.step Fixed.externals) Connecting.Fixed.start state ∧
      state.core.shared.hasPeer Fixed.peer = true ∧ state.ready = [] ∧
      state.calls = [⟨"a@h:02", Fixed.peer, .ended .failed⟩] := by
  refine ⟨by decide +kernel, by decide +kernel, ?_⟩
  have hrun : (Machine.runWhere (Connecting.step Fixed.externals) (fun _ _ => True)
      Connecting.Fixed.start Connecting.Fixed.misspelled).map
      (fun state => (state.core.shared.hasPeer Fixed.peer, state.ready.length, state.calls)) =
      some (true, 0, [⟨"a@h:02", Fixed.peer, .ended .failed⟩]) := by
    decide +kernel
  obtain ⟨state, hreach, hobserved⟩ := Machine.exists_reachableWhere hrun
  simp only [Prod.mk.injEq] at hobserved
  exact ⟨state, hreach, hobserved.1, List.length_eq_zero_iff.mp hobserved.2.1, hobserved.2.2⟩

end LapinBeam
