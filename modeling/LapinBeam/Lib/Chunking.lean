import LapinBeam.Lib.StreamDecoder

/-!
# Streams in pieces

What an incremental decoder sees depends on how its stream is cut into chunks. If what a scan finds
at the front does not depend on what comes later (`Stable`), then the stream alone decides which
items there are and where the first fault is (`Splits`), and `drain` on a part of it finds the part
of them that is there.
-/

namespace StreamDecoder

variable {Token Item Fault : Type*} {scan : List Token → Scan Token Item Fault}

/-- An item is found as soon as its own tokens are there, and nothing that comes later changes it or a fault. -/
structure Stable (scan : List Token → Scan Token Item Fault) : Prop where
  scan_nil : scan [] = .more
  scan_item : ∀ {buffer value rest}, scan buffer = .item value rest →
    ∃ used, used ≠ [] ∧ buffer = used ++ rest ∧ ∀ more, scan (used ++ more) = .item value more
  scan_fault : ∀ {buffer reason rest}, scan buffer = .fault reason rest →
    ∀ more, ∃ left, scan (buffer ++ more) = .fault reason left

/-- The items at the front of a buffer, what is left behind them, and the fault that is there, if any. -/
inductive Splits (scan : List Token → Scan Token Item Fault) :
    List Token → List Item → List Token → Option Fault → Prop
  | more {buffer} (hscan : scan buffer = .more) : Splits scan buffer [] buffer none
  | fault {buffer rest reason} (hscan : scan buffer = .fault reason rest) :
      Splits scan buffer [] rest (some reason)
  | item {buffer rest tail value items fault} (hscan : scan buffer = .item value rest)
      (hrest : Splits scan rest items tail fault) : Splits scan buffer (value :: items) tail fault

def count (scan : List Token → Scan Token Item Fault) : Nat → List Token → Nat
  | 0, _ => 0
  | fuel + 1, buffer =>
      match scan buffer with
      | .item _ rest => count scan fuel rest + 1
      | _ => 0

variable {buffer tail more : List Token} {items : List Item} {fault : Option Fault}

namespace Splits

theorem unique (hsplits : Splits scan buffer items tail fault) {others : List Item}
    {left : List Token} {reason : Option Fault} (hother : Splits scan buffer others left reason) :
    items = others ∧ tail = left ∧ fault = reason := by
  induction hsplits generalizing others left reason with
  | more hscan =>
      cases hother with
      | more => exact ⟨rfl, rfl, rfl⟩
      | fault hscan' | item hscan' => cases hscan.symm.trans hscan'
  | fault hscan =>
      cases hother with
      | more hscan' => cases hscan.symm.trans hscan'
      | fault hscan' =>
          cases hscan.symm.trans hscan'
          exact ⟨rfl, rfl, rfl⟩
      | item hscan' => cases hscan.symm.trans hscan'
  | item hscan hrest ih =>
      cases hother with
      | more hscan' | fault hscan' => cases hscan.symm.trans hscan'
      | item hscan' hrest' =>
          cases hscan.symm.trans hscan'
          obtain ⟨rfl, rfl, rfl⟩ := ih hrest'
          exact ⟨rfl, rfl, rfl⟩

theorem scan_tail (hsplits : Splits scan buffer items tail none) : scan tail = .more := by
  generalize hnone : (none : Option Fault) = fault at hsplits
  induction hsplits with
  | more hscan => exact hscan
  | fault => cases hnone
  | item _ _ ih => exact ih hnone

end Splits

namespace Stable

variable (hstable : Stable scan)

include hstable

theorem length_lt {value : Item} {rest : List Token} (hscan : scan buffer = .item value rest) :
    rest.length < buffer.length := by
  obtain ⟨used, hused, rfl, -⟩ := hstable.scan_item hscan
  have hpos := List.length_pos_iff.mpr hused
  rw [List.length_append]
  omega

theorem exists_splits (buffer : List Token) :
    ∃ items tail fault, Splits scan buffer items tail fault := by
  induction hlength : buffer.length using Nat.strongRecOn generalizing buffer with
  | ind length ih =>
      cases hscan : scan buffer with
      | more => exact ⟨_, _, _, .more hscan⟩
      | fault reason rest => exact ⟨_, _, _, .fault hscan⟩
      | item value rest =>
          obtain ⟨items, tail, fault, hrest⟩ :=
            ih rest.length (hlength ▸ hstable.length_lt hscan) rest rfl
          exact ⟨_, _, _, .item hscan hrest⟩

theorem drain_eq (hsplits : Splits scan buffer items tail fault) {fuel : Nat}
    (hfuel : buffer.length < fuel) (out : List Item) :
    drain scan fuel buffer out =
      (fault.elim (.ok (out ++ items)) Except.error, tail) := by
  induction hsplits generalizing fuel out with
  | more hscan | fault hscan =>
      obtain ⟨fuel, rfl⟩ : ∃ less, fuel = less + 1 := ⟨fuel - 1, by omega⟩
      simp [drain, hscan]
  | item hscan _ ih =>
      obtain ⟨fuel, rfl⟩ : ∃ less, fuel = less + 1 := ⟨fuel - 1, by omega⟩
      have hshorter := hstable.length_lt hscan
      simp only [drain, hscan, ih (show _ < fuel by omega), List.append_assoc,
        List.singleton_append]

theorem count_eq (hsplits : Splits scan buffer items tail fault) {fuel : Nat}
    (hfuel : buffer.length < fuel) : count scan fuel buffer = items.length := by
  induction hsplits generalizing fuel with
  | more hscan | fault hscan =>
      obtain ⟨fuel, rfl⟩ : ∃ less, fuel = less + 1 := ⟨fuel - 1, by omega⟩
      simp [count, hscan]
  | item hscan _ ih =>
      obtain ⟨fuel, rfl⟩ : ∃ less, fuel = less + 1 := ⟨fuel - 1, by omega⟩
      have hshorter := hstable.length_lt hscan
      simp only [count, hscan, ih (show _ < fuel by omega), List.length_cons]

theorem splits_fault {reason : Fault} (hsplits : Splits scan buffer items tail (some reason))
    (more : List Token) : ∃ left, Splits scan (buffer ++ more) items left (some reason) := by
  generalize hsome : some reason = fault at hsplits
  induction hsplits with
  | more => cases hsome
  | fault hscan =>
      obtain ⟨left, hleft⟩ := hstable.scan_fault hscan more
      exact ⟨left, .fault hleft⟩
  | item hscan _ ih =>
      obtain ⟨left, hleft⟩ := ih hsome
      obtain ⟨used, -, rfl, hitem⟩ := hstable.scan_item hscan
      rw [List.append_assoc]
      exact ⟨left, .item (hitem _) hleft⟩

theorem splits_append (hsplits : Splits scan buffer items tail none) {later : List Item}
    {left : List Token} (hlater : Splits scan (tail ++ more) later left fault) :
    Splits scan (buffer ++ more) (items ++ later) left fault := by
  generalize hnone : (none : Option Fault) = absent at hsplits
  induction hsplits with
  | more => exact hlater
  | fault => cases hnone
  | item hscan _ ih =>
      obtain ⟨used, -, rfl, hitem⟩ := hstable.scan_item hscan
      rw [List.append_assoc]
      exact .item (hitem _) (ih hlater hnone)

end Stable

end StreamDecoder
