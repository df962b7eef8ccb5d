import Mathlib.Data.List.Basic

/-!
# Incremental decoders

A decoder keeps a buffer, appends each chunk it is fed, and then takes items off the front for as
long as one is there. What it takes off the front is a `Scan`: nothing yet, one item and what is
left, or a fault. `drain` is the loop, and `drain_frames` is what it yields on a buffer that is a
prefix of a stream of frames: the items whose frames are complete, with the buffer cut back to a
proper prefix of the next one.
-/

namespace StreamDecoder

variable {Token Item Fault : Type*}

inductive Scan (Token Item Fault : Type*)
  | more
  | item (value : Item) (rest : List Token)
  | fault (reason : Fault) (rest : List Token)

/-- Takes items off the front until there is none, or a fault. A fault drops the items already taken, and `fuel` bounds the number of turns. -/
def drain (scan : List Token → Scan Token Item Fault) :
    Nat → List Token → List Item → Except Fault (List Item) × List Token
  | 0, buffer, out => (.ok out, buffer)
  | fuel + 1, buffer, out =>
      match scan buffer with
      | .more => (.ok out, buffer)
      | .item value rest => drain scan fuel rest (out ++ [value])
      | .fault reason rest => (.error reason, rest)

/-- `frame` writes the items that satisfy `fits` so that `scan` reads them back, and sees nothing in a proper prefix of a frame. -/
structure Framing (scan : List Token → Scan Token Item Fault) (frame : Item → List Token)
    (fits : Item → Prop) : Prop where
  scan_nil : scan [] = .more
  frame_pos : ∀ value, fits value → 0 < (frame value).length
  scan_frame : ∀ value rest, fits value → scan (frame value ++ rest) = .item value rest
  scan_partial : ∀ value part, fits value → part <+: frame value →
    part.length < (frame value).length → scan part = .more

/-- `tail` is what can stand in the buffer when `items` are still to come: a prefix of their stream that does not yet hold the first frame. -/
def Residual (frame : Item → List Token) (items : List Item) (tail : List Token) : Prop :=
  tail <+: items.flatMap frame ∧ ∀ first ∈ items.head?, tail.length < (frame first).length

theorem Residual.eq_nil {frame : Item → List Token} {tail : List Token}
    (h : Residual frame [] tail) : tail = [] :=
  List.prefix_nil.mp h.1

theorem Residual.items_eq_nil {frame : Item → List Token} {items : List Item} {tail : List Token}
    (h : Residual frame items tail) (hwhole : items.flatMap frame = tail) : items = [] := by
  cases items with
  | nil => rfl
  | cons first rest =>
      have hshort := h.2 first rfl
      have hlength := congrArg List.length hwhole
      simp only [List.flatMap_cons, List.length_append] at hlength
      omega

variable {scan : List Token → Scan Token Item Fault} {frame : Item → List Token}
  {fits : Item → Prop}

theorem drain_frames (hframing : Framing scan frame fits) (items : List Item)
    (hfits : ∀ value ∈ items, fits value) :
    ∀ (fuel : Nat) (buffer : List Token) (out : List Item),
      buffer <+: items.flatMap frame → buffer.length < fuel →
      ∃ taken left tail, items = taken ++ left ∧ buffer = taken.flatMap frame ++ tail ∧
        drain scan fuel buffer out = (.ok (out ++ taken), tail) ∧ Residual frame left tail := by
  induction items with
  | nil =>
      intro fuel buffer out hbytes hfuel
      obtain rfl : buffer = [] := List.prefix_nil.mp hbytes
      obtain ⟨fuel, rfl⟩ : ∃ k, fuel = k + 1 := ⟨fuel - 1, by simp at hfuel; omega⟩
      refine ⟨[], [], [], rfl, rfl, ?_, ⟨List.nil_prefix, by simp⟩⟩
      simp [drain, hframing.scan_nil]
  | cons first items ih =>
      intro fuel buffer out hbytes hfuel
      have hfirst : fits first := hfits first List.mem_cons_self
      obtain ⟨fuel, rfl⟩ : ∃ k, fuel = k + 1 := ⟨fuel - 1, by omega⟩
      rw [List.flatMap_cons] at hbytes
      by_cases hcomplete : (frame first).length ≤ buffer.length
      · -- the first frame is there in full: one turn takes it, the rest is the induction
        obtain ⟨rest, rfl⟩ : frame first <+: buffer :=
          List.prefix_of_prefix_length_le (List.prefix_append _ _) hbytes hcomplete
        have hrest : rest <+: items.flatMap frame := (List.prefix_append_right_inj _).mp hbytes
        have hpos := hframing.frame_pos first hfirst
        have hshorter : rest.length < fuel := by
          rw [List.length_append] at hfuel
          omega
        obtain ⟨taken, left, tail, hitems, hbuffer, hdrain, hresidual⟩ :=
          ih (fun value hmem => hfits value (List.mem_cons_of_mem _ hmem)) fuel rest
            (out ++ [first]) hrest hshorter
        refine ⟨first :: taken, left, tail, ?_, ?_, ?_, hresidual⟩
        · rw [hitems, List.cons_append]
        · rw [hbuffer, List.flatMap_cons, List.append_assoc]
        · rw [drain, hframing.scan_frame first rest hfirst]
          simpa using hdrain
      · have hshort : buffer.length < (frame first).length := Nat.lt_of_not_le hcomplete
        have hpart : buffer <+: frame first :=
          List.prefix_of_prefix_length_le hbytes (List.prefix_append _ _) (Nat.le_of_lt hshort)
        refine ⟨[], first :: items, buffer, rfl, rfl, ?_, ⟨?_, ?_⟩⟩
        · simp [drain, hframing.scan_partial first buffer hfirst hpart hshort]
        · rwa [List.flatMap_cons]
        · intro other hother
          obtain rfl : first = other := by simpa using hother
          exact hshort

end StreamDecoder
