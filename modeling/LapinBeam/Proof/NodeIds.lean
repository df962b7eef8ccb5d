import LapinBeam.Transport.State

/-!
# Node ids that were parsed

A parsed id prints to a text that parses to the same id, whatever separators its name and host hold,
so two ids with one text are one id. The tie-break compares texts: of two connections that two nodes
dial to each other it picks one, and both nodes pick the same.
-/

namespace LapinBeam

namespace Transport

variable {here there : Transport}

theorem connectionWinsTiebreak_not (hne : here.localId.toFull ≠ there.localId.toFull) :
    here.connectionWinsTiebreak there.localId false =
      !here.connectionWinsTiebreak there.localId true := by
  rcases lt_or_gt_of_ne hne with hlt | hgt
  · simp [connectionWinsTiebreak, hlt, lt_asymm hlt]
  · simp [connectionWinsTiebreak, hgt, lt_asymm hgt]

theorem connectionWinsTiebreak_comm (weAreDialer : Bool) :
    here.connectionWinsTiebreak there.localId weAreDialer =
      there.connectionWinsTiebreak here.localId (!weAreDialer) := by
  cases weAreDialer <;> rfl

end Transport

namespace NodeId

/-- Parsing undoes printing for every parsed id, also with another port; so two parsed ids with one text are equal, and two distinct ones have one winning direction, the same on both nodes. -/
theorem parsed_ids_roundtrip {s t : String} {id other : NodeId} (hid : parse s = .ok id)
    (hother : parse t = .ok other) :
    parse id.toFull = .ok id ∧
    (∀ port, parse (id.withPort port).toFull = .ok (id.withPort port)) ∧
    (id.toFull = other.toFull → id = other) ∧
    ∀ here there : Transport, here.localId = id → there.localId = other → id ≠ other →
      here.connectionWinsTiebreak other false = !here.connectionWinsTiebreak other true ∧
      ∀ weAreDialer, here.connectionWinsTiebreak other weAreDialer =
        there.connectionWinsTiebreak id (!weAreDialer) := by
  have hvalid := valid_of_parse hid
  have hinjective := toFull_injective hvalid (valid_of_parse hother)
  refine ⟨parse_toFull hvalid, fun port => parse_toFull (hvalid.withPort port), hinjective, ?_⟩
  rintro here there rfl rfl hne
  have htexts : here.localId.toFull ≠ there.localId.toFull := fun heq => hne (hinjective heq)
  exact ⟨Transport.connectionWinsTiebreak_not htexts, Transport.connectionWinsTiebreak_comm⟩

theorem parsed_ids_roundtrip_separators :
    parse "n@a@b:c:9" = .ok ⟨"n", "a@b:c", 9⟩ ∧
    parse (NodeId.toFull ⟨"n", "a@b:c", 9⟩) = .ok ⟨"n", "a@b:c", 9⟩ ∧
    NodeId.toFull ⟨"n", "a@b:c", 9⟩ ≠ NodeId.toFull ⟨"n", "a@b:c", 10⟩ := by
  have hid : parse "n@a@b:c:9" = .ok ⟨"n", "a@b:c", 9⟩ := by decide +kernel
  have hother : parse "n@a@b:c:10" = .ok ⟨"n", "a@b:c", 10⟩ := by decide +kernel
  obtain ⟨hparse, -, hinjective, -⟩ := parsed_ids_roundtrip hid hother
  exact ⟨hid, hparse, fun heq => absurd (hinjective heq) (by decide)⟩

end NodeId

end LapinBeam
