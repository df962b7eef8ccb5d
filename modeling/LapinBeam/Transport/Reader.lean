import LapinBeam.Transport.Task

/-!
# The read loop of one end

A connection as one of its ends sees it: the node, the connection, and where its read loop is. How
frames get across, and what the other end is, is left to the systems that have two of them.
-/

namespace LapinBeam

structure Reader where
  transport : Transport
  connection : Connection
  stage : ReadLoop

namespace Reader

variable {externals : Externals} {reader next : Reader} {input : Input} {effect : Effect}

/-- An actor is registered or unregistered, or takes a message. -/
def change (reader : Reader) (effect : Effect) : Option Reader :=
  if effect.isLocal then some { reader with transport := effect.apply reader.transport } else none

/-- One stretch of the loop, and what it does to the node. -/
def resume (externals : Externals) (reader : Reader) (input : Input) : Option (Effect × Reader) :=
  match reader.stage.move externals reader.transport reader.connection input with
  | some ⟨effect, .readLoop connection stage, _⟩ =>
      some (effect, ⟨effect.apply reader.transport, connection, stage⟩)
  | _ => none

theorem stage_of_change (hchange : reader.change effect = some next) :
    next.stage = reader.stage := by
  simp only [change, Option.ite_none_right_eq_some, Option.some.injEq] at hchange
  rw [← hchange.2]

theorem move_of_resume (hresume : reader.resume externals input = some (effect, next)) :
    ∃ move, reader.stage.move externals reader.transport reader.connection input = some move ∧
      move.effect = effect ∧ move.task = .readLoop next.connection next.stage := by
  simp only [resume] at hresume
  split at hresume
  · rename_i hmove
    cases hresume
    exact ⟨_, hmove, rfl, rfl⟩
  · cases hresume

end Reader

end LapinBeam
