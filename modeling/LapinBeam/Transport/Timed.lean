import LapinBeam.Transport.Task

/-!
# A transport with a clock

Time, as far as `read_loop` measures it: every turn of its loop enters the `select!` anew, and with
it a new timeout around the read. All other waits may still end at any moment. Times are in
nanoseconds.
-/

namespace LapinBeam

/-- What silence is measured from: a read loop starts, or reads something. -/
def Task.hears : Task → Input → Bool
  | .readLoop _ .spawned, _ => true
  | .readLoop _ .selecting, .read (.frames _) => true
  | _, _ => false

def Task.selecting : Task → Bool
  | .readLoop _ .selecting => true
  | _ => false

namespace Transport

structure Timed where
  system : System
  peerTimeout : Nat
  now : Nat
  /-- When the read loop at this index last read something, or started. -/
  lastRead : Nat → Nat
  deadline : Nat → Nat

inductive TimedAction
  | wait (duration : Nat)
  | act (action : Action)

/-- A timeout that has not run out does not end the read. -/
def Timed.early (timed : Timed) : Action → Bool
  | .resume index (.read .elapsed) => timed.now < timed.deadline index
  | _ => false

def Timed.advance (timed : Timed) (system : System) : Action → Timed
  | .call _ => { timed with system }
  | .resume index input =>
      { timed with
        system
        lastRead :=
          if timed.system.tasks[index]?.any (·.hears input) then
            Function.update timed.lastRead index timed.now
          else timed.lastRead
        deadline :=
          if system.tasks[index]?.any Task.selecting then
            Function.update timed.deadline index (timed.now + timed.peerTimeout)
          else timed.deadline }

def timedStep (externals : Externals) (timed : Timed) : TimedAction → Option Timed
  | .wait duration => some { timed with now := timed.now + duration }
  | .act action =>
      if timed.early action then none
      else (step externals timed.system action).map (timed.advance · action)

def timedStart (system : System) (peerTimeout : Nat) : Timed :=
  ⟨system, peerTimeout, 0, fun _ => 0, fun _ => 0⟩

end Transport

end LapinBeam
