import BusMaster.Lease.Wait

/-!
# Waiting by the clock

Surroundings in which time passes only while a party pauses, and in which one event happens at a set
time.

* `Timed`: a world with a clock.
* `Timed.surroundings`: what goes on around a party that waits in it.
-/

namespace BusMaster

/-- A world and the milliseconds that have passed. -/
structure Timed (ω : Type) where
  world : ω
  clock : Nat := 0

namespace Timed

variable {ω α : Type}

/-- A step of the world that takes no time. -/
def instantly (f : ω → α × ω) (t : Timed ω) : α × Timed ω :=
  let (answer, world) := f t.world
  (answer, { t with world })

/-- The clock moves on by the length of a pause, and `event` happens when it comes to `time`. -/
def surroundings (fired : ω → Bool) (time : Nat) (event : ω → ω) : Surroundings (Timed ω) where
  fired t := fired t.world
  now t := t.clock
  pause length t :=
    let clock := t.clock + length
    { clock, world := if t.clock < time ∧ time ≤ clock then event t.world else t.world }

end Timed

end BusMaster
