/-!
# Waiting for a session

A party that waits for a session polls: it attempts, and pauses while the attempt fails. What goes
on around it, the clock included, is given as `Surroundings`.

* `acquireBlocking`: polls until an attempt succeeds.
* `acquireBounded`: polls until an attempt succeeds, a token fires or a deadline has passed. The
  token is looked at before the attempt of a round, the clock only after it has failed.

Both take the number of rounds to follow.
-/

namespace BusMaster

/-- What goes on around a party that waits, in a world of states `ω`. Times are in milliseconds. -/
structure Surroundings (ω : Type) where
  /-- The token has fired. -/
  fired : ω → Bool
  now : ω → Nat
  /-- What becomes of the world while the party pauses that long. -/
  pause : Nat → ω → ω

/-- Nothing happens, and no time passes. -/
def Surroundings.quiet {ω : Type} : Surroundings ω where
  fired _ := false
  now _ := 0
  pause _ w := w

/-- What ends a wait early. -/
structure Bounds where
  deadline : Option Nat := none
  /-- A token was given. -/
  token : Bool := false
deriving DecidableEq, Repr

/-- How a wait stands after the rounds followed. -/
inductive Waited where
  | acquired
  | gaveUp
  | waiting
deriving DecidableEq, Repr

namespace Lease

variable {ω : Type}

/-- How long to pause after a failed attempt at time `now`: the interval, but not beyond the
deadline; nothing if that has come. -/
def pauseLength (interval : Nat) (deadline : Option Nat) (now : Nat) : Option Nat :=
  match deadline with
  | none => some interval
  | some deadline => if now < deadline then some (min interval (deadline - now)) else none

/-- Waits without bound. -/
def acquireBlocking (around : Surroundings ω) (interval : Nat) (attempt : ω → Bool × ω) :
    (rounds : Nat) → ω → Waited × ω
  | 0, w => (.waiting, w)
  | rounds + 1, w =>
    match attempt w with
    | (true, w) => (.acquired, w)
    | (false, w) => acquireBlocking around interval attempt rounds (around.pause interval w)

/-- Waits until the deadline passes or the token fires. -/
def acquireBounded (around : Surroundings ω) (interval : Nat) (bounds : Bounds)
    (attempt : ω → Bool × ω) : (rounds : Nat) → ω → Waited × ω
  | 0, w => (.waiting, w)
  | rounds + 1, w =>
    if bounds.token && around.fired w then (.gaveUp, w)
    else
      match attempt w with
      | (true, w) => (.acquired, w)
      | (false, w) =>
        match pauseLength interval bounds.deadline (around.now w) with
        | none => (.gaveUp, w)
        | some length =>
          acquireBounded around interval bounds attempt rounds (around.pause length w)

/-- Waits without bound, or attempts once. -/
def acquire (around : Surroundings ω) (interval : Nat) (attempt : ω → Bool × ω) (blocking : Bool)
    (rounds : Nat) (w : ω) : Waited × ω :=
  if blocking then acquireBlocking around interval attempt rounds w
  else
    let (granted, w) := attempt w
    (if granted then .acquired else .gaveUp, w)

end Lease

end BusMaster
