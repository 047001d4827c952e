import BusMaster.Transport.Basic

/-!
# The cursor of a search

What an enumeration remembers between two passes: where it branched last and took the zeros, the
address found there, and the options it was started with.
-/

namespace BusMaster

/-- Where an enumeration stands. -/
structure SearchCursor where
  /-- The branch point to take next; 0 before the first pass. -/
  lastDiscrepancy : Nat := 0
  /-- The address that the latest pass found. -/
  current : Address := ⟨0⟩
  alarmOnly : Bool := false
  skipReset : Bool := false
  /-- No branch is left, so the next request ends the enumeration. -/
  exhausted : Bool := false
deriving DecidableEq, Repr

namespace SearchCursor

/-- Back before the first pass, with the same options. -/
def restart (c : SearchCursor) : SearchCursor :=
  { c with lastDiscrepancy := 0, current := ⟨0⟩, exhausted := false }

/-- The next pass of the enumeration. -/
def pass (c : SearchCursor) : SearchPass where
  seed := c.current
  lastDiscrepancy := c.lastDiscrepancy
  command := .ofAlarmOnly c.alarmOnly
  skipReset := c.skipReset

/-- The cursor after a pass that found an address. Nothing is left once the discrepancy stays where
it was. -/
def advance (c : SearchCursor) (answer : SearchAnswer) : SearchCursor :=
  { c with
    lastDiscrepancy := answer.lastDiscrepancy
    current := answer.address
    exhausted := answer.lastDiscrepancy = c.lastDiscrepancy }

end SearchCursor

end BusMaster
