import BusMaster.Search.Cursor
import BusMaster.Search.Filter

/-!
# Enumerating a bus

The search over any transport: each pass finds one address, and the cursor leads it to the next one.

* `Search.step`: one pass.
* `Search.findNext`, `Search.findFirst`: passes until the filter lets an address through.
* `Search.verify`: whether exactly one given address answers.
* `Search.select`: addresses one device.
-/

namespace BusMaster

/-- What a request to an enumeration comes to. -/
inductive Found where
  | device (address : Address)
  /-- Every device was reported. -/
  | finished
  | failed (error : BusError)
  /-- The limit on passes was reached before anything else. -/
  | unsettled
deriving DecidableEq, Repr

namespace Search

variable {σ : Type}

/-- One pass of an enumeration. A pass that no device answers ends it, and so does the request after
the last branch; both leave the cursor before the first pass. A pass that fails leaves nothing to go
on with. -/
def step (t : Transport σ) (c : SearchCursor) (s : σ) : Found × SearchCursor × σ :=
  if c.exhausted then (.finished, c.restart, s)
  else
    match t.perform (.search c.pass) s with
    | (.error e, s) => (.failed e, { c with exhausted := true }, s)
    | (.ok answer, s) =>
      if addressBits < answer.lastDiscrepancy then (.finished, c.restart, s)
      else (.device answer.address, c.advance answer, s)

/-- The next address that the filter lets through, within `limit` passes. An address that it holds
back moves the cursor on all the same. -/
def findNext (t : Transport σ) (filter : FamilyFilter) :
    (limit : Nat) → SearchCursor → σ → Found × SearchCursor × σ
  | 0, c, s => (.unsettled, c, s)
  | limit + 1, c, s =>
    match step t c s with
    | (.device a, c, s) =>
      if filter.accepts a then (.device a, c, s) else findNext t filter limit c s
    | other => other

/-- The first address of a new enumeration. -/
def findFirst (t : Transport σ) (filter : FamilyFilter) (limit : Nat) (alarmOnly skipReset : Bool)
    (c : SearchCursor) (s : σ) : Found × SearchCursor × σ :=
  findNext t filter limit { c.restart with alarmOnly, skipReset } s

/-- Whether exactly this address answers: a pass that replays it up to its last bit comes out at
it. -/
def verify (t : Transport σ) (a : Address) (command : SearchCommand) (skipReset : Bool) (s : σ) :
    Except BusError Bool × σ :=
  let (answer, s) := t.perform (.search ⟨a, addressBits, command, skipReset⟩) s
  (answer.map fun found => found.lastDiscrepancy ≤ addressBits && found.address == a, s)

/-- Resets the bus and addresses one device; whether any device was there to be addressed. -/
def select (t : Transport σ) (a : Address) (s : σ) : Except BusError Bool × σ :=
  match t.perform .reset s with
  | (.error e, s) => (.error e, s)
  | (.ok result, s) =>
    if result.isPresent then
      let (answer, s) := t.perform (.transfer (matchRom :: a.bytes)) s
      (answer.map fun _ => true, s)
    else (.ok false, s)

end Search

end BusMaster
