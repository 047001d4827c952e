import BusMaster.Adapter.Bus

/-!
# Devices one by one

An enumeration as something to pull from: the first pull starts it, and once it has ended or failed
every later pull finds it ended, though the cursor itself would start anew.

* `Devices.next`: one pull.
* `Devices.collect`: all pulls, as one `Listing`.
-/

namespace BusMaster

/-- An enumeration and how far it has been pulled. -/
structure Devices where
  alarmOnly : Bool := false
  skipReset : Bool := false
  started : Bool := false
  done : Bool := false
deriving DecidableEq, Repr

/-- All that an enumeration reports. -/
inductive Listing where
  | complete (addresses : List Address)
  /-- The enumeration failed; what it had reported is left out. -/
  | failed (error : BusError)
  /-- The limit on pulls was reached before the end. -/
  | unsettled
deriving DecidableEq, Repr

/-- The listing with one more address before the others. -/
def Listing.cons (a : Address) : Listing → Listing
  | complete addresses => complete (a :: addresses)
  | other => other

namespace Devices

variable {σ : Type}

/-- Nothing comes after such an answer. -/
def isLast : Found → Bool
  | .finished | .failed _ => true
  | .device _ | .unsettled => false

/-- One pull. -/
def next (t : Transport σ) (d : Devices) (b : Bus σ) : Found × Devices × Bus σ :=
  if d.done then (.finished, d, b)
  else
    let (found, b) :=
      if d.started then b.findNext t else b.findFirst t d.alarmOnly d.skipReset
    (found, { d with started := true, done := isLast found }, b)

/-- At most `limit` pulls, up to the end or the first failure. -/
def collect (t : Transport σ) : (limit : Nat) → Devices → Bus σ → Listing × Bus σ
  | 0, _, b => (.unsettled, b)
  | limit + 1, d, b =>
    match d.next t b with
    | (.finished, _, b) => (.complete [], b)
    | (.failed e, _, b) => (.failed e, b)
    | (.unsettled, _, b) => (.unsettled, b)
    | (.device a, d, b) =>
      let (rest, b) := collect t limit d b
      (rest.cons a, b)

end Devices

/-- All devices of a new enumeration. A walk takes no more pulls than passes. -/
def Bus.devices {σ : Type} (t : Transport σ) (alarmOnly skipReset : Bool) (b : Bus σ) :
    Listing × Bus σ :=
  Devices.collect t (t.passLimit b.line) { alarmOnly, skipReset } b

end BusMaster
