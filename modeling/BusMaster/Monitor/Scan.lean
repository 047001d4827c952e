import BusMaster.Adapter.Basic
import BusMaster.Lease.Wait

/-!
# Scans

One enumeration in a session of its own, under the filter that the scan asks for.

* `ScanOptions`: what a scan looks for.
* `Adapter.scan`: acquires the bus, enumerates, and lets the bus go.
-/

namespace BusMaster

/-- What a scan looks for. -/
structure ScanOptions where
  alarmOnly : Bool := false
  skipReset : Bool := false
  /-- The families to report; every one if the list is empty. -/
  families : List UInt8 := []
  /-- The families to leave out, where `families` names none. -/
  excluded : List UInt8 := []
deriving DecidableEq, Repr

def ScanOptions.filter (options : ScanOptions) : FamilyFilter :=
  if !options.families.isEmpty then .only options.families
  else if !options.excluded.isEmpty then .excluding options.excluded
  else .all

/-- How a scan ends. -/
inductive ScanResult where
  | found (addresses : List Address)
  /-- The token fired before the bus was acquired. -/
  | cancelled
  | failed (error : BusError)
  /-- The scan was still going on when the limits on its rounds and passes were reached. -/
  | unsettled
deriving DecidableEq, Repr

def ScanResult.ofListing : Listing → ScanResult
  | .complete addresses => found addresses
  | .failed e => failed e
  | .unsettled => unsettled

namespace Adapter

variable {σ : Type}

/-- Enumerates the bus once under the options. -/
def scanSession (t : Transport σ) (options : ScanOptions) (b : Bus σ) : Listing × Bus σ :=
  (b.setFilter options.filter).devices t options.alarmOnly options.skipReset

/-- One scan: waits for the bus for up to `rounds` polls, unless the token has fired, and lets it go
however the enumeration ends. -/
def scan (t : Transport σ) (rounds : Nat) (options : ScanOptions) (cancelled : Bool)
    (a : Adapter σ) : ScanResult × Adapter σ :=
  let around : Surroundings (Adapter σ) := { Surroundings.quiet with fired := fun _ => cancelled }
  match Lease.acquireBounded around 0 { token := true } (tryAcquire t) rounds a with
  | (.gaveUp, a) => (.cancelled, a)
  | (.waiting, a) => (.unsettled, a)
  | (.acquired, a) =>
    match a.withSession (scanSession t options) with
    | none => (.unsettled, a)
    | some (listing, a) => (.ofListing listing, a.drop t)

end Adapter

end BusMaster
