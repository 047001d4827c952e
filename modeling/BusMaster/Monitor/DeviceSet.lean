import BusMaster.Address.Text

/-!
# Changes between scans

The devices that the last scan saw, kept in the order of their bytes, and the events that lead from
one such set to the next: departures first, then arrivals.

* `DeviceSet.ofScan`: the addresses of a scan, each once, in order.
* `DeviceSet.update`: the next set and the events.
-/

namespace BusMaster

/-- A device came or went. -/
inductive WatchEvent where
  | arrived (address : Address)
  | departed (address : Address)
deriving DecidableEq, Repr

/-- The devices seen by the last scan, in ascending order of their bytes. -/
structure DeviceSet where
  known : List Address := []
deriving DecidableEq, Repr

namespace DeviceSet

/-- Puts an address before the first greater one, unless it is there already. -/
def insert (a : Address) : List Address → List Address
  | [] => [a]
  | b :: rest => if a < b then a :: b :: rest else if a = b then b :: rest else b :: insert a rest

/-- The addresses of a scan in order, each once. -/
def ofScan (scan : List Address) : DeviceSet :=
  ⟨scan.foldl (fun known a => insert a known) []⟩

def size (devices : DeviceSet) : Nat :=
  devices.known.length

/-- The devices of a new scan, and what changed: departures, then arrivals, each in order. -/
def update (devices : DeviceSet) (scan : List Address) : List WatchEvent × DeviceSet :=
  let current := ofScan scan
  let departures := devices.known.filter (!current.known.contains ·)
  let arrivals := current.known.filter (!devices.known.contains ·)
  (departures.map .departed ++ arrivals.map .arrived, current)

end DeviceSet

end BusMaster
