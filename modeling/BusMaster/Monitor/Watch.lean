import BusMaster.Json.Decode
import BusMaster.Monitor.DeviceSet
import BusMaster.Monitor.Scan

/-!
# Watching a bus

Scans one after the other, and the events between them. A scan that fails on the bus changes nothing
and the next one tries again; any other failure and a cancelled scan end the watch.

* `WatchEvent.line`: an event as it is printed.
* `DeviceSet.observe`: what one scan comes to; `DeviceSet.watch`: what a course of scans comes to.
* `Adapter.watch`: the watch of an adapter's bus.
-/

namespace BusMaster

namespace WatchEvent

def toJson : WatchEvent → Json
  | arrived a => .object [("event", .string "arrived"), ("address", .ofAddress a)]
  | departed a => .object [("event", .string "departed"), ("address", .ofAddress a)]

/-- The event as a line, in JSON or with a sign before the address. -/
def line (json : Bool) (event : WatchEvent) : String :=
  if json then event.toJson.compact
  else
    match event with
    | arrived a => s!"+ {a}"
    | departed a => s!"- {a}"

end WatchEvent

/-- How a watch stands. -/
inductive WatchEnd where
  /-- The scans looked at did not end it. -/
  | running
  | cancelled
  | failed (error : BusError)
deriving DecidableEq, Repr

/-- What a scan comes to: the watch goes on with other devices, or it ends. -/
inductive Tick where
  | goOn (events : List WatchEvent) (devices : DeviceSet)
  | stop (ending : WatchEnd)
deriving DecidableEq, Repr

namespace DeviceSet

/-- What the result of a scan comes to. -/
def observe (devices : DeviceSet) : ScanResult → Tick
  | .found addresses =>
    let (events, devices) := devices.update addresses
    .goOn events devices
  | .cancelled => .stop .cancelled
  | .failed e => if e.isIo then .goOn [] devices else .stop (.failed e)
  | .unsettled => .stop .running

/-- The events of a course of scans, the devices known after it, and how the watch stands. -/
def watch : List ScanResult → DeviceSet → List WatchEvent × DeviceSet × WatchEnd
  | [], devices => ([], devices, .running)
  | result :: rest, devices =>
    match devices.observe result with
    | .stop ending => ([], devices, ending)
    | .goOn events devices =>
      let (more, devices, ending) := watch rest devices
      (events ++ more, devices, ending)

end DeviceSet

/-- At most `ticks` scans of an adapter's bus, each waiting for it up to `rounds` polls: the events,
and how the watch stands. -/
def Adapter.watch {σ : Type} (t : Transport σ) (rounds : Nat) (options : ScanOptions) :
    (ticks : Nat) → DeviceSet → Adapter σ → (List WatchEvent × WatchEnd) × Adapter σ
  | 0, _, a => (([], .running), a)
  | ticks + 1, devices, a =>
    let (result, a) := a.scan t rounds options false
    match devices.observe result with
    | .stop ending => (([], ending), a)
    | .goOn events devices =>
      let ((more, ending), a) := watch t rounds options ticks devices a
      ((events ++ more, ending), a)

end BusMaster
