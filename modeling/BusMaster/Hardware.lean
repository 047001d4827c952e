import BusMaster.Transport.Record
import BusMaster.Transport.Script
import BusMaster.Wire.Driver

/-!
# Hardware

The transports at hand: drivers of simulated wires and scripted ones. Drivers share wires, so the
wires are kept apart from the hardware, and a driver knows its wire by number.

* `Wires`: the wires.
* `Hardware`: a driver on one of them, or a script with a record of its calls.
* `Hardware.transport`: both as one transport.
-/

namespace BusMaster

/-- The wires, each known by its place in the list. -/
abbrev Wires :=
  List Network

namespace Wires

def wire (wires : Wires) (number : Nat) : Network :=
  wires.getD number {}

end Wires

/-- What an adapter drives its bus through. -/
inductive Hardware where
  /-- A driver of the wire of that number. -/
  | simulated (wire : Nat) (driver : Driver)
  /-- A scripted transport, and the calls made to it. -/
  | scripted (script : Script) (calls : List Call)

namespace Hardware

/-- Runs a step on the hardware, whichever kind it is. -/
def run {α : Type} (onWire : Network × Driver → α × Network × Driver)
    (onScript : Script × List Call → α × Script × List Call) :
    Wires × Hardware → α × Wires × Hardware
  | (wires, .simulated number driver) =>
    let (answer, net, driver) := onWire (wires.wire number, driver)
    (answer, wires.set number net, .simulated number driver)
  | (wires, .scripted script calls) =>
    let (answer, script, calls) := onScript (script, calls)
    (answer, wires, .scripted script calls)

/-- The hardware with the wires as a transport. -/
def transport : Transport (Wires × Hardware) where
  ask query := run (Driver.transport.ask query) (Script.transport.recorded.ask query)
  beginExclusive := run Driver.transport.beginExclusive Script.transport.recorded.beginExclusive
  endExclusive s :=
    (run (((), Driver.transport.endExclusive ·)) (((), Script.transport.recorded.endExclusive ·))
      s).2
  perform primitive :=
    run (Driver.transport.perform primitive) (Script.transport.recorded.perform primitive)
  passLimit
    | (wires, .simulated number driver) =>
      Driver.transport.passLimit (wires.wire number, driver)
    | (_, .scripted script calls) => Script.transport.recorded.passLimit (script, calls)

/-- The calls recorded so far. -/
def calls : Hardware → List Call
  | simulated _ _ => []
  | scripted _ calls => calls

end Hardware

end BusMaster
