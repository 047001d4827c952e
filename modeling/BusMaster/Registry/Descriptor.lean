import BusMaster.Adapter.Workbench
import BusMaster.Address.Text

/-!
# Adapter types

An adapter type has a name, a description of its ports, its services, and a factory that makes
adapters of it. The simulated types are given here.

* `Descriptor`: an adapter type.
* `Descriptor.simulated`: adapters on a wire of their own, with the devices that properties list.
* `Descriptor.onWire`: adapters that share one wire.
-/

namespace BusMaster.Registry

/-- How a factory looks properties up. -/
abbrev Lookup :=
  String → Option String

/-- An adapter type. -/
structure Descriptor where
  name : String
  portType : String
  capabilities : Capabilities
  /-- Makes a fresh adapter, and the wires that it needs. -/
  factory : Lookup → Wires → Except BusError (Adapter Hardware × Wires)

/-- The key of the devices on the wire of a simulated adapter, separated by commas. -/
def devicesKey : String := "onewire.simulator.devices"

/-- The key of the devices that start in alarm. -/
def alarmingKey : String := "onewire.simulator.alarming"

def simulatorPortType : String := "simulated bus (sim0-sim3)"

/-- The addresses listed under a key; none if the key has no value. -/
def addressList (lookup : Lookup) (key : String) : Except BusError (List Address) :=
  match lookup key with
  | some text => Address.parseList text
  | none => .ok []

namespace Descriptor

/-- The simulated type: every adapter has a wire of its own, with the devices listed under
`devicesKey`, and then those under `alarmingKey` in alarm. -/
def simulated (name : String) : Descriptor where
  name := name
  portType := simulatorPortType
  capabilities := ({} : Driver).capabilities
  factory lookup wires := do
    let devices ← addressList lookup devicesKey
    let alarming ← addressList lookup alarmingKey
    let wires := wires ++ [Network.populated devices alarming]
    return ((Hardware.simulated (wires.length - 1) {}).adapter name simulatorPortType wires, wires)

/-- The type whose adapters are drivers of one wire, and exclude each other there. -/
def onWire (name : String) (wire : Nat) : Descriptor where
  name := name
  portType := simulatorPortType
  capabilities := ({} : Driver).capabilities
  factory _ wires :=
    .ok ((Hardware.simulated wire {}).adapter name simulatorPortType wires, wires)

end Descriptor

end BusMaster.Registry
