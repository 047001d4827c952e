import BusMaster.Address.Basic
import BusMaster.Signal
import BusMaster.Capability

/-!
# A wire and what hangs on it

A simulated wire: the devices attached to it, the electrical state, the one claim that excludes
other drivers, and a log of what went over it.

* `Network`: the wire.
* `Network.attach`, `detach`, `setAlarming`, `queueResponse`: changes from outside.
* `Network.resetResult`, `Network.participants`: who answers a reset or takes part in a search.
-/

namespace BusMaster

/-- Something that happened on the wire. -/
inductive BusEvent where
  | reset (result : ResetResult)
  | search (opcode : UInt8) (lastDiscrepancy : Nat) (skipReset : Bool)
  | writeBit (bit : Bool)
  | readBit (bit : Bool)
  | writeByte (byte : UInt8)
  | readByte (byte : UInt8)
  /-- The bytes that a block transfer sent. -/
  | block (bytes : List UInt8)
  | speed (speed : Speed)
  | strongPullup
  | powerNormal
  | programPulse
deriving DecidableEq, Repr

/-- A device on the wire. -/
structure WireDevice where
  address : Address
  alarming : Bool
  /-- The bytes that it answers with once it is selected. -/
  responses : List UInt8 := []
deriving DecidableEq, Repr

/-- A wire with its devices, in the order in which they were attached. -/
structure Network where
  devices : List WireDevice := []
  /-- Adapter hardware is plugged in. -/
  adapterPresent : Bool := true
  /-- Selecting a port fails. -/
  portError : Bool := false
  /-- The probe for adapter hardware fails. -/
  probeError : Bool := false
  short : Bool := false
  /-- The number of drivers with a port selected. -/
  attachedPorts : Nat := 0
  /-- Some driver holds the exclusive open. -/
  claimed : Bool := false
  strongPullup : Bool := false
  programPulses : Nat := 0
  /-- What happened, the latest event last. -/
  traffic : List BusEvent := []
deriving DecidableEq, Repr

namespace Network

def addresses (net : Network) : List Address :=
  net.devices.map (·.address)

/-- A device with that address is on the wire. -/
def isAttached (net : Network) (a : Address) : Bool :=
  net.addresses.contains a

def log (net : Network) (event : BusEvent) : Network :=
  { net with traffic := net.traffic ++ [event] }

/-- Changes the devices with that address. -/
def modify (net : Network) (a : Address) (change : WireDevice → WireDevice) : Network :=
  { net with devices := net.devices.map fun d => if d.address = a then change d else d }

/-- Attaches a device. One that is there already only takes over the alarm condition. -/
def attach (net : Network) (a : Address) (alarming : Bool) : Network :=
  if net.isAttached a then net.modify a ({ · with alarming })
  else { net with devices := net.devices ++ [{ address := a, alarming }] }

/-- Takes a device off the wire; whether it was there. -/
def detach (net : Network) (a : Address) : Bool × Network :=
  (net.isAttached a, { net with devices := net.devices.filter (·.address != a) })

/-- Changes the alarm condition of a device; whether it is there. -/
def setAlarming (net : Network) (a : Address) (alarming : Bool) : Bool × Network :=
  (net.isAttached a, net.modify a ({ · with alarming }))

/-- Queues bytes for a device to answer with; whether it is there. -/
def queueResponse (net : Network) (a : Address) (bytes : List UInt8) : Bool × Network :=
  (net.isAttached a, net.modify a fun d => { d with responses := d.responses ++ bytes })

/-- A wire with quiet devices, and then alarming ones. -/
def populated (quiet alarming : List Address) : Network :=
  alarming.foldl (·.attach · true) (quiet.foldl (·.attach · false) {})

/-- What answers a reset pulse. -/
def resetResult (net : Network) : ResetResult :=
  if net.short then .short
  else if net.devices.isEmpty then .noPresence
  else if net.devices.any (·.alarming) then .alarmPresence
  else .presence

/-- The addresses that take part in a search. -/
def participants (net : Network) (command : SearchCommand) : List Address :=
  (net.devices.filter fun d => command = .normal || d.alarming).map (·.address)

/-- The next byte that the device answers with, taken from its queue. -/
def takeResponse (net : Network) (a : Address) : Option UInt8 × Network :=
  match net.devices.find? (·.address = a) with
  | some { responses := byte :: rest, .. } =>
    (some byte, net.modify a ({ · with responses := rest }))
  | _ => (none, net)

end Network

end BusMaster
