import BusMaster.Adapter.Basic
import BusMaster.Hardware

/-!
# The workbench

All wires there are, the adapters, and drivers that stand alone. Each is known by number, so that
two parties can hold the same one, and an operation on an adapter or driver takes its wire along.

* `Workbench.enroll`: a new adapter.
* `Workbench.use`, `useDriver`, `useWire`: an operation on one of them.
* `Workbench.tryAcquire`: one attempt at the session of an adapter.
-/

namespace BusMaster

/-- Wires, adapters and drivers, each known by its place. -/
structure Workbench where
  wires : Wires := []
  adapters : List (Adapter Hardware) := []
  /-- Drivers outside of any adapter, each with the number of its wire. -/
  drivers : List (Nat × Driver) := []

namespace Workbench

variable {α : Type}

/-- An adapter under a new number. -/
def enroll (bench : Workbench) (adapter : Adapter Hardware) : Nat × Workbench :=
  (bench.adapters.length, { bench with adapters := bench.adapters ++ [adapter] })

def adapter? (bench : Workbench) (number : Nat) : Option (Adapter Hardware) :=
  bench.adapters[number]?

/-- Runs an operation on an adapter and the wires; nothing if there is no such adapter. -/
def use (bench : Workbench) (number : Nat)
    (f : Adapter (Wires × Hardware) → α × Adapter (Wires × Hardware)) : Option (α × Workbench) :=
  (bench.adapter? number).map fun adapter =>
    let (answer, adapter) := f (adapter.map fun hardware => (bench.wires, hardware))
    (answer,
      { bench with
        wires := adapter.line.1
        adapters := bench.adapters.set number (adapter.map (·.2)) })

/-- Runs an operation on a wire. -/
def useWire (bench : Workbench) (number : Nat) (f : Network → α × Network) : α × Workbench :=
  let (answer, net) := f (bench.wires.wire number)
  (answer, { bench with wires := bench.wires.set number net })

/-- Runs an operation on a driver and its wire; nothing if there is no such driver. -/
def useDriver (bench : Workbench) (number : Nat)
    (f : Network × Driver → α × Network × Driver) : Option (α × Workbench) :=
  bench.drivers[number]?.map fun (wire, driver) =>
    let (answer, net, driver) := f (bench.wires.wire wire, driver)
    (answer,
      { bench with
        wires := bench.wires.set wire net
        drivers := bench.drivers.set number (wire, driver) })

/-- The driver closes its exclusive open. -/
def endExclusive (bench : Workbench) (driver : Nat) : Workbench :=
  ((bench.useDriver driver fun s => ((), Driver.endExclusive s)).map (·.2)).getD bench

/-- One attempt at the session of an adapter. -/
def tryAcquire (bench : Workbench) (number : Nat) : Bool × Workbench :=
  (bench.use number (Adapter.tryAcquire Hardware.transport)).getD (false, bench)

end Workbench

/-- A fresh adapter on a piece of hardware. -/
def Hardware.adapter (hardware : Hardware) (name portType : String) (wires : Wires) :
    Adapter Hardware :=
  (Adapter.create Hardware.transport name portType (wires, hardware)).map (·.2)

end BusMaster
