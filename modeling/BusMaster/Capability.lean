/-!
# What an adapter can do

Bus speeds and electrical services beyond the plain reset, bit and byte are optional: an adapter
type says which of them it has (`Capabilities`), and an operation that needs one names it
(`Capability`, `Speed.required`).
-/

namespace BusMaster

/-- One optional service of an adapter. -/
inductive Capability where
  | overdrive
  | hyperdrive
  | flexSpeed
  | powerDelivery
  | programPulse
deriving DecidableEq, Repr

/-- The service as named in messages. -/
def Capability.description : Capability → String
  | overdrive => "overdrive speed"
  | hyperdrive => "hyperdrive speed"
  | flexSpeed => "flexible speed"
  | powerDelivery => "strong power delivery"
  | programPulse => "program pulse delivery"

/-- The optional services of an adapter type. -/
structure Capabilities where
  overdrive : Bool := false
  hyperdrive : Bool := false
  flexSpeed : Bool := false
  powerDelivery : Bool := false
  programPulse : Bool := false
deriving DecidableEq, Repr

namespace Capabilities

/-- Every service. -/
def all : Capabilities :=
  { overdrive := true, hyperdrive := true, flexSpeed := true, powerDelivery := true,
    programPulse := true }

def supports (c : Capabilities) : Capability → Bool
  | .overdrive => c.overdrive
  | .hyperdrive => c.hyperdrive
  | .flexSpeed => c.flexSpeed
  | .powerDelivery => c.powerDelivery
  | .programPulse => c.programPulse

end Capabilities

/-- The speeds at which a bus can run. -/
inductive Speed where
  | regular
  | flex
  | overdrive
  | hyperdrive
deriving DecidableEq, Repr

/-- The service that running at a speed takes: none for the regular one. -/
def Speed.required : Speed → Option Capability
  | regular => none
  | flex => some .flexSpeed
  | overdrive => some .overdrive
  | hyperdrive => some .hyperdrive

end BusMaster
