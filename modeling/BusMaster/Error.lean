import BusMaster.Capability

/-!
# Errors of the bus

`BusError` lists the causes for which an operation fails; `BusError.message` words them.
-/

namespace BusMaster

/-- Why an operation failed. -/
inductive BusError where
  /-- The adapter cannot be attached to the port. -/
  | portUnavailable (adapter port : String)
  /-- The port could be opened, but no adapter hardware answers on it. -/
  | adapterNotDetected (adapter port : String)
  | adapterNotFound (adapter : String)
  | capabilityUnsupported (capability : Capability)
  | unsupportedSetting (setting : String)
  | portNotSelected
  /-- The bus or its adapter did not work as it should; trying again may help. -/
  | io (failure : String)
  | invalidAddress (text : String)
deriving DecidableEq, Repr

namespace BusError

/-- The error as it is shown to a user. -/
def message : BusError → String
  | portUnavailable adapter port =>
    s!"Specified port \"{port}\" could not be selected for adapter \"{adapter}\""
  | adapterNotDetected adapter port =>
    s!"Port found \"{port}\" but adapter \"{adapter}\" not detected"
  | adapterNotFound adapter => s!"Specified adapter name \"{adapter}\" is not known"
  | capabilityUnsupported capability =>
    s!"Adapter does not support {capability.description}"
  | unsupportedSetting setting => s!"Adapter cannot apply setting: {setting}"
  | portNotSelected => "No port selected"
  | io failure => s!"Bus I/O error: {failure}"
  | invalidAddress text => s!"Invalid device address: {text}"

/-- The failure came from the bus, not from selection or configuration. -/
def isIo : BusError → Bool
  | io _ => true
  | _ => false

end BusError

end BusMaster
