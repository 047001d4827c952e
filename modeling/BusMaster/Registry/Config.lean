import BusMaster.Properties.File

/-!
# Configuration of the registry

Where settings come from: pairs set by the program, the environment, properties files, and defaults
for the adapter and the port.

* `Config`: the pairs, whether the environment counts, and the files to look in.
* `environmentName`: the variable that stands for a key.
* `Config.runtimeValue`, `Config.fileValue`, `defaultValue`: the value of a key in each tier.
-/

namespace BusMaster.Registry

/-- The key of the adapter type to open when none is named. -/
def defaultAdapterKey : String := "onewire.adapter.default"

/-- The key of the port to open when none is named. -/
def defaultPortKey : String := "onewire.port.default"

/-- The adapter type of last resort, which every registry can come with. -/
def simulatorName : String := "SimulatedAdapter"

/-- The port of last resort. -/
def simulatorPort : String := "sim0"

/-- The key of registration slot `slot`. -/
def registerKey (slot : Nat) : String :=
  s!"onewire.register.adapter{slot}"

/-- How many registration slots there are. -/
def registerSlots : Nat := 16

/-- Where settings are looked up. -/
structure Config where
  /-- Pairs that win over every other source. -/
  properties : Properties := {}
  /-- The environment is looked at too. -/
  useEnvironment : Bool := false
  /-- The properties files, the first one first. -/
  searchPaths : List String := ["./onewire.properties", "/etc/onewire.properties"]

/-- The environment: for each variable its value, or nothing if the value is no text. -/
abbrev Environment :=
  List (String × Option String)

/-- The variable that stands for a key: ASCII letters in upper case and digits stay, every other
character is an underscore. -/
def environmentName (key : String) : String :=
  key.map fun c => if c.isAlphanum then c.toUpper else '_'

namespace Config

/-- The value set by the program, or else the one in the environment. A variable that holds no text
counts as unset. -/
def runtimeValue (config : Config) (environment : Environment) (key : String) : Option String :=
  (config.properties.get? key).or <|
    if config.useEnvironment then (environment.lookup (environmentName key)).join else none

/-- The value in the first file that gives one. A file that is missing or cannot be read is passed
over. -/
def fileValue (config : Config) (read : FileReader) (key : String) : Option String :=
  config.searchPaths.findSome? fun path =>
    match Properties.load read path with
    | .ok (some props) => props.get? key
    | _ => none

end Config

/-- The value of last resort, for the adapter and the port alone. -/
def defaultValue (key : String) : Option String :=
  if key = defaultAdapterKey then some simulatorName
  else if key = defaultPortKey then some simulatorPort
  else none

end BusMaster.Registry
