import BusMaster.CommandLine.Arguments
import BusMaster.Monitor.Watch
import BusMaster.Registry.Basic
import BusMaster.Text.ControlSequence

/-!
# Running the command line

What an invocation prints and how it ends, given the files and the environment. Only a watch goes on
by itself; it is handed back to be run tick by tick.

* `Outcome`: how a run ends.
* `report`: the texts for the adapters, and for the devices of a scan.
* `run`: the outcome of a list of words.
-/

namespace BusMaster.CommandLine

/-- How a run ends, or the watch that it starts. -/
inductive Outcome where
  | done (exit : Nat) (output : String) (error : Option String)
  | watching (bench : Workbench) (adapter : Nat) (scan : ScanOptions) (interval : Nat) (json : Bool)

/-- Why a command fails. -/
inductive Failure where
  | badDefine (text : String)
  | zeroInterval
  /-- No adapter could be opened. -/
  | notOpened (cause : BusError)
  | bus (cause : BusError)
  /-- The bus is held by another party. -/
  | busy
deriving DecidableEq, Repr

/-- Every line but the first moved four places to the right. -/
def indent (text : String) : String :=
  .ofList (text.toList.flatMap fun c => if c = '\n' then "\n    ".toList else [c])

def Failure.message : Failure → String
  | badDefine text => s!"Property \"{text}\" is not of the form key=value"
  | zeroInterval => "Watch interval must be at least one second"
  | notOpened cause => s!"Failed to open adapter\n\nCaused by:\n    {indent cause.message}"
  | bus cause => cause.message
  | busy => "The bus is held by another session"

/-- A failure as it is reported, without the blanks at its end. -/
def Failure.report (failure : Failure) : String :=
  .ofList (("Error: " ++ failure.message).toList.reverse.dropWhile Text.isBlank).reverse

/-- A text in a style of the terminal, and back to the plain style. -/
def styled (style text : String) : String :=
  s!"\x1b[{style}m{text}\x1b[0m"

/-- A refused value as it is told on a terminal. -/
def invalidValueText (value slot reason : String) : String :=
  "\x1b[1m" ++ styled "31" "error:" ++ " invalid value '" ++ styled "33" value ++ "' for '"
    ++ styled "1" slot ++ "': " ++ reason ++ "\n\nFor more information, try '"
    ++ styled "1" "--help" ++ "'.\n"

/-- The first line of a text, without the line feed or the carriage return and line feed that ends
it. -/
def firstLine (text : List Char) : List Char :=
  let line := text.takeWhile (· != '\n')
  if line.length < text.length ∧ line.getLast? = some '\r' then line.dropLast else line

/-- The variable that asks for styles in any case. -/
def forcedStyles : String := "CLICOLOR_FORCE"

/-- The variable that forbids styles. -/
def forbiddenStyles : String := "NO_COLOR"

/-- Whether a report keeps its styles though it need not go to a terminal. A variable with an empty
value counts as unset. -/
def keepsStyles (environment : Registry.Environment) : Bool :=
  let isSet (name : String) := (environment.lookup name).any (· != some "")
  isSet forcedStyles && !isSet forbiddenStyles

/-- A mistake on the command line as it is reported, if it is about a value: the first line. Unless
the styles are kept they are taken out, and with them what the value has of control sequences, even
if it opens one that the text around it closes. -/
def Stop.report (keepsStyles : Bool) : Stop → Option String
  | .invalidValue value slot reason =>
    let text := (invalidValueText value slot reason).toList
    some (.ofList (firstLine (if keepsStyles then text else Text.ControlSequence.strip text)))
  | _ => none

/-- Lines with an end after each. -/
def text (lines : List String) : String :=
  .join (lines.map (· ++ "\n"))

/-! ## Reports -/

def versionLines (lookup : Registry.Lookup) : List String :=
  let setting (key : String) := (lookup key).getD ""
  [s!"1-Wire bus master v{version}",
    s!"Default adapter: {setting Registry.defaultAdapterKey}",
    s!"   Default port: {setting Registry.defaultPortKey}"]

/-- What is told of an adapter. -/
def adapterLines (adapter : Adapter (Wires × Hardware)) : List String :=
  let transport := Hardware.transport
  let version := ((adapter.transportVersion transport).map (·.1)).getD ""
  let ports := ((adapter.portNames transport).map (·.1)).getD []
  let c := adapter.capabilities
  [s!"  - {adapter.name} ({adapter.portType})",
    s!"    Version: {version}",
    "    Ports: " ++ ", ".intercalate ports,
    s!"    Overdrive: {c.overdrive}  Hyperdrive: {c.hyperdrive}  Flex: {c.flexSpeed}"
      ++ s!"  Power: {c.powerDelivery}  Program: {c.programPulse}"]

/-- The adapters of an enumeration, and what was left out. -/
def enumerationLines (bench : Workbench) (seen : Registry.Enumeration) : List String :=
  s!"Found {seen.adapters.length} adapter(s):" ::
    (seen.adapters.filterMap bench.adapter?).flatMap
      (fun adapter => adapterLines (adapter.map fun hardware => (bench.wires, hardware)))
    ++ seen.skipped.map fun skipped => s!"  ! {skipped.name}: {skipped.reason.message}"

/-- The devices found, as lines. -/
def deviceLines (found : List Address) : List String :=
  s!"Discovered {found.length} devices:" ::
    found.flatMap fun a =>
      s!"  - {a}" :: if a.hasValidChecksum then [] else ["    CRC: invalid"]

/-- The devices found, as a document. -/
def deviceReport (name : String) (port : Option String) (found : List Address) : Json :=
  .object
    [("adapter", .string name),
      ("port", (port.map Json.string).getD .null),
      ("devices", .array <| found.map fun a =>
        .object
          [("address", .ofAddress a),
            ("family", .string (.ofList (Text.hexByte a.family))),
            ("crc_valid", .bool a.hasValidChecksum)])]

/-! ## Commands -/

/-- The setting that a text `key=value` makes, without the blanks around key and value. -/
def readDefine (text : String) : Except Failure (String × String) :=
  let key := text.toList.takeWhile (· != '=')
  match (text.toList.dropWhile (· != '=')).tail? with
  | some value => .ok (.ofList (Text.trim key), .ofList (Text.trim value))
  | none => .error (.badDefine text)

/-- The configuration that the settings ask for, its pairs apart. -/
def Invocation.places (invocation : Invocation) : Registry.Config :=
  let config : Registry.Config := { useEnvironment := !invocation.noEnvironment }
  match invocation.properties with
  | some path => { config with searchPaths := [path] }
  | none => config

/-- The registry that the settings ask for. -/
def Invocation.registry (invocation : Invocation) : Except Failure Registry := do
  let pairs ← invocation.defines.mapM readDefine
  let properties : Properties := pairs.foldl (fun props (key, value) => props.insert key value) {}
  return .withSimulator { invocation.places with properties }

/-- The properties files that a run of these words can read. -/
def searchPaths (words : List String) : List String :=
  match Invocation.read words with
  | .ok invocation => invocation.places.searchPaths
  | .error _ => []

/-- Opens the adapter and port named, or else those of the settings. Nobody else is on the wires of
a run, so the first attempt at a session succeeds. -/
def openAdapter (invocation : Invocation) (registry : Registry) (sources : Registry.Sources) :
    Except Failure (Nat × Workbench) :=
  let lookup := registry.resolve sources {}
  let name := invocation.adapter.getD ((lookup Registry.defaultAdapterKey).getD "")
  let port := invocation.port.getD ((lookup Registry.defaultPortKey).getD "")
  match registry.get sources .quiet 1 name port {} with
  | (.adapter number, bench) => .ok (number, bench)
  | (.failed e, _) => .error (.notOpened e)
  | (.waiting, _) => .error .busy

/-- Looks for the devices of an adapter. -/
def runSearch (bench : Workbench) (number : Nat) (scan : ScanOptions) (json : Bool) :
    Except Failure String :=
  match bench.use number (·.scan Hardware.transport 1 scan false) with
  | some (.found found, bench) =>
    if json then
      let adapter := bench.adapter? number
      let name := (adapter.map (·.name)).getD ""
      .ok (text [(deviceReport name (adapter.bind (·.portName)) found).pretty])
    else .ok (text (deviceLines found))
  | some (.failed e, _) => .error (.bus e)
  | _ => .error .busy

/-- Whether a device answers, in a session of its own. -/
def runPresent (bench : Workbench) (number : Nat) (a : Address) (alarm : Bool) :
    Except Failure Bool :=
  let (granted, bench) := bench.tryAcquire number
  let check (b : Bus (Wires × Hardware)) :=
    if alarm then b.isAlarming Hardware.transport a else b.isPresent Hardware.transport a
  match granted, bench.use number fun adapter =>
    match adapter.withSession check with
    | some (answer, adapter) => (answer, adapter.drop Hardware.transport)
    | none => (false, adapter) with
  | true, some (answer, _) => .ok answer
  | _, _ => .error .busy

/-- Runs the command of an invocation. -/
def Invocation.run (invocation : Invocation) (sources : Registry.Sources) :
    Except Failure Outcome := do
  let registry ← invocation.registry
  match invocation.command with
  | .version => return .done 0 (text (versionLines (registry.resolve sources {}))) none
  | .adapters =>
    let (seen, bench) := registry.enumerate sources {}
    return .done 0 (text (enumerationLines bench seen)) none
  | .search scan json =>
    let (number, bench) ← openAdapter invocation registry sources
    return .done 0 (← runSearch bench number scan json) none
  | .present a alarm =>
    let (number, bench) ← openAdapter invocation registry sources
    let answered ← runPresent bench number a alarm
    let verdict := if answered then "yes" else "no"
    return .done (if answered then 0 else 1) (text [s!"{a}: {verdict}"]) none
  | .watch scan interval json =>
    if interval = 0 then throw .zeroInterval
    let (number, bench) ← openAdapter invocation registry sources
    return .watching bench number scan interval json

/-- The outcome of the words after the program's name. A mistake among them ends the run with
status 2, a failure of the command with status 1. -/
def run (sources : Registry.Sources) (words : List String) : Outcome :=
  match Invocation.read words with
  | .error .version => .done 0 (text [s!"onewire {version}"]) none
  | .error .help => .done 0 "" none
  | .error stop => .done 2 "" (stop.report (keepsStyles sources.environment))
  | .ok invocation =>
    match invocation.run sources with
    | .ok outcome => outcome
    | .error failure => .done 1 "" (some failure.report)

/-! ## Watches -/

/-- One tick of a watch: a scan of an adapter's bus, and what it comes to. -/
def watchTick (bench : Workbench) (number : Nat) (scan : ScanOptions) (devices : DeviceSet) :
    Tick × Workbench :=
  match bench.use number (·.scan Hardware.transport 1 scan false) with
  | some (result, bench) => (devices.observe result, bench)
  | none => (.stop .running, bench)

/-- The lines that a watch prints in its first ticks, and how it stands after them. -/
def watchLines (bench : Workbench) (number : Nat) (scan : ScanOptions) (json : Bool)
    (rounds ticks : Nat) : List String × WatchEnd :=
  match bench.use number (Adapter.watch Hardware.transport rounds scan ticks {}) with
  | some ((events, ending), _) => (events.map (WatchEvent.line json), ending)
  | none => ([], .running)

/-- The status and the report with which a run ends whose watch stands like that: only a failure is
one. -/
def watchExit : WatchEnd → Nat × Option String
  | .failed e => (1, some (Failure.bus e).report)
  | .running | .cancelled => (0, none)

end BusMaster.CommandLine
