import BusMaster.Lease.Wait
import BusMaster.Registry.Config
import BusMaster.Registry.Descriptor

/-!
# The registry

The adapter types known, how their adapters are enumerated and opened, and how settings are
resolved. One adapter may be set to override all of it.

* `Registry.resolve`: the value of a key over all tiers.
* `Registry.entries`: what an enumeration goes through; `Registry.enumerate`: what comes of it.
* `Registry.get`, `Registry.getDefault`: an adapter opened on a port, its hardware probed.
-/

namespace BusMaster

namespace Registry

/-- How an adapter type entered the registry. -/
inductive Origin where
  /-- Enumerated always. -/
  | builtIn
  /-- Enumerated where a registration slot names it. -/
  | named
deriving DecidableEq, Repr

/-- Where settings come from at the moment of a call. -/
structure Sources where
  read : FileReader := fun _ => .ok none
  environment : Environment := []

/-- Why an entry gave no adapter. -/
inductive SkipReason where
  | failed (error : BusError)
  /-- A slot names a type that is not known. -/
  | unregistered
deriving DecidableEq, Repr

def SkipReason.message : SkipReason → String
  | failed e => s!"instantiation failed: {e.message}"
  | unregistered => "registered in properties, but not known"

structure Skipped where
  name : String
  reason : SkipReason
deriving DecidableEq, Repr

/-- What came of an enumeration, both lists in the order of the entries. -/
structure Enumeration where
  /-- The numbers of the adapters. -/
  adapters : List Nat := []
  skipped : List Skipped := []
deriving DecidableEq, Repr

/-- What an enumeration goes through: a type, or the name of none. -/
inductive Entry where
  | known (descriptor : Descriptor)
  | unknown (name : String)

/-- How opening an adapter ends. -/
inductive Opened where
  | adapter (number : Nat)
  | failed (error : BusError)
  /-- The bus was still held by another party after the rounds followed. -/
  | waiting
deriving DecidableEq, Repr

end Registry

/-- The adapter types known, and the adapter that overrides them if one is set. -/
structure Registry where
  config : Registry.Config := {}
  registrations : List (Registry.Descriptor × Registry.Origin) := []
  /-- The number of the adapter that stands for all. -/
  override : Option Nat := none

namespace Registry

/-- A registry with the simulated type built in. -/
def withSimulator (config : Config) : Registry where
  config := config
  registrations := [(.simulated simulatorName, .builtIn)]

def register (r : Registry) (descriptor : Descriptor) (origin : Origin) : Registry :=
  { r with registrations := r.registrations ++ [(descriptor, origin)] }

/-- The first type of that name. -/
def descriptor? (r : Registry) (name : String) : Option Descriptor :=
  (r.registrations.map (·.1)).find? (·.name == name)

/-! ## Settings -/

/-- What the override says of a key: its name is the default adapter, its port the default port. -/
def overrideValue (r : Registry) (bench : Workbench) (key : String) : Option String := do
  let adapter ← bench.adapter? (← r.override)
  if key = defaultAdapterKey then some adapter.name
  else if key = defaultPortKey then adapter.portName
  else none

/-- The value of a key in the first tier that has one: the override, the program, the environment,
the files, the defaults. -/
def resolve (r : Registry) (sources : Sources) (bench : Workbench) : Lookup := fun key =>
  (r.overrideValue bench key)
    |>.or (r.config.runtimeValue sources.environment key)
    |>.or (r.config.fileValue sources.read key)
    |>.or (defaultValue key)

/-! ## Enumeration -/

/-- The names in the registration slots, up to the first slot with no value. -/
def slotNames (lookup : Lookup) : List String :=
  ((List.range registerSlots).map fun slot => lookup (registerKey slot)).takeWhile (·.isSome)
    |>.filterMap fun value => value.map fun name => .ofList (Text.trim name.toList)

/-- What an enumeration goes through: the built-in types in order, then what the slots name. -/
def entries (r : Registry) (lookup : Lookup) : List Entry :=
  (r.registrations.filter (·.2 = .builtIn)).map (.known ·.1)
    ++ (slotNames lookup).map fun name =>
      match r.descriptor? name with
      | some descriptor => .known descriptor
      | none => .unknown name

/-- Takes up one entry: a fresh adapter, or the reason why there is none. -/
def visit (lookup : Lookup) (entry : Entry) (seen : Enumeration) (bench : Workbench) :
    Enumeration × Workbench :=
  match entry with
  | .unknown name => ({ seen with skipped := seen.skipped ++ [⟨name, .unregistered⟩] }, bench)
  | .known descriptor =>
    match descriptor.factory lookup bench.wires with
    | .error e => ({ seen with skipped := seen.skipped ++ [⟨descriptor.name, .failed e⟩] }, bench)
    | .ok (adapter, wires) =>
      let (number, bench) := { bench with wires }.enroll adapter
      ({ seen with adapters := seen.adapters ++ [number] }, bench)

/-- Takes up the entries in order. -/
def visitAll (lookup : Lookup) : List Entry → Enumeration → Workbench → Enumeration × Workbench
  | [], seen, bench => (seen, bench)
  | entry :: rest, seen, bench =>
    let (seen, bench) := visit lookup entry seen bench
    visitAll lookup rest seen bench

/-- Fresh adapters of every type available, and what was left out. An override stands alone. -/
def enumerate (r : Registry) (sources : Sources) (bench : Workbench) : Enumeration × Workbench :=
  match r.override with
  | some number => ({ adapters := [number] }, bench)
  | none =>
    let lookup := r.resolve sources bench
    visitAll lookup (r.entries lookup) {} bench

/-! ## Opening -/

/-- Waits for a session on the adapter, in a world that is the workbench. -/
def acquire (around : Surroundings Workbench) (rounds number : Nat) (bench : Workbench) :
    Waited × Workbench :=
  Lease.acquireBlocking around 0 (·.tryAcquire number) rounds bench

/-- Probes for adapter hardware in a session of its own, and frees the port unless it is there. -/
def probe (b : Bus (Wires × Hardware)) : Except BusError Bool × Bus (Wires × Hardware) :=
  match b.perform Hardware.transport .detect with
  | (.ok true, b) => (.ok true, b)
  | (answer, b) => (answer, (b.perform Hardware.transport .freePort).2)

/-- Attaches a fresh adapter to a port and probes for its hardware. -/
def openOn (around : Surroundings Workbench) (rounds : Nat) (name port : String) (number : Nat)
    (bench : Workbench) : Opened × Workbench :=
  match bench.use number fun a =>
    match a.selectPort Hardware.transport port with
    | some (answer, a) => (answer, a)
    | none => (.ok false, a) with
  | none => (.failed (.adapterNotFound name), bench)
  | some (.error _, bench) | some (.ok false, bench) =>
    (.failed (.portUnavailable name port), bench)
  | some (.ok true, bench) =>
    match acquire around rounds number bench with
    | (.acquired, bench) =>
      match bench.use number fun a =>
        match a.withSession probe with
        | some (answer, a) => (answer, a.drop Hardware.transport)
        | none => (.ok false, a) with
      | some (.ok true, bench) => (.adapter number, bench)
      | some (.ok false, bench) => (.failed (.adapterNotDetected name port), bench)
      | some (.error e, bench) => (.failed e, bench)
      | none => (.failed (.adapterNotFound name), bench)
    | (_, bench) => (.waiting, bench)

/-- The first adapter of that name, opened on the port. The override is given as it is. -/
def get (r : Registry) (sources : Sources) (around : Surroundings Workbench) (rounds : Nat)
    (name port : String) (bench : Workbench) : Opened × Workbench :=
  match r.override with
  | some number => (.adapter number, bench)
  | none =>
    let (seen, bench) := r.enumerate sources bench
    match seen.adapters.find? fun number =>
      (bench.adapter? number).any fun adapter => adapter.name == name with
    | none => (.failed (.adapterNotFound name), bench)
    | some number => openOn around rounds name port number bench

/-- The adapter and the port that the settings name. -/
def getDefault (r : Registry) (sources : Sources) (around : Surroundings Workbench) (rounds : Nat)
    (bench : Workbench) : Opened × Workbench :=
  let setting (key : String) := (r.resolve sources bench key).getD ""
  r.get sources around rounds (setting defaultAdapterKey) (setting defaultPortKey) bench

end Registry

end BusMaster
