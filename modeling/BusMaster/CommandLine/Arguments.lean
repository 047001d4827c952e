import BusMaster.Address.Text
import BusMaster.CommandLine.Grammar
import BusMaster.Monitor.Scan

/-!
# What the command line asks for

The options and commands of the program, and the invocation that a list of words stands for.

* `Invocation`: settings and a command.
* `readFamily`: a family code.
* `Invocation.read`: the invocation, or why there is none.
-/

namespace BusMaster.CommandLine

/-- What the program is asked to do. -/
inductive Command where
  | version
  | adapters
  | search (scan : ScanOptions) (json : Bool)
  | present (address : Address) (alarm : Bool)
  /-- Scans every `interval` seconds. -/
  | watch (scan : ScanOptions) (interval : Nat) (json : Bool)
deriving DecidableEq, Repr

/-- A command with the settings around it. -/
structure Invocation where
  /-- Properties written `key=value`. -/
  defines : List String
  /-- The properties file that takes the place of the usual ones. -/
  properties : Option String
  /-- The environment does not count. -/
  noEnvironment : Bool
  adapter : Option String
  port : Option String
  command : Command
deriving DecidableEq, Repr

/-- The slots of all commands. -/
inductive Key where
  | define
  | properties
  | noEnv
  | adapter
  | port
  | logLevel
  | alarm
  | noReset
  | family
  | exclude
  | json
  | address
  | interval
deriving DecidableEq, Repr

/-- The text without the marks `0` and `x` that it starts with. -/
def dropMarks (x : Char) : List Char → List Char
  | '0' :: c :: rest => if c = x then dropMarks x rest else '0' :: c :: rest
  | cs => cs

/-- A family code: hexadecimal digits after any number of `0x`, and then of `0X`. -/
def readFamily (text : String) : Except Text.NumeralError UInt8 :=
  Text.Numeral.readByte (dropMarks 'X' (dropMarks 'x' text.toList))

/-- A number of seconds, of 64 bits at most. -/
def readInterval (text : String) : Except Text.NumeralError Nat :=
  Text.Numeral.read 10 0xFFFFFFFFFFFFFFFF text.toList

def checkFamily (text : String) : Except Refusal Unit :=
  match readFamily text with
  | .ok _ => .ok ()
  | .error e => .error (.because s!"invalid family code \"{text}\": {e.message}")

def checkAddress (text : String) : Except Refusal Unit :=
  match Address.parse text with
  | .ok _ => .ok ()
  | .error e => .error (.because e.message)

def checkInterval (text : String) : Except Refusal Unit :=
  match readInterval text with
  | .ok _ => .ok ()
  | .error e => .error (.because e.message)

/-- A path is not empty. -/
def checkPath (text : String) : Except Refusal Unit :=
  if text.isEmpty then .error .missing else .ok ()

/-! ## Commands -/

def alarmSlot : Slot Key := { key := .alarm, long := "alarm" }

def jsonSlot : Slot Key := { key := .json, long := "json" }

/-- The options of a scan. -/
def scanSlots : List (Slot Key) :=
  [alarmSlot,
    { key := .noReset, long := "no-reset" },
    { key := .family, long := "family", short := some 'f', use := .many,
      shown := "--family <FAMILY>", separator := some ',', check := checkFamily },
    { key := .exclude, long := "exclude", short := some 'e', use := .many,
      shown := "--exclude <EXCLUDE>", separator := some ',', check := checkFamily }]

def mainLevel : Level Key where
  options :=
    [{ key := .define, long := "define", short := some 'D', use := .many },
      { key := .properties, long := "properties", short := some 'p', use := .single,
        check := checkPath },
      { key := .noEnv, long := "no-env" },
      { key := .adapter, long := "adapter", short := some 'a', use := .single },
      { key := .port, long := "port", use := .single },
      { key := .logLevel, long := "log-level", short := some 'l', use := .single }]
  subcommands := ["version", "adapters", "search", "present", "watch", "help"]
  showsVersion := true

/-- The slots of a command. -/
def commandLevel : String → Level Key
  | "search" => { options := scanSlots ++ [jsonSlot] }
  | "present" =>
    { options := [alarmSlot]
      positionals :=
        [{ key := .address, use := .single, shown := "<ADDRESS>", check := checkAddress }] }
  | "watch" =>
    { options := scanSlots ++
        [{ key := .interval, long := "interval", short := some 'i', use := .single,
           shown := "--interval <INTERVAL>", check := checkInterval },
          jsonSlot] }
  | _ => {}

def scanOptions (r : Reading Key) : ScanOptions where
  alarmOnly := r.has .alarm
  skipReset := r.has .noReset
  families := (r.all .family).filterMap fun text => (readFamily text).toOption
  excluded := (r.all .exclude).filterMap fun text => (readFamily text).toOption

/-- The command of that name with what was read for it. -/
def Command.ofReading (name : String) (r : Reading Key) : Except Stop Command :=
  match name with
  | "version" => .ok .version
  | "adapters" => .ok .adapters
  | "search" => .ok (.search (scanOptions r) (r.has .json))
  | "present" =>
    match (r.first? .address).bind fun text => (Address.parse text).toOption with
    | some a => .ok (.present a (r.has .alarm))
    | none => .error .misuse
  | "watch" =>
    let interval := (r.first? .interval).bind fun text => (readInterval text).toOption
    .ok (.watch (scanOptions r) (interval.getD 2) (r.has .json))
  | _ => .error .misuse

/-- The command that asks for help on another one, or on all. -/
def readHelp (words : List String) : Stop :=
  match words with
  | [] => .help
  | [name] => if mainLevel.subcommands.contains name then .help else .misuse
  | _ => .misuse

/-- The invocation that the words after the program's name stand for. What is pending before the
command is settled after it. -/
def Invocation.read (words : List String) : Except Stop Invocation := do
  let (main, sub) ← mainLevel.read {} words
  match sub with
  | none =>
    let _ ← main.settle
    throw .misuse
  | some ("help", rest) => throw (readHelp rest)
  | some (name, rest) =>
    let (inner, _) ← (commandLevel name).read {} rest
    let command ← Command.ofReading name (← inner.settle)
    let main ← main.settle
    return { defines := main.all .define
             properties := main.first? .properties
             noEnvironment := main.has .noEnv
             adapter := main.first? .adapter
             port := main.first? .port
             command }

end BusMaster.CommandLine
