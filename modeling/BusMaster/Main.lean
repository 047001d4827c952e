import BusMaster.CommandLine.Run

/-!
# The program

Gathers what a run can see, the files and the environment, prints what comes of it, and keeps a
watch going.
-/

namespace BusMaster.CommandLine

/-- The keys that a run can look up. -/
def settingKeys : List String :=
  [Registry.defaultAdapterKey, Registry.defaultPortKey, Registry.devicesKey, Registry.alarmingKey]
    ++ (List.range Registry.registerSlots).map Registry.registerKey

/-- The variables that are set, among those that stand for keys or decide on styles. -/
def readEnvironment : IO Registry.Environment :=
  (settingKeys.map Registry.environmentName ++ [forcedStyles, forbiddenStyles]).filterMapM
    fun name => return (← IO.getEnv name).map fun value => (name, some value)

/-- What reading a path gives at this moment. -/
def readFile (path : String) : IO (Except FileError (Option String)) := do
  try
    let content ← IO.FS.readBinFile path
    match String.fromUTF8? content with
    | some text => return .ok (some text)
    | none => return .error .notUtf8
  catch
    | .noFileOrDirectory .. => return .ok none
    | .inappropriateType .. => return .error .isDirectory
    | _ => return .error .notDirectory

/-- The files and the environment that the words ask for, as they are now. -/
def readSources (words : List String) : IO Registry.Sources := do
  let files ← (searchPaths words).mapM fun path => return (path, ← readFile path)
  return { read := fun path => (files.lookup path).getD (.ok none)
           environment := ← readEnvironment }

/-- Scans every `interval` seconds and prints what changed, until a failure ends it. -/
partial def keepWatching (bench : Workbench) (number : Nat) (scan : ScanOptions) (interval : Nat)
    (json : Bool) (devices : DeviceSet) : IO WatchEnd := do
  match watchTick bench number scan devices with
  | (.stop ending, _) => return ending
  | (.goOn events devices, bench) =>
    for event in events do
      IO.println (event.line json)
    (← IO.getStdout).flush
    IO.sleep (min (interval * 1000) 0xFFFFFFFF).toUInt32
    keepWatching bench number scan interval json devices

/-- Prints what a run ends with and gives its status. -/
def finish (exit : Nat) (output : String) (error : Option String) : IO UInt32 := do
  IO.print output
  match error with
  | some report => IO.eprintln report
  | none => if exit = 2 then IO.eprintln "Usage: onewire [OPTIONS] <COMMAND>"
  return exit.toUInt32

end BusMaster.CommandLine

open BusMaster.CommandLine in
def main (words : List String) : IO UInt32 := do
  match run (← readSources words) words with
  | .done exit output error => finish exit output error
  | .watching bench number scan interval json =>
    let (exit, error) := watchExit (← keepWatching bench number scan interval json {})
    finish exit "" error
