/-!
# The grammar of command lines

A command line is read word by word. Long options are written `--name value` or `--name=value`,
short ones `-x value`, `-xvalue` or `-x=value`, and short flags may share one dash. A word that
starts with a dash is never the value of the option before it; after `--` every word is a
positional.

A value is checked when the next option or positional is taken up, or at the end of the line, unless
it was joined to its option; so of two mistakes on a line the one taken up first counts.

* `Slot`: an option or positional; `Level`: the slots of a command.
* `Level.read`: the words of a command, up to a subcommand.
-/

namespace BusMaster.CommandLine

/-- How often a slot may be filled, and with what. -/
inductive Use where
  /-- No value, at most once. -/
  | flag
  /-- One value, at most once. -/
  | single
  /-- One value each time. -/
  | many
deriving DecidableEq, Repr

/-- Why a command line is read no further. -/
inductive Stop where
  /-- A value that its slot refuses. -/
  | invalidValue (value slot reason : String)
  /-- Any other mistake. -/
  | misuse
  | help
  | version
deriving DecidableEq, Repr

/-- Why a slot refuses a value. -/
inductive Refusal where
  | because (reason : String)
  /-- The value counts as missing. -/
  | missing
deriving DecidableEq, Repr

/-- An option or positional, known by a key. -/
structure Slot (κ : Type) where
  key : κ
  /-- The name after two dashes; positionals have none. -/
  long : String := ""
  short : Option Char := none
  use : Use := .flag
  /-- The slot as messages name it. -/
  shown : String := ""
  /-- A mark at which a value is cut into several. -/
  separator : Option Char := none
  /-- Refuses values. -/
  check : String → Except Refusal Unit := fun _ => .ok ()

/-- What a command takes. -/
structure Level (κ : Type) where
  options : List (Slot κ) := []
  positionals : List (Slot κ) := []
  subcommands : List String := []
  /-- The command answers to `--version` and `-V`. -/
  showsVersion : Bool := false

/-- What was read so far. -/
structure Reading (κ : Type) where
  /-- The values in order, flags with an empty one. -/
  values : List (κ × String) := []
  /-- The slot taken up last, with its value if that was read already. -/
  pending : Option (Slot κ × Option String) := none
  /-- The number of positionals read. -/
  position : Nat := 0
  /-- The word `--` was read. -/
  escaped : Bool := false

namespace Reading

variable {κ : Type} [BEq κ]

/-- The values under a key, in order. -/
def all (r : Reading κ) (key : κ) : List String :=
  r.values.filterMap fun (k, value) => if k == key then some value else none

def has (r : Reading κ) (key : κ) : Bool :=
  r.values.any (·.1 == key)

def first? (r : Reading κ) (key : κ) : Option String :=
  (r.all key).head?

/-- The values that a written one stands for. -/
def pieces (slot : Slot κ) (value : String) : List String :=
  match slot.separator with
  | none => [value]
  | some mark => (value.toList.splitOn mark).map .ofList

/-- Puts a value into a slot after checking it, each of its pieces in turn. -/
def fill (r : Reading κ) (slot : Slot κ) (value : String) : Except Stop (Reading κ) :=
  if slot.use != .many && r.has slot.key then .error .misuse
  else do
    let values := pieces slot value
    for piece in values do
      match slot.check piece with
      | .ok () => pure ()
      | .error .missing => throw .misuse
      | .error (.because reason) => throw (.invalidValue piece slot.shown reason)
    return { r with values := r.values ++ values.map fun piece => (slot.key, piece) }

/-- Puts the pending value into its slot. A slot that still waits for a value is a mistake. -/
def settle (r : Reading κ) : Except Stop (Reading κ) :=
  match r.pending with
  | none => .ok r
  | some (_, none) => .error .misuse
  | some (slot, some value) => { r with pending := none }.fill slot value

/-- The next word is the value of the option before it, if it can be one. -/
def awaitsValue (r : Reading κ) : Bool :=
  r.pending.any (·.2.isNone)

/-- Takes up an option, with the value joined to it if there is one. A value joined to a flag is a
mistake whatever is pending. -/
def takeOption (r : Reading κ) (slot : Slot κ) (joined : Option String) :
    Except Stop (Reading κ) :=
  match slot.use, joined with
  | .flag, some _ => .error .misuse
  | .flag, none => do (← r.settle).fill { slot with separator := none } ""
  | _, some value => do (← r.settle).fill slot value
  | _, none => do return { ← r.settle with pending := some (slot, none) }

/-- Settles what is pending, and stops. -/
def stop (r : Reading κ) (reason : Stop) : Except Stop (Reading κ) := do
  let _ ← r.settle
  throw reason

end Reading

namespace Level

variable {κ : Type} [BEq κ]

/-- A word `--name` or `--name=value`, without its dashes. -/
def readLong (level : Level κ) (r : Reading κ) (word : List Char) : Except Stop (Reading κ) :=
  let name := String.ofList (word.takeWhile (· != '='))
  let joined := (word.dropWhile (· != '=')).tail?.map String.ofList
  match level.options.find? (·.long == name) with
  | some slot => r.takeOption slot joined
  | none =>
    if joined.isSome then .error .misuse
    else if name == "help" then r.stop .help
    else if name == "version" && level.showsVersion then r.stop .version
    else .error .misuse

/-- The letters after one dash: flags, up to an option that takes the rest as its value. -/
def readShort (level : Level κ) (r : Reading κ) : List Char → Except Stop (Reading κ)
  | [] => .ok r
  | c :: rest =>
    match level.options.find? (·.short == some c) with
    | some slot =>
      if slot.use == .flag then do level.readShort (← r.takeOption slot none) rest
      else
        r.takeOption slot <|
          match rest with
          | [] => none
          | '=' :: value => some (.ofList value)
          | value => some (.ofList value)
    | none =>
      if c == 'h' then r.stop .help
      else if c == 'V' && level.showsVersion then r.stop .version
      else .error .misuse

/-- A word that is no option. -/
def readPositional (level : Level κ) (r : Reading κ) (word : String) : Except Stop (Reading κ) :=
  match level.positionals[r.position]? with
  | none => .error .misuse
  | some slot => do
    let r ← r.settle
    return { r with pending := some (slot, some word), position := r.position + 1 }

/-- Reads one word that is no subcommand. -/
def readWord (level : Level κ) (r : Reading κ) (word : String) : Except Stop (Reading κ) :=
  if r.escaped then level.readPositional r word
  else
    match word.toList with
    | ['-', '-'] => .ok { r with escaped := true }
    | '-' :: '-' :: name => level.readLong r name
    | '-' :: c :: letters => level.readShort r (c :: letters)
    | _ =>
      match r.pending with
      | some (slot, none) => .ok { r with pending := some (slot, some word) }
      | _ => level.readPositional r word

/-- Reads the words of a command, up to a subcommand and the words after it. -/
def read (level : Level κ) (r : Reading κ) :
    List String → Except Stop (Reading κ × Option (String × List String))
  | [] => .ok (r, none)
  | word :: rest =>
    if !r.escaped && !r.awaitsValue && level.subcommands.contains word then
      .ok (r, some (word, rest))
    else do level.read (← level.readWord r word) rest

end Level

end BusMaster.CommandLine
