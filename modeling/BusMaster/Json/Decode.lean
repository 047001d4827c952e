import BusMaster.Address.Text
import BusMaster.Json.Value
import BusMaster.Signal
import BusMaster.Text.Hidden

/-!
# Domain values in JSON

How addresses, signals and capabilities are written as JSON, and how they are read back.

* `Json.Error`: what can be wrong with a document, worded by `Json.Error.message`.
* `Json.readAddress`, `Json.readVariant`, `Json.readCapabilities`: the readers.
* `Json.Variants`: the spellings of an enumeration, in the order in which messages list them.
-/

namespace BusMaster

namespace Json

/-- Why a document is not a value of the type asked for. -/
inductive Error where
  /-- A value of another kind. -/
  | invalidType (found expected : String)
  | invalidValue (found expected : String)
  | invalidLength (length : Nat) (expected : String)
  | unknownVariant (name : String) (variants : List String)
  | missingField (name : String)
  /-- A text that the type itself refuses. -/
  | refused (cause : BusError)
deriving DecidableEq, Repr

/-- A name between grave accents. -/
def marked (name : String) : String :=
  "\x60" ++ name ++ "\x60"

/-- The text before the position ` at line L column C` at its end, with the two numbers. -/
def splitPosition (text : List Char) : Option (List Char × Nat × Nat) := do
  let (before, column) ← splitNumber " column " text
  let (before, line) ← splitNumber " at line " before
  return (before, line, column)
where
  /-- The text before a mark and the number of 64 bits at most that ends it. -/
  splitNumber (mark : String) (text : List Char) : Option (List Char × Nat) := do
    let digits := (text.reverse.takeWhile Char.isDigit).reverse
    let number ← (Text.Numeral.read 10 0xFFFFFFFFFFFFFFFF digits).toOption
    let rest := text.take (text.length - digits.length)
    if mark.toList.isSuffixOf rest then
      return (rest.take (rest.length - mark.length), number)
    else none

/-- A text that ends in a position is a message about that place. Its numbers are written without
leading zeros, and line 0 is no place. -/
def atPosition (text : String) : String :=
  match splitPosition text.toList with
  | none => text
  | some (before, 0, _) => .ofList before
  | some (before, line, column) => .ofList before ++ s!" at line {line} column {column}"

def Error.message : Error → String
  | invalidType found expected => s!"invalid type: {found}, expected {expected}"
  | invalidValue found expected => s!"invalid value: {found}, expected {expected}"
  | invalidLength length expected => s!"invalid length {length}, expected {expected}"
  | unknownVariant name variants =>
    s!"unknown variant {marked name}, expected one of "
      ++ ", ".intercalate (variants.map marked)
  | missingField name => s!"missing field {marked name}"
  | refused cause => atPosition cause.message

/-- A character as messages show it inside a string: quotes, backslashes and some controls are
escaped, and other hidden characters are given by number. -/
def shown (c : Char) : List Char :=
  match c with
  | '"' => ['\\', '"']
  | '\\' => ['\\', '\\']
  | '\n' => ['\\', 'n']
  | '\r' => ['\\', 'r']
  | '\t' => ['\\', 't']
  | '\x00' => ['\\', '0']
  | c =>
    if Text.isHidden c then ['\\', 'u', '\x7b'] ++ Nat.toDigits 16 c.toNat ++ ['\x7d'] else [c]

/-- The document as messages name it. -/
def found : Json → String
  | null => "null"
  | bool value => "boolean " ++ marked (if value then "true" else "false")
  | integer value => "integer " ++ marked (toString value)
  | float value => "floating point " ++ marked (floatText value)
  | string value => "string \"" ++ .ofList (value.toList.flatMap shown) ++ "\""
  | array _ => "sequence"
  | object _ => "map"

/-! ## Addresses -/

def ofAddress (a : Address) : Json :=
  string a.toText

/-- An address is a string in any of its spellings. -/
def readAddress : Json → Except Error Address
  | string text => (Address.parse text).mapError .refused
  | other => .error (.invalidType other.found "a string")

/-! ## Enumerations -/

/-- The values of an enumeration with their spellings, in order. -/
abbrev Variants (α : Type) :=
  List (α × String)

namespace Variants

variable {α : Type} [BEq α]

/-- The spelling of a value. -/
def name (variants : Variants α) (value : α) : String :=
  ((variants.find? (·.1 == value)).map (·.2)).getD ""

/-- The value with that spelling. -/
def read (variants : Variants α) (name : String) : Except Error α :=
  match variants.find? (·.2 == name) with
  | some (value, _) => .ok value
  | none => .error (.unknownVariant name (variants.map (·.2)))

end Variants

/-- A value of an enumeration is its name, or an object whose one field has that name and holds
nothing. -/
def readVariant {α : Type} [BEq α] (variants : Variants α) : Json → Except Error α
  | string name => variants.read name
  | object [(name, content)] => do
    let value ← variants.read name
    match content with
    | null => return value
    | other => throw (.invalidType other.found "unit")
  | object _ => .error (.invalidValue "map" "map with a single key")
  | other => .error (.invalidType other.found "string or map")

def resetResults : Variants ResetResult :=
  [(.noPresence, "no_presence"), (.presence, "presence"), (.alarmPresence, "alarm_presence"),
    (.short, "short")]

def speeds : Variants Speed :=
  [(.regular, "regular"), (.flex, "flex"), (.overdrive, "overdrive"), (.hyperdrive, "hyperdrive")]

def capabilities : Variants Capability :=
  [(.overdrive, "overdrive"), (.hyperdrive, "hyperdrive"), (.flexSpeed, "flex_speed"),
    (.powerDelivery, "power_delivery"), (.programPulse, "program_pulse")]

/-! ## Capability records -/

/-- The record of the services for which `supports` holds. -/
def capabilitiesWhere (supports : Capability → Bool) : Capabilities :=
  { overdrive := supports .overdrive, hyperdrive := supports .hyperdrive,
    flexSpeed := supports .flexSpeed, powerDelivery := supports .powerDelivery,
    programPulse := supports .programPulse }

def ofCapabilities (c : Capabilities) : Json :=
  object (capabilities.map fun (capability, name) => (name, bool (c.supports capability)))

def readBool : Json → Except Error Bool
  | bool value => .ok value
  | other => .error (.invalidType other.found "a boolean")

/-- The record whose flags are listed in the order of `capabilities`. -/
def readFlags (items : List Json) : Except Error Capabilities := do
  let flags ← (items.take capabilities.length).mapM readBool
  if flags.length < capabilities.length then
    throw (.invalidLength items.length "struct Capabilities with 5 elements")
  else if capabilities.length < items.length then
    throw (.invalidLength items.length "fewer elements in array")
  else
    let set := (capabilities.zip flags).filterMap fun ((capability, _), flag) =>
      if flag then some capability else none
    return capabilitiesWhere (set.contains ·)

/-- The record whose flags are fields. Fields of other names are passed over. The fields present are
looked at in the order of their names, and the first one missing in the order of `capabilities`. -/
def readFields (fields : List (String × Json)) : Except Error Capabilities := do
  let sorted := fields.mergeSort fun a b => decide (¬ b.1 < a.1)
  let flags ← sorted.filterMapM fun (name, value) =>
    match capabilities.find? (·.2 == name) with
    | some (capability, _) => do return some (capability, ← readBool value)
    | none => return none
  match capabilities.find? fun (capability, _) => !flags.any (·.1 == capability) with
  | some (_, name) => throw (.missingField name)
  | none => return capabilitiesWhere fun capability => flags.contains (capability, true)

/-- A record of capabilities: an object of named flags, or an array of the five in order. -/
def readCapabilities : Json → Except Error Capabilities
  | object fields => readFields fields
  | array items => readFlags items
  | other => .error (.invalidType other.found "struct Capabilities")

end Json

end BusMaster
