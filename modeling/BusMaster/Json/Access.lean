import BusMaster.Json.Value

/-!
# Looking into JSON

The parts of a document whose form is known beforehand. A part that is missing or of another kind
counts as empty.

* `Json.fields`, `items`, `text`, `natural`, `isTrue`: a value taken to be of one kind.
* `Json.get`, `Json.has`: the field under a key.
-/

namespace BusMaster.Json

/-- The fields of an object. -/
def fields : Json → List (String × Json)
  | object fields => fields
  | _ => []

/-- The items of an array. -/
def items : Json → List Json
  | array items => items
  | _ => []

/-- The content of a string. -/
def text : Json → String
  | string value => value
  | _ => ""

/-- An integer, negative ones as zero. -/
def natural : Json → Nat
  | integer value => value.toNat
  | _ => 0

def isTrue : Json → Bool
  | bool value => value
  | _ => false

/-- The first field under a key; without one, `null`. -/
def get (document : Json) (key : String) : Json :=
  (document.fields.lookup key).getD null

/-- There is a field under the key. -/
def has (document : Json) (key : String) : Bool :=
  document.fields.any (·.1 == key)

end BusMaster.Json
