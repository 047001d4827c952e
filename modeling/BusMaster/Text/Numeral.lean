/-!
# Reading numerals

An unsigned number in base 2 to 36, held to a greatest value. A numeral may start with `+`; digits
beyond nine are letters of either case.

* `Numeral.read`: the number, or the first thing wrong with the text: of a bad digit and a number
  grown too large, the one further left.
* `NumeralError.message`: the error in words.
-/

namespace BusMaster.Text

/-- Why a text is no numeral. -/
inductive NumeralError where
  | empty
  | invalidDigit
  | tooLarge
deriving DecidableEq, Repr

def NumeralError.message : NumeralError → String
  | empty => "cannot parse integer from empty string"
  | invalidDigit => "invalid digit found in string"
  | tooLarge => "number too large to fit in target type"

namespace Numeral

/-- The value of a letter or digit, if it is below `base`. -/
def digit? (base : Nat) (c : Char) : Option Nat :=
  let value :=
    if '0' ≤ c ∧ c ≤ '9' then some (c.toNat - '0'.toNat)
    else if 'a' ≤ c ∧ c ≤ 'z' then some (c.toNat - 'a'.toNat + 10)
    else if 'A' ≤ c ∧ c ≤ 'Z' then some (c.toNat - 'A'.toNat + 10)
    else none
  value.filter (· < base)

/-- The number that the digits append to `value`. -/
def extend (base limit value : Nat) : List Char → Except NumeralError Nat
  | [] => .ok value
  | c :: cs =>
    match digit? base c with
    | none => .error .invalidDigit
    | some d =>
      if limit < value * base + d then .error .tooLarge else extend base limit (value * base + d) cs

/-- The number up to `limit` that the text is the numeral of. A sign with no digit after it is a bad
digit, and so is a minus sign anywhere. -/
def read (base limit : Nat) : List Char → Except NumeralError Nat
  | [] => .error .empty
  | ['+'] => .error .invalidDigit
  | '+' :: digits => extend base limit 0 digits
  | digits => extend base limit 0 digits

/-- Two hexadecimal digits, or one after a plus sign, as a byte. -/
def readByte (digits : List Char) : Except NumeralError UInt8 :=
  (read 16 255 digits).map UInt8.ofNat

end Numeral

end BusMaster.Text
