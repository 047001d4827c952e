import BusMaster.Text.Hex
import BusMaster.Text.Numeral

/-!
# Escapes in a properties text

Inside keys, values and comments a backslash gives the next character another meaning.

* `unescape`: the characters that an escaped text stands for.
* `escape`: a character written so that it stands for itself wherever it is put.
-/

namespace BusMaster.Properties

/-- What can be wrong with a character given by number. -/
inductive EscapeError where
  | notEnoughDigits
  | notHex
  /-- A surrogate. -/
  | invalidCharacter
deriving DecidableEq, Repr

def EscapeError.description : EscapeError → String
  | notEnoughDigits => "not enough digits"
  | notHex => "not hex"
  | invalidCharacter => "invalid character"

/-- The character whose number the digits give in base sixteen. -/
def numbered (digits : List Char) : Except EscapeError Char :=
  match Text.Numeral.read 16 0xFFFF digits with
  | .error _ => .error .notHex
  | .ok n => if 0xD800 ≤ n ∧ n < 0xE000 then .error .invalidCharacter else .ok (Char.ofNat n)

/-- The character that a backslash and `c` stand for, `u` apart. -/
def escaped : Char → Char
  | 't' => '\t'
  | 'n' => '\n'
  | 'f' => '\x0c'
  | 'r' => '\r'
  | c => c

/-- The characters that an escaped text stands for. A backslash at the very end is a zero. -/
def unescape : List Char → Except EscapeError (List Char)
  | [] => .ok []
  | '\\' :: 'u' :: a :: b :: c :: d :: rest => do
    let first ← numbered [a, b, c, d]
    let others ← unescape rest
    return first :: others
  | '\\' :: 'u' :: _ => .error .notEnoughDigits
  | '\\' :: c :: rest => do return escaped c :: (← unescape rest)
  | ['\\'] => .ok ['\x00']
  | c :: rest => do return c :: (← unescape rest)

/-- A character of a key or value as it is written. -/
def escape (c : Char) : List Char :=
  match c with
  | '\t' => ['\\', 't']
  | '\n' => ['\\', 'n']
  | '\r' => ['\\', 'r']
  | '\x0c' => ['\\', 'f']
  | c =>
    if c ∈ ['\\', ' ', '=', ':', '#', '!'] then ['\\', c]
    else if c.toNat < 0x80 then [c]
    else '\\' :: 'u' :: Text.hexBytes [(c.toNat / 256).toUInt8, c.toNat.toUInt8]

end BusMaster.Properties
