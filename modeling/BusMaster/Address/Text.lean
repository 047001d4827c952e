import BusMaster.Address.Basic
import BusMaster.Error
import BusMaster.Text.Blank
import BusMaster.Text.Hex
import BusMaster.Text.Numeral

/-!
# Addresses in text

An address is written as sixteen upper-case hexadecimal digits in transmission order. It is read
with `:`, `-` and spaces anywhere between them, and two characters at a time, each pair a numeral
of its own.

* `Address.toText`, `Address.parse`: one address.
* `Address.parseList`: a comma-separated list, blank pieces left out.
-/

namespace BusMaster.Address

/-- The sixteen digits of the address. -/
def digits (a : Address) : List Char :=
  Text.hexBytes a.bytes

def toText (a : Address) : String :=
  .ofList a.digits

instance : ToString Address :=
  ⟨toText⟩

/-- A character that may stand anywhere in an address and means nothing. -/
def isSeparator (c : Char) : Bool :=
  c == ':' || c == '-' || c == ' '

/-- The bytes of a text taken two characters at a time. -/
def readBytes : List Char → Option (List UInt8)
  | [] => some []
  | [_] => none
  | high :: low :: rest => do
    let byte ← (Text.Numeral.readByte [high, low]).toOption
    let bytes ← readBytes rest
    return byte :: bytes

/-- The address that the characters spell: separators apart, sixteen ASCII characters. -/
def read? (cs : List Char) : Option Address :=
  let digits := cs.filter (!isSeparator ·)
  if digits.length = 16 ∧ digits.all (·.toNat < 128) then (readBytes digits).map ofBytes else none

/-- The address that the text spells. The error names the text as it was given. -/
def parse (text : String) : Except BusError Address :=
  match read? text.toList with
  | some a => .ok a
  | none => .error (.invalidAddress text)

/-- The addresses of a comma-separated list. Blanks around a piece do not count, and a piece of
blanks alone is passed over; the error names the first bad piece without the blanks around it. -/
def parseList (text : String) : Except BusError (List Address) :=
  (((text.toList.splitOn ',').map Text.trim).filter (!·.isEmpty)).mapM fun piece =>
    parse (.ofList piece)

end BusMaster.Address
