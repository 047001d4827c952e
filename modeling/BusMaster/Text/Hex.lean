/-!
# Bytes in hexadecimal

Upper-case hexadecimal text, two digits a byte.
-/

namespace BusMaster.Text

/-- The upper-case digit of a value below sixteen. -/
def hexDigit (value : Nat) : Char :=
  if value < 10 then Char.ofNat ('0'.toNat + value) else Char.ofNat ('A'.toNat + (value - 10))

/-- The high digit of a byte, then the low one. -/
def hexByte (byte : UInt8) : List Char :=
  [hexDigit (byte.toNat / 16), hexDigit (byte.toNat % 16)]

def hexBytes (bytes : List UInt8) : List Char :=
  bytes.flatMap hexByte

end BusMaster.Text
