/-!
# Checksums of the bus

Two cyclic redundancy checks guard what travels on a 1-Wire bus: eight bits over a device address
or a scratchpad, sixteen over a packet. Both are reflected (the least significant bit of a byte is
on the wire first, and goes into the register first), both start from a zero register, and neither
inverts its result, so one definition of the division serves both.

* `Crc.feedBit`, `Crc.feedByte`, `Crc.checksum`: the division, bit by bit, byte by byte, and over
  a byte string.
* `crc8`, `crc16`: the two checks.
-/

namespace BusMaster

/-- A reflected cyclic redundancy check of `w` bits that starts from zero: bit `w - 1 - k` of
`polynomial` is the coefficient of `x ^ k`, the leading one left out. -/
structure Crc (w : Nat) where
  polynomial : BitVec w

namespace Crc

variable {w : Nat}

/-- One step of the division: the register moves down one place, and the polynomial is subtracted
where the bit that leaves it differs from the one that arrives. -/
def feedBit (c : Crc w) (register : BitVec w) (bit : Bool) : BitVec w :=
  if register.getLsbD 0 != bit then (register >>> 1) ^^^ c.polynomial else register >>> 1

/-- The bits of a byte in the order in which they are on the wire. -/
def wireBits (byte : UInt8) : List Bool :=
  (List.range 8).map byte.toBitVec.getLsbD

/-- Eight steps of the division, one per bit of the byte. -/
def feedByte (c : Crc w) (register : BitVec w) (byte : UInt8) : BitVec w :=
  (wireBits byte).foldl c.feedBit register

/-- The remainder of a byte string. -/
def checksum (c : Crc w) (data : List UInt8) : BitVec w :=
  data.foldl c.feedByte 0

theorem checksum_append (c : Crc w) (xs ys : List UInt8) :
    c.checksum (xs ++ ys) = ys.foldl c.feedByte (c.checksum xs) :=
  List.foldl_append

/-- CRC-8/MAXIM-DOW, `x^8 + x^5 + x^4 + 1`. -/
def maximDow : Crc 8 := ⟨0x8C⟩

/-- CRC-16/ARC, `x^16 + x^15 + x^2 + 1`. -/
def arc : Crc 16 := ⟨0xA001⟩

end Crc

/-- The check byte of device addresses and scratchpads. -/
def crc8 (data : List UInt8) : UInt8 :=
  .ofBitVec (Crc.maximDow.checksum data)

/-- The check word of packets. A device sends it inverted, low byte first. -/
def crc16 (data : List UInt8) : UInt16 :=
  .ofBitVec (Crc.arc.checksum data)

end BusMaster
