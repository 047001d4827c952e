import BusMaster.Address.Basic
import BusMaster.Proofs.Checksum.Division

/-!
# What a checksum leaves behind itself

A receiver that divides a message together with its checksum gets the same number for
every message: nothing, or the residue of an inverted checksum.

* `checksum_snoc`, `checksum_pair`: one byte more for a register of eight bits, two for
  one of sixteen;
* `crc8_snoc_eq_zero_iff`, `crc16_pair_eq_zero_iff`: what has to follow a message to leave
  nothing;
* `checksums_cancel`: all together.
-/

namespace BusMaster

namespace Crc

/-- A byte as long as the register. -/
theorem checksum_snoc (c : Crc 8) (data : List UInt8) (byte : UInt8) :
    c.checksum (data ++ [byte]) = c.shift^[8] (c.checksum data ^^^ byte.toBitVec) := by
  rw [checksum_append]
  exact foldl_feedBit_word _ _

/-- Two bytes in the order of the wire, the low one first. -/
theorem wireBits_pair (low high : UInt8) :
    [low, high].flatMap wireBits =
      (List.range 16).map (high.toBitVec ++ low.toBitVec).getLsbD := by
  rw [show 16 = 8 + 8 from rfl, List.range_add, List.map_append, List.map_map]
  simp only [List.flatMap_cons, List.flatMap_nil, List.append_nil, wireBits]
  congr 1
  · apply List.map_congr_left
    intro k hk
    rw [BitVec.getLsbD_append, if_pos (List.mem_range.mp hk)]
  · apply List.map_congr_left
    intro k _
    show high.toBitVec.getLsbD k = (high.toBitVec ++ low.toBitVec).getLsbD (8 + k)
    rw [BitVec.getLsbD_append, if_neg (by omega), Nat.add_sub_cancel_left]

/-- Two bytes that together are as long as the register. -/
theorem checksum_pair (c : Crc 16) (data : List UInt8) (low high : UInt8) :
    c.checksum (data ++ [low, high]) =
      c.shift^[16] (c.checksum data ^^^ (high.toBitVec ++ low.toBitVec)) := by
  rw [checksum_append, foldl_feedByte, wireBits_pair, foldl_feedBit_word]

theorem maximDow_hasConstant : maximDow.HasConstant := by
  decide

theorem arc_hasConstant : arc.HasConstant := by
  decide

end Crc

open Crc

/-- A message and the byte after it leave nothing if the byte is the checksum. -/
theorem crc8_snoc_eq_zero_iff (data : List UInt8) (byte : UInt8) :
    crc8 (data ++ [byte]) = 0 ↔ byte = crc8 data := by
  unfold crc8
  rw [← UInt8.toBitVec_inj, ← UInt8.toBitVec_inj]
  show maximDow.checksum (data ++ [byte]) = 0 ↔ byte.toBitVec = maximDow.checksum data
  rw [checksum_snoc, iterate_shift_eq_zero_iff maximDow_hasConstant]
  exact BitVec.xor_eq_zero_iff.trans eq_comm

/-- The digits `1` to `9` and the check value that the catalogue gives for them. -/
example : crc8 ("123456789".toUTF8.toList ++ [0xA1]) = 0 := by decide +kernel

/-- The bytes of a word of sixteen bits. -/
theorem toBitVec_eq_append_iff (x : UInt16) (low high : UInt8) :
    x.toBitVec = high.toBitVec ++ low.toBitVec ↔ low = x.toUInt8 ∧ high = (x >>> 8).toUInt8 := by
  have hlow := low.toNat_lt
  have hhigh := high.toNat_lt
  have hx := x.toNat_lt
  have happend : (high.toBitVec ++ low.toBitVec).toNat = 2 ^ 8 * high.toNat + low.toNat := by
    rw [BitVec.toNat_append, ← Nat.shiftLeft_add_eq_or_of_lt low.toBitVec.isLt,
      Nat.shiftLeft_eq, Nat.mul_comm]
    rfl
  rw [← BitVec.toNat_inj, happend, ← UInt8.toNat_inj, ← UInt8.toNat_inj]
  simp only [UInt16.toNat_toUInt8, UInt16.toNat_shiftRight, UInt16.toNat_toBitVec,
    Nat.shiftRight_eq_div_pow]
  show _ ↔ _ ∧ high.toNat = x.toNat / 2 ^ 8 % 2 ^ 8
  omega

/-- A message and the two bytes after it leave nothing if these are the checksum, its low
byte first. -/
theorem crc16_pair_eq_zero_iff (data : List UInt8) (low high : UInt8) :
    crc16 (data ++ [low, high]) = 0 ↔
      low = (crc16 data).toUInt8 ∧ high = (crc16 data >>> 8).toUInt8 := by
  rw [← toBitVec_eq_append_iff, ← UInt16.toBitVec_inj]
  show arc.checksum (data ++ [low, high]) = 0 ↔ arc.checksum data = _
  rw [checksum_pair, iterate_shift_eq_zero_iff arc_hasConstant]
  exact BitVec.xor_eq_zero_iff

example : crc16 ("123456789".toUTF8.toList ++ [0x3D, 0xBB]) = 0 := by decide +kernel

/-- With its inverted checksum after it every message leaves the same: sixteen moves of a
register of ones. -/
theorem crc16_inverted (data : List UInt8) :
    crc16 (data ++ [(~~~crc16 data).toUInt8, (~~~crc16 data >>> 8).toUInt8]) = 0xB001 := by
  have hbytes := (toBitVec_eq_append_iff (~~~crc16 data) _ _).mpr ⟨rfl, rfl⟩
  rw [UInt16.toBitVec_not] at hbytes
  apply UInt16.toBitVec_inj.mp
  show arc.checksum _ = _
  rw [checksum_pair, ← hbytes]
  show arc.shift^[16] (arc.checksum data ^^^ ~~~arc.checksum data) = 0xB001#16
  rw [← BitVec.not_xor_right, BitVec.xor_self]
  decide +kernel

namespace Address

/-- The bytes of an address, the checksum byte at their end. -/
theorem bytes_eq_snoc (a : Address) : a.bytes = (List.range 7).map a.byte ++ [a.checksum] := by
  rw [bytes, List.range_succ, List.map_append]
  rfl

theorem hasValidChecksum_iff (a : Address) : a.hasValidChecksum = true ↔ crc8 a.bytes = 0 := by
  rw [bytes_eq_snoc, crc8_snoc_eq_zero_iff, hasValidChecksum, beq_iff_eq]
  exact eq_comm

end Address

/-- A message leaves nothing with its checksum after it, and with nothing else after it:
one byte of the short checksum, or two of the long one in the order of the wire. So the
checksum byte of an address is valid exactly if all eight bytes leave nothing. With its
long checksum inverted, as devices send it, every message leaves the same. -/
theorem checksums_cancel (data : List UInt8) :
    (∀ byte, crc8 (data ++ [byte]) = 0 ↔ byte = crc8 data) ∧
    (∀ a : Address, a.hasValidChecksum = true ↔ crc8 a.bytes = 0) ∧
    (∀ low high, crc16 (data ++ [low, high]) = 0 ↔
      low = (crc16 data).toUInt8 ∧ high = (crc16 data >>> 8).toUInt8) ∧
    crc16 (data ++ [(~~~crc16 data).toUInt8, (~~~crc16 data >>> 8).toUInt8]) = 0xB001 :=
  ⟨crc8_snoc_eq_zero_iff data, Address.hasValidChecksum_iff, crc16_pair_eq_zero_iff data,
    crc16_inverted data⟩

end BusMaster
