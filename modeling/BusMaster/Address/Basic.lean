import BusMaster.Checksum

/-!
# Device addresses

Every device carries a 64-bit address of its own: a family code, six serial bytes and a checksum.
An `Address` is the word whose bit `k` is the `k`-th bit that the device sends, so byte `i` in
transmission order is the word's bits `8 i` to `8 i + 7`.

* `Address.ofBytes`, `Address.bytes`: the byte view.
* `Address.withChecksum`, `Address.hasValidChecksum`: the last byte against the seven before it.
* `Address.searchKey`: the number that orders addresses as a search meets them.
* `<`: the order by bytes.
-/

namespace BusMaster

/-- A 64-bit device address, its first bit on the wire at place 0. -/
structure Address where
  raw : BitVec 64
deriving DecidableEq, Repr, Inhabited

namespace Address

/-- The address of eight bytes in transmission order. Missing bytes are zero, and more than eight
are left out. -/
def ofBytes (bytes : List UInt8) : Address :=
  ⟨bytes.foldr (fun byte rest => rest <<< 8 ||| byte.toBitVec.setWidth 64) 0⟩

/-- Byte `i` in transmission order. -/
def byte (a : Address) (i : Nat) : UInt8 :=
  .ofBitVec (a.raw.extractLsb' (8 * i) 8)

/-- The eight bytes in transmission order. -/
def bytes (a : Address) : List UInt8 :=
  (List.range 8).map a.byte

/-- The `k`-th bit on the wire, counted from zero. -/
def bit (a : Address) (k : Nat) : Bool :=
  a.raw.getLsbD k

def family (a : Address) : UInt8 :=
  a.byte 0

def serial (a : Address) : List UInt8 :=
  (List.range 6).map fun i => a.byte (i + 1)

/-- The checksum byte that the address carries. -/
def checksum (a : Address) : UInt8 :=
  a.byte 7

/-- The address of a family and six serial bytes, its checksum byte computed. -/
def withChecksum (family : UInt8) (serial : List UInt8) : Address :=
  let body := family :: (serial ++ List.replicate 6 0).take 6
  ofBytes (body ++ [crc8 body])

/-- The last byte is the checksum of the seven before it. -/
def hasValidChecksum (a : Address) : Bool :=
  crc8 ((List.range 7).map a.byte) == a.checksum

/-- The address as a number whose most significant bit is the first on the wire. A search meets
addresses in ascending order of their keys. -/
def searchKey (a : Address) : Nat :=
  a.raw.reverse.toNat

/-- Addresses are ordered by their bytes in transmission order. -/
instance : LT Address :=
  ⟨fun a b => a.bytes < b.bytes⟩

instance (a b : Address) : Decidable (a < b) :=
  inferInstanceAs (Decidable (a.bytes < b.bytes))

/-- The addresses in the order of their bytes, repetitions kept. -/
def sortByBytes (addresses : List Address) : List Address :=
  addresses.mergeSort fun a b => decide (¬ b < a)

/-- The addresses in the order of their keys, repetitions kept. -/
def sortBySearchKey (addresses : List Address) : List Address :=
  addresses.mergeSort fun a b => decide (a.searchKey ≤ b.searchKey)

end Address

end BusMaster
