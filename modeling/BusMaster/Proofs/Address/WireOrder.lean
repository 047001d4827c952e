import BusMaster.Proofs.Address.Bytes

/-!
# The search key and the bits on the wire

A device sends its bytes one after the other, each from its lowest bit on. The search key loads the
same bytes as a little-endian word and reverses it, so that the first bit on the wire is the most
significant one.

* `littleEndian`, `searchKey_eq_littleEndian`: the key from the bytes;
* `sentAt`, `sentAt_eq_bit`: the bit at a position of the wire, from the bytes;
* `forks_iff_partAt`: two addresses fork at the first position that they send different bits at;
* `searchKey_is_wire_order`: the keys compare as the wire does.
-/

namespace BusMaster.Address

variable {a b : Address}

/-! ## The word of some bytes -/

/-- The number of which the bytes are the digits, the lowest one first. -/
def littleEndian (bytes : List UInt8) : Nat :=
  bytes.foldr (fun byte rest => 2 ^ 8 * rest + byte.toNat) 0

/-- By induction on the bytes, eight bits at a time. -/
theorem testBit_littleEndian (bytes : List UInt8) (k : Nat) :
    (littleEndian bytes).testBit k = (bytes.getD (k / 8) 0).toNat.testBit (k % 8) := by
  induction bytes generalizing k with
  | nil => simp [littleEndian]
  | cons byte bytes ih =>
    show (2 ^ 8 * littleEndian bytes + byte.toNat).testBit k = _
    rw [Nat.testBit_two_pow_mul_add _ byte.toNat_lt]
    split
    · rename_i h8
      rw [Nat.div_eq_of_lt h8, Nat.mod_eq_of_lt h8, List.getD_cons_zero]
    · rename_i h8
      obtain ⟨j, rfl⟩ := Nat.exists_eq_add_of_le' (Nat.not_lt.mp h8)
      rw [Nat.add_sub_cancel, ih, Nat.add_div_right j (by decide), Nat.add_mod_right,
        List.getD_cons_succ]

/-! ## The wire -/

/-- The bit that a device with the address sends at a position, the first of which is 1. -/
def sentAt (a : Address) (position : Nat) : Bool :=
  (a.bytes.getD ((position - 1) / 8) 0).toNat.testBit ((position - 1) % 8)

theorem sentAt_eq_bit (a : Address) (position : Nat) :
    a.sentAt position = a.bit (position - 1) := by
  by_cases h : position - 1 < 64
  · have hbit := bit_ofBytes a.bytes h
    rw [ofBytes_bytes] at hbit
    rw [hbit]
    exact BitVec.testBit_toNat _
  · have hpast : a.bytes.length ≤ (position - 1) / 8 := by
      rw [length_bytes]
      omega
    rw [bit_of_ge a (by omega), sentAt, List.getD_eq_default _ _ hpast]
    exact Nat.zero_testBit _

/-- The key is the little-endian word of the bytes with its bits in reverse. -/
theorem searchKey_eq_littleEndian (a : Address) :
    a.searchKey = (BitVec.ofNat 64 (littleEndian a.bytes)).reverse.toNat := by
  have hword : a.raw = BitVec.ofNat 64 (littleEndian a.bytes) := by
    refine BitVec.eq_of_getLsbD_eq fun k hk => ?_
    rw [BitVec.getLsbD_ofNat, decide_eq_true hk, Bool.true_and, testBit_littleEndian]
    exact (sentAt_eq_bit a (k + 1)).symm
  rw [searchKey, ← hword]

/-- The position is the first at which the two addresses send different bits. -/
def PartAt (a b : Address) (position : Nat) : Prop :=
  (1 ≤ position ∧ position ≤ 64) ∧ a.sentAt position ≠ b.sentAt position ∧
    ∀ earlier, 1 ≤ earlier → earlier < position → a.sentAt earlier = b.sentAt earlier

theorem forks_iff_partAt {k : Nat} :
    Forks k a b ↔ PartAt a b (k + 1) ∧ a.sentAt (k + 1) = false ∧ b.sentAt (k + 1) = true := by
  unfold PartAt
  simp only [sentAt_eq_bit, Nat.add_sub_cancel]
  constructor
  · intro h
    have hk := h.lt_64
    obtain ⟨hagree, ha, hb⟩ := h
    refine ⟨⟨by omega, by simp [ha, hb], fun earlier _ hlt => ?_⟩, ha, hb⟩
    exact hagree (earlier - 1) (by omega)
  · rintro ⟨⟨-, -, hagree⟩, ha, hb⟩
    refine ⟨fun j hj => ?_, ha, hb⟩
    have hsame := hagree (j + 1) (by omega) (by omega)
    rwa [Nat.add_sub_cancel] at hsame

/-- The key is the word of the bytes in reverse, a device sends the bits by their places in the
bytes, and the two agree: different addresses have different keys, and the smaller key is that of
the address that sends the zero at the first position where they differ. -/
theorem searchKey_is_wire_order :
    (∀ a : Address, a.searchKey = (BitVec.ofNat 64 (littleEndian a.bytes)).reverse.toNat) ∧
    (∀ (a : Address) (position : Nat), a.bit (position - 1) = a.sentAt position) ∧
    ∀ a b : Address, (a.searchKey = b.searchKey ↔ a = b) ∧
      (a.searchKey < b.searchKey ↔ ∃ position,
        PartAt a b position ∧ a.sentAt position = false ∧ b.sentAt position = true) := by
  refine ⟨searchKey_eq_littleEndian, fun a position => (sentAt_eq_bit a position).symm, ?_⟩
  intro a b
  refine ⟨searchKey_inj, ?_⟩
  rw [searchKey_lt_iff]
  constructor
  · rintro ⟨k, hk⟩
    exact ⟨k + 1, forks_iff_partAt.mp hk⟩
  · rintro ⟨position, hpart, hsent⟩
    obtain ⟨k, rfl⟩ := Nat.exists_eq_add_of_le' hpart.1.1
    exact ⟨k, forks_iff_partAt.mpr ⟨hpart, hsent⟩⟩

/-- The lowest bit of a byte comes first, so this is not the order of the bytes. -/
example : ofBytes [1] < ofBytes [2] ∧ (ofBytes [2]).searchKey < (ofBytes [1]).searchKey := by
  decide +kernel

end BusMaster.Address
