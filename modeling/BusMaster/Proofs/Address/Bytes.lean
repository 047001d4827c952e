import BusMaster.Proofs.Address.SearchOrder

/-!
# The bits and the bytes of an address

* `bit_eq_byte`, `bit_ofBytes`: a bit is a bit of one byte;
* `ofBytes_bytes`, `bytes_ofBytes`: the eight bytes say which address it is;
* `eq_of_hasValidChecksum`: and so do the seven before the checksum, where that is
  valid;
* `lt_irrefl`, `lt_trans`, `lt_of_not_lt`: addresses in the order of their bytes.
-/

namespace BusMaster.Address

variable {a b c : Address} {n i : Nat}

theorem bit_eq_byte (a : Address) (i : Nat) {k : Nat} (hk : k < 8) :
    a.bit (8 * i + k) = (a.byte i).toBitVec.getLsbD k := by
  rw [byte, UInt8.toBitVec_ofBitVec, BitVec.getLsbD_extractLsb', decide_eq_true hk, Bool.true_and]
  rfl

/-- Byte `k / 8` of those given sends bit `k`. -/
theorem bit_ofBytes (bytes : List UInt8) {k : Nat} (hk : k < 64) :
    (ofBytes bytes).bit k = (bytes.getD (k / 8) 0).toBitVec.getLsbD (k % 8) := by
  simp only [ofBytes, bit]
  induction bytes generalizing k with
  | nil => simp
  | cons byte bytes ih =>
    rw [List.foldr_cons, BitVec.getLsbD_or, BitVec.getLsbD_shiftLeft, BitVec.getLsbD_setWidth]
    by_cases h8 : k < 8
    · simp [h8, hk, Nat.div_eq_of_lt h8, Nat.mod_eq_of_lt h8]
    · obtain ⟨j, rfl⟩ := Nat.exists_eq_add_of_le' (Nat.not_lt.mp h8)
      have hhigh : byte.toBitVec.getLsbD (j + 8) = false := BitVec.getLsbD_of_ge _ _ (by omega)
      rw [hhigh, Nat.add_sub_cancel, ih (by omega), Nat.add_div_right j (by decide),
        Nat.add_mod_right, List.getD_cons_succ]
      simp [hk]

theorem ofBytes_bytes (a : Address) : ofBytes a.bytes = a := by
  refine ext_bit fun k hk => ?_
  have hbyte : a.bytes.getD (k / 8) 0 = a.byte (k / 8) := by
    have : k / 8 < 8 := by omega
    simp [bytes, this]
  rw [bit_ofBytes a.bytes hk, hbyte, ← bit_eq_byte a _ (Nat.mod_lt k (by decide)),
    Nat.div_add_mod]

theorem length_bytes (a : Address) : a.bytes.length = 8 := rfl

theorem byte_ofBytes (bytes : List UInt8) (hi : i < 8) : (ofBytes bytes).byte i = bytes.getD i 0 := by
  refine UInt8.toBitVec_inj.mp (BitVec.eq_of_getLsbD_eq fun k hk => ?_)
  rw [← bit_eq_byte _ i hk, bit_ofBytes bytes (by omega), show (8 * i + k) / 8 = i by omega,
    show (8 * i + k) % 8 = k by omega]

/-- Eight bytes are those of the address that they make. -/
theorem bytes_ofBytes {bytes : List UInt8} (h : bytes.length = 8) :
    (ofBytes bytes).bytes = bytes := by
  refine List.ext_getElem (by rw [length_bytes, h]) fun i hi hi' => ?_
  rw [← List.getD_eq_getElem _ 0 hi', ← byte_ofBytes bytes (by omega)]
  simp [Address.bytes]

/-- Addresses have the same bytes as far as they have the same bits. -/
theorem Agree.byte (h : Agree n a b) (hi : 8 * i + 8 ≤ n) : a.byte i = b.byte i := by
  refine UInt8.toBitVec_inj.mp (BitVec.eq_of_getLsbD_eq fun k hk => ?_)
  rw [← bit_eq_byte a i hk, ← bit_eq_byte b i hk]
  exact h (8 * i + k) (by omega)

/-- Addresses with valid checksums are the same if they are before the checksum. -/
theorem eq_of_hasValidChecksum (ha : a.hasValidChecksum = true) (hb : b.hasValidChecksum = true)
    (h : Agree 56 a b) : a = b := by
  have hbody : (List.range 7).map a.byte = (List.range 7).map b.byte := by
    refine List.map_congr_left fun i hi => h.byte ?_
    have := List.mem_range.mp hi
    omega
  have hsum : a.byte 7 = b.byte 7 := by
    rw [hasValidChecksum, beq_iff_eq] at ha hb
    rw [hbody] at ha
    exact ha.symm.trans hb
  refine Agree.eq fun k hk => ?_
  by_cases hk' : k < 56
  · exact h k hk'
  · obtain ⟨j, rfl⟩ := Nat.exists_eq_add_of_le (Nat.not_lt.mp hk')
    have hj : j < 8 := by omega
    rw [show 56 + j = 8 * 7 + j from rfl, bit_eq_byte a 7 hj, bit_eq_byte b 7 hj, hsum]

/-! ## The order of the bytes -/

theorem lt_irrefl (a : Address) : ¬ a < a :=
  List.lt_irrefl a.bytes

theorem lt_trans (h : a < b) (h' : b < c) : a < c := by
  have hbytes : a.bytes < b.bytes := h
  exact List.lt_trans hbytes h'

/-- Of two different addresses one comes first. -/
theorem lt_of_not_lt (h : ¬ a < b) (hne : a ≠ b) : b < a := by
  by_contra h'
  have hbytes : a.bytes = b.bytes := List.le_antisymm (List.not_lt.mp h') (List.not_lt.mp h)
  exact hne (by rw [← ofBytes_bytes a, hbytes, ofBytes_bytes])

theorem nodup_of_sorted {addresses : List Address} (h : addresses.Pairwise (· < ·)) :
    addresses.Nodup := by
  refine h.imp ?_
  rintro a _ hab rfl
  exact lt_irrefl a hab

end BusMaster.Address
