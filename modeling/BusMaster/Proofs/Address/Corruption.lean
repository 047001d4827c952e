import BusMaster.Proofs.Address.Bytes
import BusMaster.Proofs.Checksum.Residue

/-!
# Corrupted addresses

Two valid addresses differ in a stream of bits that leaves nothing in the register. A
stream of few ones does not, nor does a short burst:

* `remainder_ne_zero_of_odd`: the register has as many ones as the stream, up to an even
  number;
* `remainder_ne_zero_of_pair`: a single one comes back to where it was after 127 moves
  only;
* `Address.differences`: the bits in which two addresses differ;
* `Address.corruption_detected`: a valid address with up to three bits changed, or with
  any change within eight consecutive bits, is not valid.
-/

namespace BusMaster

namespace Crc

variable {f : Nat → Bool} {n : Nat}

/-! ## An odd number of ones -/

/-- The register has an odd number of ones. -/
def isOdd (register : BitVec 8) : Bool :=
  (List.range 8).foldl (fun odd k => odd ^^ register.getLsbD k) false

/-- The polynomial is a multiple of `x + 1`: with the term that is left out it has an even
number of terms. -/
theorem isOdd_feedBit : ∀ (register : BitVec 8) (bit : Bool),
    isOdd (maximDow.feedBit register bit) = (isOdd register ^^ bit) := by
  decide +kernel

theorem isOdd_remainder (f : Nat → Bool) (n : Nat) :
    isOdd (maximDow.remainder f n) = decide ((List.range n).countP f % 2 = 1) := by
  induction n with
  | zero =>
    show isOdd 0 = false
    decide
  | succ n ih =>
    rw [remainder, isOdd_feedBit, ih, List.range_succ, List.countP_append, List.countP_singleton]
    cases f n
    · simp
    · have hflip : ∀ m : Nat, (decide (m % 2 = 1) ^^ true) = decide ((m + 1) % 2 = 1) := by
        intro m
        rcases Nat.mod_two_eq_zero_or_one m with h | h <;> simp [h, Nat.add_mod]
      simp [hflip]

theorem remainder_ne_zero_of_odd (h : (List.range n).countP f % 2 = 1) :
    maximDow.remainder f n ≠ 0 := by
  intro hzero
  have hodd := isOdd_remainder f n
  rw [hzero, h] at hodd
  exact absurd hodd (by decide)

/-! ## Two ones -/

/-- The order of the polynomial is 127. -/
theorem iterate_shift_one_ne : ∀ d < 127, 0 < d → maximDow.shift^[d] 1 ≠ 1 := by
  decide +kernel

theorem remainder_ne_zero_of_pair {i j : Nat} (hij : i < j) (hjn : j < n) (hnear : j < i + 127)
    (hi : f i = true) (hj : f j = true) (hrest : ∀ k < n, k ≠ i → k ≠ j → f k = false) :
    maximDow.remainder f n ≠ 0 := by
  have hlowest : lowest 8 true = 1 := by decide
  have hfirst : maximDow.remainder f (i + 1) = maximDow.shift 1 := by
    rw [remainder, remainder_eq_zero fun k hk => hrest k (by omega) (by omega) (by omega), hi,
      feedBit_eq, hlowest]
    rfl
  have hbetween : maximDow.remainder f j = maximDow.shift^[j - i] 1 := by
    have hquiet := remainder_quiet (c := maximDow) (f := f) (m := i + 1) (n := j - i - 1)
      fun k hm hk => hrest k (by omega) (by omega) (by omega)
    rw [hfirst, ← Function.iterate_succ_apply] at hquiet
    rwa [show i + 1 + (j - i - 1) = j by omega, show (j - i - 1).succ = j - i by omega] at hquiet
  rw [Ne, remainder_eq_zero_iff (m := j + 1) maximDow_hasConstant (by omega)
    fun k hm hk => hrest k (by omega) (by omega) (by omega)]
  intro hzero
  rw [remainder, hj, feedBit_eq, hlowest, hbetween] at hzero
  have hone := eq_zero_of_shift maximDow_hasConstant hzero
  exact iterate_shift_one_ne (j - i) (by omega) (by omega) (BitVec.xor_eq_zero_iff.mp hone)

end Crc

namespace Address

open Crc

variable {a b : Address}

/-! ## The bits of an address -/

/-- The bytes of an address are fed as its bits. -/
theorem checksum_bytes {w : Nat} (c : Crc w) (a : Address) (n : Nat) :
    c.checksum ((List.range n).map a.byte) = c.remainder a.bit (8 * n) := by
  induction n with
  | zero => rfl
  | succ n ih =>
    have hbits : wireBits (a.byte n) = (List.range 8).map fun k => a.bit (8 * n + k) := by
      apply List.map_congr_left
      intro k hk
      rw [bit_eq_byte a n (List.mem_range.mp hk)]
    rw [List.range_succ, List.map_append, checksum_append, ih, Nat.mul_succ, remainder_add, ← hbits]
    rfl

theorem hasValidChecksum_iff_remainder (a : Address) :
    a.hasValidChecksum = true ↔ maximDow.remainder a.bit 64 = 0 := by
  have hsum := checksum_bytes maximDow a 8
  rw [hasValidChecksum_iff, crc8, bytes, hsum, ← UInt8.toBitVec_inj]
  rfl

/-- The places of the bits in which two addresses differ. -/
def differences (a b : Address) : List Nat :=
  (List.range 64).filter fun k => a.bit k ^^ b.bit k

theorem mem_differences {k : Nat} :
    k ∈ differences a b ↔ k < 64 ∧ (a.bit k ^^ b.bit k) = true := by
  rw [differences, List.mem_filter, List.mem_range]

theorem sorted_differences (a b : Address) : (differences a b).Pairwise (· < ·) :=
  List.pairwise_lt_range.filter _

theorem differences_ne_nil (h : b ≠ a) : differences a b ≠ [] := by
  intro hnil
  refine h (ext_bit fun k hk => ?_)
  have hnone : k ∉ differences a b := by simp [hnil]
  rw [mem_differences] at hnone
  cases ha : a.bit k <;> cases hb : b.bit k <;> simp_all

/-- What two valid addresses differ in leaves nothing. -/
theorem remainder_differences (ha : a.hasValidChecksum = true) (hb : b.hasValidChecksum = true) :
    maximDow.remainder (fun k => a.bit k ^^ b.bit k) 64 = 0 := by
  rw [hasValidChecksum_iff_remainder] at ha hb
  rw [remainder_xor, ha, hb]
  exact BitVec.xor_self

/-! ## Small changes -/

theorem not_valid_of_few (ha : a.hasValidChecksum = true) (hne : b ≠ a)
    (hfew : (differences a b).length ≤ 3) : b.hasValidChecksum = false := by
  by_contra hb
  have hzero := remainder_differences ha (Bool.of_not_eq_false hb)
  have hsome := List.length_pos_iff.mpr (differences_ne_nil hne)
  rcases (by omega : (differences a b).length % 2 = 1 ∨ (differences a b).length = 2)
    with hodd | htwo
  · refine remainder_ne_zero_of_odd ?_ hzero
    rwa [List.countP_eq_length_filter]
  · obtain ⟨i, j, hd⟩ := List.length_eq_two.mp htwo
    have hmem : ∀ k, (k = i ∨ k = j) ↔ k < 64 ∧ (a.bit k ^^ b.bit k) = true := by
      intro k
      rw [← mem_differences, hd, List.mem_pair]
    have hij : i < j := by
      have hsorted := sorted_differences a b
      rw [hd] at hsorted
      exact List.rel_of_pairwise_cons hsorted (List.mem_singleton.mpr rfl)
    obtain ⟨hi64, hi⟩ := (hmem i).mp (.inl rfl)
    obtain ⟨hj64, hj⟩ := (hmem j).mp (.inr rfl)
    refine remainder_ne_zero_of_pair hij hj64 (by omega) hi hj (fun k hk hki hkj => ?_) hzero
    by_contra hf
    exact absurd ((hmem k).mpr ⟨hk, Bool.of_not_eq_false hf⟩) (by simp [hki, hkj])

theorem not_valid_of_burst (ha : a.hasValidChecksum = true) (hne : b ≠ a) {i : Nat}
    (hin : ∀ k ∈ differences a b, i ≤ k ∧ k < i + 8) : b.hasValidChecksum = false := by
  by_contra hb
  have hzero := remainder_differences ha (Bool.of_not_eq_false hb)
  -- A stretch that reaches beyond the last bit is moved back to end with it.
  refine remainder_ne_zero_of_burst (m := min i 56) maximDow_hasConstant (by omega)
    (fun k hk hout => ?_) ?_ hzero
  · by_contra hf
    have := hin k (mem_differences.mpr ⟨hk, Bool.of_not_eq_false hf⟩)
    omega
  · obtain ⟨k, hk⟩ := List.exists_mem_of_ne_nil _ (differences_ne_nil hne)
    exact ⟨k, mem_differences.mp hk⟩

/-- A valid address with one, two or three of its bits changed is not valid, and neither is
it with any change that stays within eight consecutive bits in the order of the wire. -/
theorem corruption_detected (ha : a.hasValidChecksum = true) (hne : b ≠ a)
    (hchange : (differences a b).length ≤ 3 ∨
      ∃ i, ∀ k ∈ differences a b, i ≤ k ∧ k < i + 8) : b.hasValidChecksum = false := by
  rcases hchange with hfew | ⟨i, hin⟩
  · exact not_valid_of_few ha hne hfew
  · exact not_valid_of_burst ha hne hin

/-- Three bits far apart, one of them in the checksum byte, and a byte's width of bits
across two bytes. -/
theorem corruption_detected_of_known :
    let a : Address := .ofBytes [0x02, 0x1C, 0xB8, 0x01, 0x00, 0x00, 0x00, 0xA2]
    let few : Address := .ofBytes [0x03, 0x1C, 0xB8, 0x01, 0x10, 0x00, 0x00, 0x22]
    let burst : Address := .ofBytes [0x02, 0x1C, 0x08, 0x08, 0x00, 0x00, 0x00, 0xA2]
    a.hasValidChecksum = true ∧
      differences a few = [0, 36, 63] ∧ few.hasValidChecksum = false ∧
      differences a burst = [20, 21, 23, 24, 27] ∧ burst.hasValidChecksum = false := by
  intro a few burst
  have hvalid : a.hasValidChecksum = true := by decide +kernel
  have hfew : differences a few = [0, 36, 63] := by decide +kernel
  have hburst : differences a burst = [20, 21, 23, 24, 27] := by decide +kernel
  refine ⟨hvalid, hfew, ?_, hburst, ?_⟩
  · exact corruption_detected hvalid (by decide +kernel) (.inl (by simp [hfew]))
  · exact corruption_detected hvalid (by decide +kernel) (.inr ⟨20, by simp [hburst]⟩)

end Address

end BusMaster
