import BusMaster.Checksum
import Mathlib.Logic.Function.Iterate

/-!
# The division behind a checksum

A step of the division is two: the bit that arrives is added to the low end of the
register (`feedBit_eq`), and the register moves down a place. The move is linear
(`shift_xor`), and loses nothing if the polynomial has a constant term
(`shift_injective`).

* `foldl_feedBit_bits`: the bits of a word, fed one by one, are the word added at once and
  as many moves;
* `remainder`: the register after so many bits of a stream, linear in the stream
  (`remainder_xor`) and made of nothing but moves where the stream is quiet
  (`remainder_quiet`);
* `remainder_ne_zero_of_burst`: a stream that is quiet but for a stretch as long as the
  register leaves something in it.
-/

namespace BusMaster.Crc

variable {w : Nat} {c : Crc w} {f g : Nat → Bool} {m n : Nat}

/-! ## One step -/

/-- The register moved down a place. -/
def shift (c : Crc w) (register : BitVec w) : BitVec w :=
  c.feedBit register false

/-- The polynomial has a constant term. It stands at the high end. -/
def HasConstant (c : Crc w) : Prop :=
  c.polynomial.msb = true

instance (c : Crc w) : Decidable c.HasConstant :=
  inferInstanceAs (Decidable (c.polynomial.msb = true))

/-- A bit as the lowest of a word. -/
def lowest (w : Nat) (bit : Bool) : BitVec w :=
  (BitVec.ofBool bit).setWidth w

theorem getLsbD_lowest (bit : Bool) (k : Nat) :
    (lowest w bit).getLsbD k = (decide (k < w) && (decide (k = 0) && bit)) := by
  simp [lowest, BitVec.getLsbD_ofBool]

theorem shift_of_low_clear {register : BitVec w} (h : register.getLsbD 0 = false) :
    c.shift register = register >>> 1 := by
  simp [shift, feedBit, h]

theorem shift_of_low_set {register : BitVec w} (h : register.getLsbD 0 = true) :
    c.shift register = (register >>> 1) ^^^ c.polynomial := by
  simp [shift, feedBit, h]

@[simp] theorem shift_zero : c.shift 0 = 0 := by
  simp [shift, feedBit]

/-- A bit is added to the low end, and the register moves down. -/
theorem feedBit_eq (register : BitVec w) (bit : Bool) :
    c.feedBit register bit = c.shift (register ^^^ lowest w bit) := by
  rcases Nat.eq_zero_or_pos w with rfl | hw
  · exact Subsingleton.elim _ _
  · have hlow : (register ^^^ lowest w bit).getLsbD 0 = (register.getLsbD 0 != bit) := by
      rw [BitVec.getLsbD_xor, getLsbD_lowest]
      simp [hw]
    have hrest : (register ^^^ lowest w bit) >>> 1 = register >>> 1 := by
      apply BitVec.eq_of_getLsbD_eq
      intro k hk
      simp only [BitVec.getLsbD_ushiftRight, BitVec.getLsbD_xor, getLsbD_lowest,
        show ¬ (1 + k = 0) by omega]
      simp
    unfold shift feedBit
    rw [hlow, hrest, Bool.bne_false]

theorem shift_xor (a b : BitVec w) : c.shift (a ^^^ b) = c.shift a ^^^ c.shift b := by
  unfold shift feedBit
  simp only [BitVec.getLsbD_xor, BitVec.ushiftRight_xor_distrib, Bool.bne_false]
  cases a.getLsbD 0 <;> cases b.getLsbD 0
  · simp
  · simp [BitVec.xor_assoc]
  · simp [BitVec.xor_assoc, BitVec.xor_comm c.polynomial]
  · -- The polynomial is added on both sides, and cancels.
    simp only [Bool.xor_self, Bool.false_eq_true, if_false, if_true]
    rw [BitVec.xor_assoc, BitVec.xor_comm c.polynomial, BitVec.xor_assoc, BitVec.xor_self,
      BitVec.xor_zero]

/-- A move loses nothing: a polynomial with a constant term shows at the high end. -/
theorem eq_zero_of_shift (hc : c.HasConstant) {register : BitVec w}
    (h : c.shift register = 0) : register = 0 := by
  cases hlow : register.getLsbD 0 with
  | false =>
    rw [shift_of_low_clear hlow] at h
    apply BitVec.eq_of_getLsbD_eq
    intro k hk
    show register.getLsbD k = (0#w).getLsbD k
    rw [BitVec.getLsbD_zero]
    cases k with
    | zero => exact hlow
    | succ k =>
      have hbit := congrArg (·.getLsbD k) h
      simpa [BitVec.getLsbD_ushiftRight, Nat.add_comm] using hbit
  | true =>
    rw [shift_of_low_set hlow] at h
    have hmoved : register >>> 1 = c.polynomial := BitVec.xor_eq_zero_iff.mp h
    have hhigh : (register >>> 1).msb = false := by
      simp [BitVec.msb_ushiftRight]
    unfold HasConstant at hc
    rw [← hmoved, hhigh] at hc
    cases hc

theorem shift_injective (hc : c.HasConstant) : Function.Injective c.shift := by
  intro a b h
  apply BitVec.xor_eq_zero_iff.mp
  apply eq_zero_of_shift hc
  rw [shift_xor, h]
  exact BitVec.xor_self

theorem iterate_shift_eq_zero_iff (hc : c.HasConstant) (n : Nat) {register : BitVec w} :
    c.shift^[n] register = 0 ↔ register = 0 := by
  have hzero : c.shift^[n] 0 = 0 := Function.iterate_fixed shift_zero n
  constructor
  · intro h
    exact (shift_injective hc).iterate n (h.trans hzero.symm)
  · rintro rfl
    exact hzero

/-! ## Some steps -/

/-- A bit that is next to leave, added before a move. -/
theorem shift_ushiftRight_xor (x : BitVec w) (n : Nat) :
    c.shift ((x >>> n) ^^^ lowest w (x.getLsbD n)) = x >>> (n + 1) := by
  rcases Nat.eq_zero_or_pos w with rfl | hw
  · exact Subsingleton.elim _ _
  · have hclear : ((x >>> n) ^^^ lowest w (x.getLsbD n)).getLsbD 0 = false := by
      simp only [BitVec.getLsbD_xor, BitVec.getLsbD_ushiftRight, getLsbD_lowest, Nat.add_zero, hw,
        decide_true, Bool.true_and, Bool.xor_self]
    rw [shift_of_low_clear hclear]
    apply BitVec.eq_of_getLsbD_eq
    intro k hk
    simp only [BitVec.getLsbD_ushiftRight, BitVec.getLsbD_xor, getLsbD_lowest,
      show ¬ (1 + k = 0) by omega, decide_false, Bool.false_and, Bool.and_false, Bool.xor_false]
    congr 1
    omega

/-- The low bits of a word, fed one by one: the word added at once, as many moves, and what
of the word has not been fed taken away again. By induction on the bits. -/
theorem foldl_feedBit_bits (register x : BitVec w) (n : Nat) :
    ((List.range n).map x.getLsbD).foldl c.feedBit register =
      c.shift^[n] (register ^^^ x) ^^^ (x >>> n) := by
  induction n with
  | zero =>
    show register = register ^^^ x ^^^ (x >>> 0)
    rw [BitVec.ushiftRight_zero, BitVec.xor_assoc, BitVec.xor_self, BitVec.xor_zero]
  | succ n ih =>
    rw [List.range_succ, List.map_append, List.foldl_append, ih]
    show c.feedBit _ (x.getLsbD n) = _
    rw [feedBit_eq, BitVec.xor_assoc, shift_xor, shift_ushiftRight_xor,
      Function.iterate_succ_apply']

/-- A register's width of bits. -/
theorem foldl_feedBit_word (register x : BitVec w) :
    ((List.range w).map x.getLsbD).foldl c.feedBit register = c.shift^[w] (register ^^^ x) := by
  rw [foldl_feedBit_bits, BitVec.ushiftRight_eq_zero (Nat.le_refl w), BitVec.xor_zero]

/-- A byte string is fed as the string of its bits. -/
theorem foldl_feedByte (register : BitVec w) (data : List UInt8) :
    data.foldl c.feedByte register = (data.flatMap wireBits).foldl c.feedBit register := by
  rw [List.foldl_flatMap]
  rfl

/-! ## Streams -/

/-- The register after the first bits of a stream. -/
def remainder (c : Crc w) (f : Nat → Bool) : Nat → BitVec w
  | 0 => 0
  | n + 1 => c.feedBit (c.remainder f n) (f n)

theorem remainder_add (f : Nat → Bool) (m n : Nat) :
    c.remainder f (m + n) =
      ((List.range n).map fun k => f (m + k)).foldl c.feedBit (c.remainder f m) := by
  induction n with
  | zero => rfl
  | succ n ih =>
    rw [List.range_succ, List.map_append, List.foldl_append, ← ih]
    rfl

theorem remainder_xor (f g : Nat → Bool) (n : Nat) :
    c.remainder (fun k => f k ^^ g k) n = c.remainder f n ^^^ c.remainder g n := by
  induction n with
  | zero => simp [remainder]
  | succ n ih =>
    have hbit : ∀ a b : Bool, lowest w (a ^^ b) = lowest w a ^^^ lowest w b := by
      intro a b
      rw [lowest, BitVec.ofBool_xor_ofBool.symm, BitVec.setWidth_xor]
      rfl
    simp only [remainder, feedBit_eq, ih, hbit, ← shift_xor]
    congr 1
    ac_rfl

/-- Where a stream is quiet the register only moves. -/
theorem remainder_quiet (h : ∀ k, m ≤ k → k < m + n → f k = false) :
    c.remainder f (m + n) = c.shift^[n] (c.remainder f m) := by
  induction n with
  | zero => rfl
  | succ n ih =>
    rw [← Nat.add_assoc, remainder, ih fun k hm hn => h k hm (by omega),
      h (m + n) (by omega) (by omega), Function.iterate_succ_apply']
    rfl

/-- A stream that has been quiet leaves nothing. -/
theorem remainder_eq_zero (h : ∀ k < n, f k = false) : c.remainder f n = 0 := by
  have hquiet := remainder_quiet (c := c) (f := f) (m := 0) (n := n) fun k _ hk => h k (by omega)
  rw [Nat.zero_add] at hquiet
  rw [hquiet]
  exact Function.iterate_fixed shift_zero n

/-- From one place to another of a quiet stream nothing is lost. -/
theorem remainder_eq_zero_iff (hc : c.HasConstant) (hmn : m ≤ n)
    (h : ∀ k, m ≤ k → k < n → f k = false) : c.remainder f n = 0 ↔ c.remainder f m = 0 := by
  obtain ⟨d, rfl⟩ := Nat.exists_eq_add_of_le hmn
  rw [remainder_quiet h, iterate_shift_eq_zero_iff hc]

/-- The bits of a stretch as a word. -/
def stretch (w : Nat) (f : Nat → Bool) (m : Nat) : BitVec w :=
  (BitVec.ofBoolListLE ((List.range w).map fun k => f (m + k))).setWidth w

theorem getLsbD_stretch {k : Nat} (hk : k < w) : (stretch w f m).getLsbD k = f (m + k) := by
  rw [stretch, BitVec.getLsbD_setWidth, BitVec.getLsbD_ofBoolListLE, List.getD_eq_getElem?_getD]
  simp [hk]

/-- A stretch as long as the register is fed as one word. -/
theorem remainder_stretch (f : Nat → Bool) (m : Nat) :
    c.remainder f (m + w) = c.shift^[w] (c.remainder f m ^^^ stretch w f m) := by
  have hbits : ((List.range w).map fun k => f (m + k)) =
      (List.range w).map (stretch w f m).getLsbD := by
    apply List.map_congr_left
    intro k hk
    rw [getLsbD_stretch (List.mem_range.mp hk)]
  rw [remainder_add, hbits, foldl_feedBit_word]

/-- A stream that is quiet outside a stretch as long as the register, and not in it, leaves
something. -/
theorem remainder_ne_zero_of_burst (hc : c.HasConstant) (hn : m + w ≤ n)
    (hquiet : ∀ k < n, k < m ∨ m + w ≤ k → f k = false) (hset : ∃ k < n, f k = true) :
    c.remainder f n ≠ 0 := by
  have hbefore : c.remainder f m = 0 :=
    remainder_eq_zero fun k hk => hquiet k (by omega) (.inl hk)
  have hafter : ∀ k, m + w ≤ k → k < n → f k = false :=
    fun k hm hk => hquiet k hk (.inr hm)
  rw [Ne, remainder_eq_zero_iff hc hn hafter, remainder_stretch, hbefore,
    iterate_shift_eq_zero_iff hc]
  intro hzero
  obtain ⟨k, hk, hf⟩ := hset
  have hin : m ≤ k ∧ k < m + w := by
    by_contra hout
    rw [hquiet k hk (by omega)] at hf
    cases hf
  have hbit := getLsbD_stretch (f := f) (m := m) (show k - m < w by omega)
  have hnone : stretch w f m = 0#w := by simpa using hzero
  rw [hnone, BitVec.getLsbD_zero, Nat.add_sub_cancel' hin.1, hf] at hbit
  cases hbit

end BusMaster.Crc
