import BusMaster.Address.Basic
import Mathlib.Data.List.Perm.Subperm
import Mathlib.Data.Nat.Bitwise

/-!
# Addresses in the order of a search

A search decides on one bit after the other, so what counts is where two
addresses part: `Agree n a b` (the same first `n` bits) and `Forks k a b`
(the same bits before bit `k`, where `a` sends a zero and `b` a one).

* `ext_bit`, `exists_forks`: different addresses fork at one bit, one way or
  the other;
* `searchKey_lt_iff`: the search key is smaller where the fork has the zero;
* `Forks.of_agree`, `Forks.of_agree_right`: a fork seen from a third address;
* `ascending_snoc`, `nodup_of_ascending`, `length_le_of_ascending`: addresses one
  after the other in that order.
-/

namespace BusMaster.Address

theorem bit_of_ge (a : Address) {k : Nat} (hk : 64 ≤ k) : a.bit k = false :=
  BitVec.getLsbD_of_ge a.raw k hk

theorem ext_bit {a b : Address} (h : ∀ k < 64, a.bit k = b.bit k) : a = b := by
  obtain ⟨x⟩ := a
  obtain ⟨y⟩ := b
  exact congrArg Address.mk (BitVec.eq_of_getLsbD_eq fun k hk => h k hk)

/-- The first `n` bits of the two addresses are the same. -/
def Agree (n : Nat) (a b : Address) : Prop :=
  ∀ k < n, a.bit k = b.bit k

/-- The addresses part at bit `k`: the first sends a zero there and the second
a one, after the same bits. -/
def Forks (k : Nat) (a b : Address) : Prop :=
  Agree k a b ∧ a.bit k = false ∧ b.bit k = true

namespace Agree

variable {m n : Nat} {a b c : Address}

@[refl] theorem refl (n : Nat) (a : Address) : Agree n a a :=
  fun _ _ => rfl

theorem zero (a b : Address) : Agree 0 a b :=
  fun _ h => absurd h (Nat.not_lt_zero _)

@[symm] theorem symm (h : Agree n a b) : Agree n b a :=
  fun k hk => (h k hk).symm

theorem trans (h : Agree n a b) (h' : Agree n b c) : Agree n a c :=
  fun k hk => (h k hk).trans (h' k hk)

theorem mono (h : Agree n a b) (hm : m ≤ n) : Agree m a b :=
  fun k hk => h k (by omega)

theorem succ (h : Agree n a b) (hb : a.bit n = b.bit n) : Agree (n + 1) a b := by
  intro k hk
  rcases Nat.lt_or_eq_of_le (Nat.le_of_lt_succ hk) with hk | rfl
  · exact h k hk
  · exact hb

theorem eq (h : Agree 64 a b) : a = b :=
  ext_bit h

end Agree

theorem Forks.lt_64 {k : Nat} {a b : Address} (h : Forks k a b) : k < 64 := by
  rcases Nat.lt_or_ge k 64 with hk | hk
  · exact hk
  · have := h.2.2
    rw [bit_of_ge b hk] at this
    cases this

theorem Forks.ne {k : Nat} {a b : Address} (h : Forks k a b) : a ≠ b := by
  rintro rfl
  have := h.2.1.symm.trans h.2.2
  cases this

/-- Addresses that differ somewhere below bit `n` fork there. -/
theorem exists_forks_of_not_agree {n : Nat} {a b : Address} (h : ¬ Agree n a b) :
    ∃ k < n, Forks k a b ∨ Forks k b a := by
  induction n with
  | zero => exact absurd (Agree.zero a b) h
  | succ n ih =>
    by_cases hn : Agree n a b
    · refine ⟨n, Nat.lt_succ_self n, ?_⟩
      have hne : a.bit n ≠ b.bit n := fun hb => h (hn.succ hb)
      cases ha : a.bit n <;> cases hb : b.bit n
      · exact absurd (ha.trans hb.symm) hne
      · exact .inl ⟨hn, ha, hb⟩
      · exact .inr ⟨hn.symm, hb, ha⟩
      · exact absurd (ha.trans hb.symm) hne
    · obtain ⟨k, hk, hf⟩ := ih hn
      exact ⟨k, by omega, hf⟩

theorem exists_forks {a b : Address} (h : a ≠ b) : ∃ k, Forks k a b ∨ Forks k b a := by
  obtain ⟨k, -, hk⟩ := exists_forks_of_not_agree (n := 64) fun hag => h hag.eq
  exact ⟨k, hk⟩

/-! ## The search key -/

theorem testBit_searchKey (a : Address) (i : Nat) :
    a.searchKey.testBit i = (decide (i < 64) && a.bit (63 - i)) := by
  rw [searchKey, BitVec.testBit_toNat, BitVec.getLsbD_reverse, BitVec.getMsbD_eq_getLsbD]
  rfl

theorem Forks.searchKey_lt {k : Nat} {a b : Address} (h : Forks k a b) :
    a.searchKey < b.searchKey := by
  have hk := h.lt_64
  obtain ⟨hag, ha, hb⟩ := h
  refine Nat.lt_of_testBit (63 - k) ?_ ?_ fun j hj => ?_
  · rw [testBit_searchKey, show 63 - (63 - k) = k by omega, ha, Bool.and_false]
  · rw [testBit_searchKey, show 63 - (63 - k) = k by omega, hb, Bool.and_true]
    exact decide_eq_true (by omega)
  · rw [testBit_searchKey, testBit_searchKey]
    rcases Nat.lt_or_ge j 64 with hj' | hj'
    · rw [hag (63 - j) (by omega)]
    · rw [decide_eq_false (by omega), Bool.false_and, Bool.false_and]

/-- The key is smaller where the first bit that differs is the zero. -/
theorem searchKey_lt_iff {a b : Address} : a.searchKey < b.searchKey ↔ ∃ k, Forks k a b := by
  constructor
  · intro h
    have hne : a ≠ b := by
      rintro rfl
      exact Nat.lt_irrefl _ h
    obtain ⟨k, hk | hk⟩ := exists_forks hne
    · exact ⟨k, hk⟩
    · exact absurd hk.searchKey_lt (Nat.lt_asymm h)
  · rintro ⟨k, hk⟩
    exact hk.searchKey_lt

theorem searchKey_inj {a b : Address} : a.searchKey = b.searchKey ↔ a = b := by
  constructor
  · intro h
    by_contra hne
    obtain ⟨k, hk | hk⟩ := exists_forks hne
    · exact Nat.ne_of_lt hk.searchKey_lt h
    · exact Nat.ne_of_gt hk.searchKey_lt h
  · rintro rfl
    rfl

theorem searchKey_le_iff {a b : Address} :
    a.searchKey ≤ b.searchKey ↔ a = b ∨ ∃ k, Forks k a b := by
  rw [Nat.le_iff_lt_or_eq, searchKey_lt_iff, searchKey_inj, or_comm]

/-! ## Forks and a third address -/

/-- A fork stays where it is when one side is replaced by an address that has
the same bits up to it. -/
theorem Forks.of_agree {k : Nat} {a b c : Address} (h : Forks k a b) (hc : Agree (k + 1) c a) :
    Forks k c b :=
  ⟨(hc.mono (by omega)).trans h.1, (hc k (by omega)).trans h.2.1, h.2.2⟩

theorem Forks.of_agree_right {k : Nat} {a b c : Address} (h : Forks k a b)
    (hc : Agree (k + 1) c b) : Forks k a c :=
  ⟨h.1.trans (hc.mono (by omega)).symm, h.2.1, (hc k (by omega)).trans h.2.2⟩

/-- Two addresses fork at one bit only. -/
theorem Forks.unique {j k : Nat} {a b : Address} (h : Forks j a b) (h' : Forks k a b) : j = k := by
  rcases Nat.lt_trichotomy j k with hjk | hjk | hjk
  · have := h.2.1.symm.trans ((h'.1 j hjk).trans h.2.2)
    cases this
  · exact hjk
  · have := h'.2.1.symm.trans ((h.1 k hjk).trans h'.2.2)
    cases this

/-! ## Ascending addresses -/

theorem searchKey_lt_two_pow (a : Address) : a.searchKey < 2 ^ 64 :=
  a.raw.reverse.isLt

variable {as : List Address} {a : Address}

theorem ascending_snoc (h : as.Pairwise (·.searchKey < ·.searchKey))
    (hlt : ∀ x ∈ as, x.searchKey < a.searchKey) :
    (as ++ [a]).Pairwise (·.searchKey < ·.searchKey) := by
  refine List.pairwise_append.mpr ⟨h, List.pairwise_singleton _ _, fun x hx y hy => ?_⟩
  rw [List.mem_singleton.mp hy]
  exact hlt x hx

/-- Nothing up to the last of them is beyond it. -/
theorem forall_le_snoc (hlt : ∀ x ∈ as, x.searchKey < a.searchKey) :
    ∀ x ∈ as ++ [a], x.searchKey ≤ a.searchKey :=
  List.forall_mem_append.mpr
    ⟨fun x hx => Nat.le_of_lt (hlt x hx), List.forall_mem_singleton.mpr (Nat.le_refl _)⟩

theorem nodup_of_ascending (h : as.Pairwise (·.searchKey < ·.searchKey)) : as.Nodup :=
  h.imp fun hlt heq => Nat.ne_of_lt hlt (congrArg _ heq)

/-- There are no more of them than there are keys. -/
theorem length_le_of_ascending (h : as.Pairwise (·.searchKey < ·.searchKey)) :
    as.length ≤ 2 ^ 64 := by
  have hnodup : (as.map searchKey).Nodup := List.pairwise_map.mpr (h.imp Nat.ne_of_lt)
  have hsub : ∀ n ∈ as.map searchKey, n ∈ List.range (2 ^ 64) := by
    intro n hn
    obtain ⟨x, -, rfl⟩ := List.mem_map.mp hn
    exact List.mem_range.mpr x.searchKey_lt_two_pow
  have hle := (List.Nodup.subperm hnodup hsub).length_le
  rwa [List.length_map, List.length_range] at hle

end BusMaster.Address
