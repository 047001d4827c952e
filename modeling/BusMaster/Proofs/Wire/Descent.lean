import BusMaster.Proofs.Address.SearchOrder
import BusMaster.Wire.Descent

/-!
# Where a search pass lands

What one pass finds, said without its walk. The walk is taken apart bit by bit
(`overwrite_succ`): what it writes over the seed never reaches a bit of it that is
still to be read. What it keeps is proved by induction on the bits that are left
(`overwrite_landsAt`).

* `Follows pass S d`: the choices of the pass lead to `d` among the addresses
  `S`, and to no other (`Follows.unique`);
* `LandsAt pass S d z`: the pass comes out there, and the deepest fork of `S` at
  which `d` has the zero is at position `z`;
* `exists_landsAt`, `LandsAt.answer_eq`: a pass lands somewhere if any device
  takes part, and its answer says where.
-/

namespace BusMaster

open Address (Agree Forks)

namespace Address

theorem bit_setBit (a : Address) {k : Nat} (hk : k < 64) (v : Bool) (j : Nat) :
    (a.setBit k v).bit j = if j = k then v else a.bit j := by
  rcases Nat.lt_or_ge j 64 with hj | hj
  · by_cases e : j = k
    · subst e
      cases v <;> simp [setBit, bit, hj]
    · cases v <;> simp [setBit, bit, hj, e]
  · rw [bit_of_ge _ hj, if_neg (by omega), bit_of_ge _ hj]

/-- Writing the next bit of an address that agrees so far. -/
theorem Agree.setBit {n : Nat} {e a : Address} (h : Agree n e a) (hn : n < 64) {v : Bool}
    (hv : e.bit n = v) : Agree (n + 1) e (a.setBit n v) := by
  intro k hk
  rw [bit_setBit a hn]
  split
  · rename_i e
    rw [e, hv]
  · exact h k (by omega)

end Address

namespace SearchPass

variable {pass : SearchPass} {S : List Address} {d d' : Address} {z z' : Nat}

/-- `d` is one of `S`, and wherever it forks from another one it has the bit of
the pass's choice. -/
structure Follows (pass : SearchPass) (S : List Address) (d : Address) : Prop where
  mem : d ∈ S
  zero : ∀ k, ∀ e ∈ S, Forks k d e → pass.choice (k + 1) = false
  one : ∀ k, ∀ e ∈ S, Forks k e d → pass.choice (k + 1) = true

/-- Among `S` the pass comes out at `d`. The deepest of the forks at which `d`
has the zero is at position `z`, counted from 1; `z` is 0 if there is none. -/
structure LandsAt (pass : SearchPass) (S : List Address) (d : Address) (z : Nat) : Prop extends
    Follows pass S d where
  deepest : z = 0 ∨ ∃ e ∈ S, Forks (z - 1) d e
  below : ∀ k, ∀ e ∈ S, Forks k d e → k < z

/-- The choices of a pass lead to one address only. -/
theorem Follows.unique (h : Follows pass S d) (h' : Follows pass S d') : d = d' := by
  by_contra hne
  obtain ⟨k, hk | hk⟩ := Address.exists_forks hne
  · have := (h.zero k d' h'.mem hk).symm.trans (h'.one k d h.mem hk)
    cases this
  · have := (h.one k d' h'.mem hk).symm.trans (h'.zero k d h.mem hk)
    cases this

theorem LandsAt.unique (h : LandsAt pass S d z) (h' : LandsAt pass S d' z') : d = d' ∧ z = z' := by
  obtain rfl := h.toFollows.unique h'.toFollows
  refine ⟨rfl, Nat.le_antisymm ?_ ?_⟩
  · rcases h.deepest with hz | ⟨e, he, hf⟩
    · omega
    · have := h'.below _ e he hf
      omega
  · rcases h'.deepest with hz | ⟨e, he, hf⟩
    · omega
    · have := h.below _ e he hf
      omega

theorem LandsAt.le_64 (h : LandsAt pass S d z) : z ≤ 64 := by
  rcases h.deepest with rfl | ⟨e, -, hf⟩
  · omega
  · have := hf.lt_64
    omega

/-! ## The walk, bit by bit -/

/-- The devices left disagree on bit `index`. -/
def contested (index : Nat) (left : List Address) : Bool :=
  left.any (!·.bit index) && left.any (·.bit index)

/-- The bit that the pass takes. -/
def turn (pass : SearchPass) (index : Nat) (left : List Address) : Bool :=
  if contested index left then pass.choice (index + 1) else left.any (·.bit index)

/-- The devices that took the same turn. -/
def followers (pass : SearchPass) (index : Nat) (left : List Address) : List Address :=
  left.filter (·.bit index == pass.turn index left)

theorem contested_iff {index : Nat} :
    contested index S = true ↔ (∃ e ∈ S, e.bit index = false) ∧ ∃ e ∈ S, e.bit index = true := by
  simp [contested]

theorem mem_followers {index : Nat} {e : Address} :
    e ∈ pass.followers index S ↔ e ∈ S ∧ e.bit index = pass.turn index S := by
  simp [followers]

/-- All devices that are left where they do not disagree take the same turn. -/
theorem bit_eq_turn (pass : SearchPass) {index : Nat} (h : contested index S = false) :
    ∀ e ∈ S, e.bit index = pass.turn index S := by
  intro e he
  rw [turn, h, if_neg (by decide)]
  cases hb : e.bit index
  · have hno : ¬ (S.any (·.bit index) = true) := fun hone => by
      have hone : ∃ e ∈ S, e.bit index = true := by simpa using hone
      rw [contested_iff.mpr ⟨⟨e, he, hb⟩, hone⟩] at h
      cases h
    exact ((Bool.not_eq_true _).mp hno).symm
  · exact (List.any_eq_true.mpr ⟨e, he, hb⟩).symm

theorem followers_ne_nil {index : Nat} (hS : S ≠ []) : pass.followers index S ≠ [] := by
  obtain ⟨e, he⟩ := List.exists_mem_of_ne_nil S hS
  suffices h : ∃ e ∈ S, e.bit index = pass.turn index S by
    obtain ⟨e, he, hb⟩ := h
    exact List.ne_nil_of_mem (mem_followers.mpr ⟨he, hb⟩)
  cases hc : contested index S
  · exact ⟨e, he, bit_eq_turn pass hc e he⟩
  · obtain ⟨⟨a, ha, ha'⟩, ⟨b, hb, hb'⟩⟩ := contested_iff.mp hc
    cases ht : pass.turn index S
    · exact ⟨a, ha, ha'⟩
    · exact ⟨b, hb, hb'⟩

/-- One bit of the walk, as long as the buffer holds the seed's own bit there. -/
theorem overwrite_succ (pass : SearchPass) (index remaining : Nat) {left : List Address}
    (hl : left ≠ []) {walked : Descent} (hseed : walked.address.bit index = pass.seed.bit index) :
    pass.overwrite index (remaining + 1) left walked =
      pass.overwrite (index + 1) remaining (pass.followers index left)
        ⟨walked.address.setBit index (pass.turn index left),
          if contested index left && !pass.turn index left then index + 1
          else walked.lastZero⟩ := by
  have hsome : left.any (!·.bit index) = true ∨ left.any (·.bit index) = true := by
    obtain ⟨e, he⟩ := List.exists_mem_of_ne_nil left hl
    cases hb : e.bit index
    · exact .inl (List.any_eq_true.mpr ⟨e, he, by rw [hb]; rfl⟩)
    · exact .inr (List.any_eq_true.mpr ⟨e, he, hb⟩)
  have hchoice :
      { pass with seed := walked.address }.choice (index + 1) = pass.choice (index + 1) := by
    simp only [choice, Nat.add_sub_cancel, hseed]
  rw [overwrite, hchoice]
  split
  · rename_i h0 h1
    rw [h0, h1] at hsome
    simp at hsome
  · rename_i h0 h1
    simp [followers, turn, contested, h0, h1]
  · rename_i h0 h1
    simp [followers, turn, contested, h0, h1]
  · rename_i h0 h1
    cases hc : pass.choice (index + 1) <;> simp [followers, turn, contested, h0, h1, hc]

/-- A landing among the devices that took a turn is one among all that were
left before it. -/
theorem LandsAt.of_followers {index : Nat} (h : LandsAt pass (pass.followers index S) d z)
    (hag : ∀ a ∈ S, ∀ b ∈ S, Agree index a b) :
    LandsAt pass S d
      (if z = 0 then if contested index S && !pass.turn index S then index + 1 else 0 else z) := by
  obtain ⟨hd, ht⟩ := mem_followers.mp h.mem
  -- A fork with a device that took the other turn is at this bit, and it was contested.
  have key : ∀ k, ∀ e ∈ S, e ∉ pass.followers index S → Forks k d e ∨ Forks k e d →
      k = index ∧ contested index S = true := by
    intro k e he hout hf
    have hne : e.bit index ≠ d.bit index := fun hb => hout (mem_followers.mpr ⟨he, hb.trans ht⟩)
    refine ⟨?_, ?_⟩
    · rcases Nat.lt_trichotomy k index with hk | hk | hk
      · have hb := hag d hd e he k hk
        rcases hf with hf | hf
        · exact absurd (hf.2.1.symm.trans (hb.trans hf.2.2)) (by decide)
        · exact absurd (hf.2.1.symm.trans (hb.symm.trans hf.2.2)) (by decide)
      · exact hk
      · rcases hf with hf | hf
        · exact absurd (hf.1 index hk).symm hne
        · exact absurd (hf.1 index hk) hne
    · by_contra hc
      exact hne ((bit_eq_turn pass ((Bool.not_eq_true _).mp hc) e he).trans ht.symm)
  have turn_eq : contested index S = true → pass.turn index S = pass.choice (index + 1) :=
    fun hc => by rw [turn, if_pos hc]
  refine ⟨⟨hd, fun k e he hf => ?_, fun k e he hf => ?_⟩, ?_, fun k e he hf => ?_⟩
  · by_cases hin : e ∈ pass.followers index S
    · exact h.zero k e hin hf
    · obtain ⟨rfl, hc⟩ := key k e he hin (.inl hf)
      rw [← turn_eq hc, ← ht, hf.2.1]
  · by_cases hin : e ∈ pass.followers index S
    · exact h.one k e hin hf
    · obtain ⟨rfl, hc⟩ := key k e he hin (.inr hf)
      rw [← turn_eq hc, ← ht, hf.2.2]
  · rcases h.deepest with rfl | ⟨e, he, hf⟩
    · rw [if_pos rfl]
      split
      · rename_i hz
        rw [Bool.and_eq_true, Bool.not_eq_true'] at hz
        obtain ⟨-, e, he, hb⟩ := contested_iff.mp hz.1
        exact .inr ⟨e, he, hag d hd e he, ht.trans hz.2, hb⟩
      · exact .inl rfl
    · split
      · rename_i hz
        have := h.below _ e he hf
        omega
      · exact .inr ⟨e, (mem_followers.mp he).1, hf⟩
  · by_cases hin : e ∈ pass.followers index S
    · have := h.below k e hin hf
      rw [if_neg (by omega)]
      exact this
    · obtain ⟨rfl, hc⟩ := key k e he hin (.inl hf)
      split
      · rw [hc, ← ht, hf.2.1]
        exact Nat.lt_succ_self k
      · rename_i hz
        -- The other forks are among devices that agree on this bit, so they are deeper.
        rcases h.deepest with rfl | ⟨e', he', hf'⟩
        · exact absurd rfl hz
        · have hb : e'.bit k = d.bit k := (mem_followers.mp he').2.trans ht.symm
          rcases Nat.lt_or_ge k (z - 1) with hk | hk
          · omega
          · rcases Nat.lt_or_eq_of_le hk with hk | rfl
            · exact absurd (hf'.2.1.symm.trans
                ((hag d hd e' (mem_followers.mp he').1 _ hk).trans hf'.2.2)) (by decide)
            · exact absurd (hf'.2.1.symm.trans (hb.symm.trans hf'.2.2)) (by decide)

/-- The walk over the bits that are left, whose seed the buffer still holds, lands among
the devices that are left. -/
theorem overwrite_landsAt (pass : SearchPass) :
    ∀ (remaining index : Nat) (left : List Address) (walked : Descent), index + remaining = 64 →
      left ≠ [] → (∀ e ∈ left, Agree index e walked.address) →
      (∀ k, index ≤ k → walked.address.bit k = pass.seed.bit k) →
      ∃ d z, LandsAt pass left d z ∧
        pass.overwrite index remaining left walked =
          .ok ⟨d, if z = 0 then walked.lastZero else z⟩
  | 0, index, left, walked, hi, hl, hag, _ => by
    have heq : ∀ e ∈ left, e = walked.address := fun e he =>
      (show index = 64 by omega) ▸ (hag e he) |>.eq
    obtain ⟨e, he⟩ := List.exists_mem_of_ne_nil left hl
    have hmem : walked.address ∈ left := heq e he ▸ he
    have hno : ∀ k, ∀ e ∈ left, ¬ Forks k walked.address e ∧ ¬ Forks k e walked.address :=
      fun k e he => ⟨fun hf => hf.ne (heq e he).symm, fun hf => hf.ne (heq e he)⟩
    exact ⟨walked.address, 0, ⟨⟨hmem, fun k e he hf => absurd hf (hno k e he).1,
      fun k e he hf => absurd hf (hno k e he).2⟩, .inl rfl,
      fun k e he hf => absurd hf (hno k e he).1⟩, rfl⟩
  | remaining + 1, index, left, walked, hi, hl, hag, hseed => by
    have hag' : ∀ e ∈ pass.followers index left,
        Agree (index + 1) e (walked.address.setBit index (pass.turn index left)) := fun e he =>
      (hag e (mem_followers.mp he).1).setBit (by omega) (mem_followers.mp he).2
    have hseed' : ∀ k, index + 1 ≤ k →
        (walked.address.setBit index (pass.turn index left)).bit k = pass.seed.bit k := by
      intro k hk
      rw [Address.bit_setBit _ (by omega), if_neg (by omega)]
      exact hseed k (by omega)
    rw [overwrite_succ pass index remaining hl (hseed index (Nat.le_refl index))]
    obtain ⟨d, z, hd, he⟩ := overwrite_landsAt pass remaining (index + 1)
      (pass.followers index left) ⟨walked.address.setBit index (pass.turn index left), _⟩
      (by omega) (followers_ne_nil hl) hag' hseed'
    refine ⟨d, _, hd.of_followers fun a ha b hb => (hag a ha).trans (hag b hb).symm, ?_⟩
    rw [he]
    by_cases hz : z = 0
    · simp only [hz, ↓reduceIte]
      cases contested index left && !pass.turn index left <;> simp
    · simp only [hz, ↓reduceIte]

/-! ## The answer -/

theorem answer_nil (pass : SearchPass) : pass.answer [] = ⟨noDevice, pass.seed⟩ := rfl

/-- A pass lands somewhere if any device takes part. -/
theorem exists_landsAt (pass : SearchPass) (hS : S ≠ []) :
    ∃ d z, LandsAt pass S d z ∧
      pass.answer S = ⟨if z = 0 then pass.lastDiscrepancy else z, d⟩ := by
  obtain ⟨d, z, hd, he⟩ := overwrite_landsAt pass addressBits 0 S { address := pass.seed } rfl hS
    (fun e _ => Agree.zero e pass.seed) fun _ _ => rfl
  refine ⟨d, z, hd, ?_⟩
  rw [answer, if_neg (by simpa using hS), he]
  by_cases hz : z = 0 <;> simp [hz]

/-- The answer of a pass, from where it lands. -/
theorem LandsAt.answer_eq (h : LandsAt pass S d z) :
    pass.answer S = ⟨if z = 0 then pass.lastDiscrepancy else z, d⟩ := by
  obtain ⟨d', z', h', he⟩ := exists_landsAt pass (List.ne_nil_of_mem h.mem)
  obtain ⟨rfl, rfl⟩ := h.unique h'
  exact he

theorem LandsAt.address_answer (h : LandsAt pass S d z) : (pass.answer S).address = d := by
  rw [h.answer_eq]

/-- A pass on which some device takes part never gives the answer of an empty
bus. -/
theorem LandsAt.answer_le (h : LandsAt pass S d z) (hL : pass.lastDiscrepancy ≤ addressBits) :
    (pass.answer S).lastDiscrepancy ≤ addressBits := by
  rw [h.answer_eq]
  split
  · exact hL
  · exact h.le_64

end SearchPass

end BusMaster
