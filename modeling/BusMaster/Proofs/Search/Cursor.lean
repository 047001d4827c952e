import BusMaster.Proofs.Wire.Descent
import BusMaster.Search.Walk

/-!
# How far an enumeration is

A pass replays its seed below the last discrepancy, so where it lands is known
from the seed (`LandsAt.agree_seed`, `LandsAt.forks_seed`) and, beyond the last
discrepancy, from the order of the addresses (`LandsAt.le_of_agree`).

* `LandsAt.ahead`: as long as some device still leads to the branch point, a
  pass skips none of the devices that branch off the seed up to there;
* `meet`, `meet_cases`: what one request without a filter comes to when exactly
  `S` take part, and the three ways in which it can end;
* `Place S c n`: the cursor `c` has still to find exactly the addresses of `S`
  with keys from `n` on;
* `Place.least`, `place_advance`: on such a cursor a pass lands at the
  least of them, and the cursor moves on to the keys after it.
-/

namespace BusMaster

open Address (Agree Forks)

namespace SearchPass.LandsAt

variable {pass : SearchPass} {S : List Address} {d e x : Address} {z n : Nat}

/-- Before the branch point the pass keeps to its seed as far as any device
does. -/
theorem agree_seed (h : LandsAt pass S d z) (he : e ∈ S) (hn : n < pass.lastDiscrepancy)
    (hag : Agree n e pass.seed) : Agree n d pass.seed := by
  by_contra hno
  obtain ⟨k, hk, hf | hf⟩ := Address.exists_forks_of_not_agree hno
  · have hc := h.zero k e he (hf.of_agree_right (hag.mono hk))
    rw [choice, if_pos (by omega), Nat.add_sub_cancel, hf.2.2] at hc
    cases hc
  · have hc := h.one k e he (hf.of_agree (hag.mono hk))
    rw [choice, if_pos (by omega), Nat.add_sub_cancel, hf.2.1] at hc
    cases hc

/-- At the branch point the pass takes the one if a device offers it. -/
theorem forks_seed (h : LandsAt pass S d z) (hL : 0 < pass.lastDiscrepancy) (he : e ∈ S)
    (hf : Forks (pass.lastDiscrepancy - 1) pass.seed e) :
    Forks (pass.lastDiscrepancy - 1) pass.seed d := by
  have hag := h.agree_seed he (by omega) hf.1.symm
  refine ⟨hag.symm, hf.2.1, ?_⟩
  by_contra hb
  have hc := h.zero _ e he ⟨hag.trans hf.1, (Bool.not_eq_true _).mp hb, hf.2.2⟩
  rw [choice, if_neg (by omega), decide_eq_false_iff_not] at hc
  omega

/-- Beyond the branch point the pass takes the zeros. -/
theorem le_of_agree (h : LandsAt pass S d z) (hx : x ∈ S)
    (hag : Agree pass.lastDiscrepancy d x) : d.searchKey ≤ x.searchKey := by
  rw [Address.searchKey_le_iff]
  by_cases hne : d = x
  · exact .inl hne
  obtain ⟨k, hf | hf⟩ := Address.exists_forks hne
  · exact .inr ⟨k, hf⟩
  · have hk : pass.lastDiscrepancy ≤ k := by
      by_contra hk
      have := hf.2.1.symm.trans ((hag k (by omega)).symm.trans hf.2.2)
      cases this
    have hc := h.one k x hx hf
    rw [choice, if_neg (by omega), decide_eq_true_iff] at hc
    omega

/-- The devices beyond the one found are those that branch off it up to the
new branch point. -/
theorem lt_iff (h : LandsAt pass S d z) (hx : x ∈ S) :
    d.searchKey < x.searchKey ↔ ∃ k < z, Forks k d x := by
  rw [Address.searchKey_lt_iff]
  exact ⟨fun ⟨k, hf⟩ => ⟨k, h.below k x hx hf, hf⟩, fun ⟨k, _, hf⟩ => ⟨k, hf⟩⟩

/-- If some device still leads to the branch point, a pass skips no device that
branches off the seed up to there: it finds it, or has it still ahead. -/
theorem ahead (h : LandsAt pass S d z) (he : e ∈ S)
    (hag : Agree (pass.lastDiscrepancy - 1) e pass.seed) (hx : x ∈ S) {j : Nat}
    (hj : j < pass.lastDiscrepancy) (hf : Forks j pass.seed x) :
    d.searchKey ≤ x.searchKey := by
  rcases Nat.lt_or_ge j (pass.lastDiscrepancy - 1) with hj' | hj'
  · have hd := h.agree_seed he (by omega) hag
    exact Nat.le_of_lt (hf.of_agree (hd.mono hj')).searchKey_lt
  · obtain rfl : j = pass.lastDiscrepancy - 1 := by omega
    have hd := h.forks_seed (by omega) hx hf
    refine h.le_of_agree hx ?_
    have := (hd.1.symm.trans hf.1).succ (hd.2.2.trans hf.2.2.symm)
    rwa [Nat.sub_add_cancel (by omega)] at this

/-- A pass never branches at the same position again. -/
theorem ne_lastDiscrepancy (h : LandsAt pass S d z) (hz : z ≠ 0) : z ≠ pass.lastDiscrepancy := by
  intro heq
  rcases h.deepest with hz' | ⟨e, he, hf⟩
  · exact hz hz'
  · have hc := h.zero _ e he hf
    rw [choice, if_neg (by omega), decide_eq_false_iff_not] at hc
    omega

end SearchPass.LandsAt

namespace SearchCursor

open SearchPass (LandsAt)

variable {S : List Address} {c : SearchCursor} {d x : Address} {z n : Nat}

/-- One request without a filter when exactly `S` take part. -/
def meet (c : SearchCursor) (S : List Address) : Found × SearchCursor :=
  if c.exhausted then (.finished, c.restart)
  else
    let answer := c.pass.answer S
    if addressBits < answer.lastDiscrepancy then (.finished, c.restart)
    else (.device answer.address, c.advance answer)

theorem meet_of_exhausted (done : c.exhausted = true) (S : List Address) :
    c.meet S = (.finished, c.restart) := by
  rw [meet, if_pos done]

theorem meet_nil (c : SearchCursor) : c.meet [] = (.finished, c.restart) := by
  rw [meet]
  split
  · rfl
  · rfl

theorem meet_of_landsAt (more : c.exhausted = false) (hL : c.lastDiscrepancy ≤ 64)
    (h : LandsAt c.pass S d z) : c.meet S = (.device d, c.advance (c.pass.answer S)) := by
  have hle := Nat.not_lt.mpr (h.answer_le hL)
  rw [meet, more, if_neg (by decide)]
  simp only [hle, ↓reduceIte, h.address_answer]

/-- A request ends an enumeration that is over, ends it if no device takes part,
or moves on to where the pass lands. -/
theorem meet_cases (c : SearchCursor) (S : List Address)
    (hL : c.exhausted = false → c.lastDiscrepancy ≤ 64) :
    (c.exhausted = true ∨ S = []) ∧ c.meet S = (.finished, c.restart) ∨
    c.exhausted = false ∧ ∃ d z, LandsAt c.pass S d z ∧
      c.meet S = (.device d, c.advance (c.pass.answer S)) := by
  by_cases done : c.exhausted = true
  · exact .inl ⟨.inl done, meet_of_exhausted done S⟩
  have more : c.exhausted = false := (Bool.not_eq_true _).mp done
  by_cases hS : S = []
  · subst hS
    exact .inl ⟨.inr rfl, meet_nil c⟩
  · obtain ⟨d, z, hd, -⟩ := SearchPass.exists_landsAt c.pass hS
    exact .inr ⟨more, d, z, hd, meet_of_landsAt more (hL more) hd⟩

/-- The options of an enumeration stay. -/
theorem restart_meet (c : SearchCursor) (S : List Address) : (c.meet S).2.restart = c.restart := by
  rw [meet]
  split
  · rfl
  · simp only []
    split <;> rfl

theorem le_64_meet (hL : c.exhausted = false → c.lastDiscrepancy ≤ 64) (S : List Address) :
    (c.meet S).2.exhausted = false → (c.meet S).2.lastDiscrepancy ≤ 64 := by
  rcases c.meet_cases S hL with ⟨-, hm⟩ | ⟨more, d, z, hd, hm⟩
  · rw [hm]
    exact fun _ => Nat.zero_le _
  · rw [hm]
    exact fun _ => hd.answer_le (hL more)

/-- The cursor has still to find the addresses of `S` with keys from `n` on,
and no others of `S`. -/
inductive Place (S : List Address) : SearchCursor → Nat → Prop where
  /-- Before the first pass. -/
  | start {c : SearchCursor} (more : c.exhausted = false) (first : c.lastDiscrepancy = 0) :
    Place S c 0
  /-- At an address of `S`, with the deepest fork to branch at next. -/
  | branch {c : SearchCursor} (more : c.exhausted = false) (pos : 0 < c.lastDiscrepancy)
    (mem : c.current ∈ S) (fork : ∃ e ∈ S, Forks (c.lastDiscrepancy - 1) c.current e)
    (below : ∀ k, ∀ e ∈ S, Forks k c.current e → k < c.lastDiscrepancy) :
    Place S c (c.current.searchKey + 1)
  /-- At the last address of `S`. -/
  | last {c : SearchCursor} {n : Nat} (done : c.exhausted = true)
    (passed : ∀ x ∈ S, x.searchKey < n) : Place S c n

theorem Place.le_64 (hc : Place S c n) (more : c.exhausted = false) : c.lastDiscrepancy ≤ 64 := by
  cases hc with
  | start _ first =>
    rw [first]
    exact Nat.zero_le _
  | branch _ _ _ fork =>
    obtain ⟨e, -, hf⟩ := fork
    have := hf.lt_64
    omega
  | last done =>
    rw [more] at done
    cases done

theorem Place.passed (hc : Place S c n) (done : c.exhausted = true) :
    ∀ x ∈ S, x.searchKey < n := by
  cases hc with
  | start more => rw [more] at done; cases done
  | branch more => rw [more] at done; cases done
  | last _ passed => exact passed

/-- On a cursor at its place a pass finds the least address that is due. -/
theorem Place.least (hc : Place S c n) (more : c.exhausted = false) (h : LandsAt c.pass S d z) :
    n ≤ d.searchKey ∧ ∀ x ∈ S, n ≤ x.searchKey → d.searchKey ≤ x.searchKey := by
  cases hc with
  | start _ first =>
    refine ⟨Nat.zero_le _, fun x hx _ => h.le_of_agree hx ?_⟩
    rw [show c.pass.lastDiscrepancy = 0 from first]
    exact Agree.zero d x
  | branch _ pos mem fork below =>
    obtain ⟨e, he, hf⟩ := fork
    refine ⟨(h.forks_seed pos he hf).searchKey_lt, fun x hx hn => ?_⟩
    obtain ⟨j, hj⟩ := Address.searchKey_lt_iff.mp (show c.current.searchKey < x.searchKey from hn)
    exact h.ahead mem (Agree.refl _ _) hx (below j x hx hj) hj
  | last done _ =>
    rw [more] at done
    cases done

/-- The cursor after a pass has its place behind the address found. -/
theorem place_advance (h : LandsAt c.pass S d z) :
    Place S (c.advance (c.pass.answer S)) (d.searchKey + 1) := by
  rw [h.answer_eq]
  by_cases hz : z = 0
  · subst hz
    refine .last (decide_eq_true rfl) fun x hx => Nat.lt_succ_of_le (Nat.le_of_not_lt fun hlt => ?_)
    obtain ⟨k, hk, -⟩ := (h.lt_iff hx).mp hlt
    exact Nat.not_lt_zero k hk
  · rw [if_neg hz]
    refine .branch (decide_eq_false (h.ne_lastDiscrepancy hz)) (Nat.pos_of_ne_zero hz) h.mem ?_
      h.below
    exact h.deepest.resolve_left hz

end SearchCursor

end BusMaster
