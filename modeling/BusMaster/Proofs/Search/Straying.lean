import BusMaster.Proofs.Search.Cursor

/-!
# Passes that go astray

A pass replays its seed below the branch point also when the device that the
seed was found at, and those next to it, are gone. Then it can come to a subtree
that the enumeration has not reached yet, and there the bits of the seed, and the
one at the branch point, say nothing: a pass that takes a one by them leaves
behind devices that were never reported.

* `Misleading S`: four addresses of `S` with which a pass can go astray;
* `LandsAt.misleads`: a pass that leaves a device behind has met four such
  addresses;
* `Covers`: what an enumeration of other addresses keeps at each request
  (`Covers.meet`): each device that is left was found or is ahead;
* `landsAt_seed`, `landsAt_of_pair`: how the four lead a pass astray.
-/

namespace BusMaster

open Address (Agree Forks)
open SearchPass (LandsAt)

/-- A pass that was to branch from `d` to `e` at bit `k` can go astray once both
are gone: on the way there it comes to `f` and `g`, which are ahead and branch
off at bit `i`, and where these part, at bit `j`, it takes the one. -/
def Address.Misleads (d e f g : Address) : Prop :=
  ∃ i j k, i < j ∧ j ≤ k ∧ Forks k d e ∧ Forks i d f ∧ Forks j f g ∧ (j = k ∨ d.bit j = true)

/-- Some four of the addresses can lead a search astray. -/
def Misleading (S : List Address) : Prop :=
  ∃ d ∈ S, ∃ e ∈ S, ∃ f ∈ S, ∃ g ∈ S, Address.Misleads d e f g

/-- The four are different from each other. -/
theorem Address.Misleads.nodup {d e f g : Address} (h : Misleads d e f g) : [d, e, f, g].Nodup := by
  obtain ⟨i, j, k, hij, hjk, hde, hdf, hfg, -⟩ := h
  have hdg : Forks i d g := hdf.of_agree_right (hfg.1.mono hij).symm
  -- Up to bit `i` the second has the bits of the first.
  have hag : Agree (i + 1) e d := (hde.1.mono (by omega)).symm
  have hef : Forks i e f := hdf.of_agree hag
  have heg : Forks i e g := hdg.of_agree hag
  simp [hde.ne, hdf.ne, hdg.ne, hef.ne, heg.ne, hfg.ne]

theorem Misleading.four_le {S : List Address} (h : Misleading S) : 4 ≤ S.length := by
  obtain ⟨d, hd, e, he, f, hf, g, hg, h⟩ := h
  refine (List.Nodup.subperm h.nodup fun x hx => ?_).length_le
  simp only [List.mem_cons, List.not_mem_nil, or_false] at hx
  rcases hx with rfl | rfl | rfl | rfl
  · exact hd
  · exact he
  · exact hf
  · exact hg

/-- The address passed over by a pass that lands beyond it, though it branches
off the seed up to the branch point. -/
theorem SearchPass.LandsAt.misleads {pass : SearchPass} {S : List Address} {d e x : Address}
    {z j : Nat} (h : LandsAt pass S d z) (he : Forks (pass.lastDiscrepancy - 1) pass.seed e)
    (hx : x ∈ S) (hj : j < pass.lastDiscrepancy) (hf : Forks j pass.seed x)
    (hlt : x.searchKey < d.searchKey) : Address.Misleads pass.seed e x d := by
  obtain ⟨r, hr⟩ := Address.searchKey_lt_iff.mp hlt
  have hc := h.one r x hx hr
  rw [choice] at hc
  have hor : r + 1 = pass.lastDiscrepancy ∨
      r + 1 < pass.lastDiscrepancy ∧ pass.seed.bit r = true := by
    split at hc
    · rename_i hlt
      exact .inr ⟨hlt, hc⟩
    · exact .inl (of_decide_eq_true hc)
  -- Up to bit `j` the address passed over has the bits of the seed, and there a one.
  have hjr : j < r := by
    rcases Nat.lt_trichotomy j r with hjr | rfl | hrj
    · exact hjr
    · cases hf.2.2.symm.trans hr.2.1
    · rcases hor with hL | ⟨-, hb⟩
      · omega
      · cases hb.symm.trans ((hf.1 r hrj).trans hr.2.1)
  refine ⟨j, r, pass.lastDiscrepancy - 1, hjr, by omega, he, hf, hr, ?_⟩
  rcases hor with hL | ⟨-, hb⟩
  · exact .inl (by omega)
  · exact .inr hb

/-- A pass whose seed takes part, and that was to branch beyond all its forks,
comes to the seed again. -/
theorem SearchPass.landsAt_seed {pass : SearchPass} {S : List Address} {e : Address} {k : Nat}
    (mem : pass.seed ∈ S) (he : e ∈ S) (hf : Forks k pass.seed e)
    (hk : k + 1 < pass.lastDiscrepancy)
    (below : ∀ x ∈ S, x = pass.seed ∨ ∃ j ≤ k, Forks j pass.seed x) :
    LandsAt pass S pass.seed (k + 1) where
  mem := mem
  zero j x hx hj := by
    rcases below x hx with rfl | ⟨j', hj', hf'⟩
    · exact absurd rfl hj.ne
    · obtain rfl := hj.unique hf'
      rw [choice, if_pos (by omega)]
      exact hf'.2.1
  one j x hx hj := by
    rcases below x hx with rfl | ⟨j', hj', hf'⟩
    · exact absurd rfl hj.ne
    · exact absurd hj.searchKey_lt (Nat.lt_asymm hf'.searchKey_lt)
  deepest := .inr ⟨e, he, hf⟩
  below j x hx hj := by
    rcases below x hx with rfl | ⟨j', hj', hf'⟩
    · exact absurd rfl hj.ne
    · obtain rfl := hj.unique hf'
      omega

/-- Of two addresses a pass takes the one with the one at their fork, and has
then nothing to come back to. -/
theorem SearchPass.landsAt_of_pair {pass : SearchPass} {S : List Address} {f g : Address} {j : Nat}
    (hS : ∀ x, x ∈ S ↔ x = f ∨ x = g) (hf : Forks j f g) (hc : pass.choice (j + 1) = true) :
    LandsAt pass S g 0 := by
  have hno : ∀ k, ∀ x ∈ S, ¬ Forks k g x := fun k x hx hk => by
    rcases (hS x).mp hx with rfl | rfl
    · exact absurd hk.searchKey_lt (Nat.lt_asymm hf.searchKey_lt)
    · exact hk.ne rfl
  refine ⟨⟨(hS g).mpr (.inr rfl), fun k x hx hk => absurd hk (hno k x hx), fun k x hx hk => ?_⟩,
    .inl rfl, fun k x hx hk => absurd hk (hno k x hx)⟩
  rcases (hS x).mp hx with rfl | rfl
  · rw [hk.unique hf, hc]
  · exact absurd rfl hk.ne

namespace SearchCursor

variable {P P' Q S S' found : List Address} {c : SearchCursor} {d : Address} {z : Nat}

/-- An enumeration that found `found` covers `S`: every address of it was found
or branches off the cursor's one up to the branch point, and the branch point
was one among `P`. -/
inductive Covers (P S found : List Address) : SearchCursor → Prop where
  | ahead {c : SearchCursor} (more : c.exhausted = false) (mem : c.current ∈ P)
    (pos : 0 < c.lastDiscrepancy) (fork : ∃ e ∈ P, Forks (c.lastDiscrepancy - 1) c.current e)
    (left : ∀ x ∈ S, x ∈ found ∨ ∃ j < c.lastDiscrepancy, Forks j c.current x) :
    Covers P S found c
  | ended {c : SearchCursor} (done : c.exhausted = true) (left : ∀ x ∈ S, x ∈ found) :
    Covers P S found c

theorem Covers.subset (h : Covers P S found c) (hS : ∀ x ∈ S', x ∈ S) : Covers P S' found c := by
  cases h with
  | ahead more mem pos fork left => exact .ahead more mem pos fork fun x hx => left x (hS x hx)
  | ended done left => exact .ended done fun x hx => left x (hS x hx)

/-- What is covered stays covered when more devices were met. -/
theorem Covers.grow (h : Covers P S found c) (hP : ∀ x ∈ P, x ∈ P') : Covers P' S found c := by
  cases h with
  | ahead more mem pos fork left =>
    obtain ⟨e, he, hf⟩ := fork
    exact .ahead more (hP _ mem) pos ⟨e, hP e he, hf⟩ left
  | ended done left => exact .ended done left

/-- What is covered after a pass over `Q` that passed over none but devices
found. -/
theorem covers_advance (h : LandsAt c.pass Q d z) (hQ : ∀ x ∈ Q, x ∈ P) (hS : ∀ x ∈ S, x ∈ Q)
    (hx : ∀ x ∈ S, x.searchKey < d.searchKey → x ∈ found) :
    Covers P S (found ++ [d]) (c.advance (c.pass.answer Q)) := by
  have hcase : ∀ x ∈ S, x ∈ found ++ [d] ∨ ∃ j < z, Forks j d x := fun x hxS => by
    rcases Nat.lt_trichotomy x.searchKey d.searchKey with hlt | heq | hgt
    · exact .inl (List.mem_append_left _ (hx x hxS hlt))
    · exact .inl (List.mem_append_right _ (List.mem_singleton.mpr (Address.searchKey_inj.mp heq)))
    · exact .inr ((h.lt_iff (hS x hxS)).mp hgt)
  rw [h.answer_eq]
  by_cases hz : z = 0
  · subst hz
    refine .ended (decide_eq_true rfl) fun x hxS => (hcase x hxS).resolve_right ?_
    rintro ⟨j, hj, -⟩
    exact Nat.not_lt_zero j hj
  · rw [if_neg hz]
    refine .ahead (decide_eq_false (h.ne_lastDiscrepancy hz)) (hQ d h.mem) (Nat.pos_of_ne_zero hz)
      ?_ hcase
    obtain ⟨e, he, hf⟩ := h.deepest.resolve_left hz
    exact ⟨e, hQ e he, hf⟩

/-- The first request covers all. -/
theorem covers_start (more : c.exhausted = false) (first : c.lastDiscrepancy = 0) :
    (c.meet P).1 = .finished ∧ P = [] ∨
    ∃ d, (c.meet P).1 = .device d ∧ Covers P P [d] (c.meet P).2 := by
  have hp : Place P c 0 := .start more first
  rcases c.meet_cases P hp.le_64 with ⟨hend, hm⟩ | ⟨-, d, z, hd, hm⟩
  · rw [hm]
    refine .inl ⟨rfl, hend.resolve_left ?_⟩
    rw [more]
    decide
  · rw [hm]
    have hcov : Covers P P ([] ++ [d]) (c.advance (c.pass.answer P)) :=
      covers_advance hd (fun _ hx => hx) (fun _ hx => hx) fun x hx hlt =>
        absurd ((hp.least more hd).2 x hx (Nat.zero_le _)) (Nat.not_le.mpr hlt)
    exact .inr ⟨d, rfl, hcov⟩

/-- A further request covers what was covered, if no addresses mislead it. -/
theorem Covers.meet (hP : ¬ Misleading P) (hS : ∀ x ∈ S, x ∈ P)
    (hL : c.exhausted = false → c.lastDiscrepancy ≤ 64) (h : Covers P S found c) :
    (c.meet S).1 = .finished ∧ (∀ x ∈ S, x ∈ found) ∨
    ∃ d, (c.meet S).1 = .device d ∧ Covers P S (found ++ [d]) (c.meet S).2 := by
  rcases c.meet_cases S hL with ⟨hend, hm⟩ | ⟨more, d, z, hd, hm⟩
  · rw [hm]
    refine .inl ⟨rfl, fun x hx => ?_⟩
    rcases hend with done | rfl
    · cases h with
      | ahead more => rw [more] at done; cases done
      | ended _ left => exact left x hx
    · exact absurd hx List.not_mem_nil
  · rw [hm]
    refine .inr ⟨d, rfl, covers_advance hd hS (fun _ hx => hx) fun x hx hlt => ?_⟩
    cases h with
    | ahead _ mem _ fork left =>
      obtain ⟨e, he, hf⟩ := fork
      refine (left x hx).resolve_right ?_
      rintro ⟨j, hj, hjx⟩
      exact hP ⟨_, mem, e, he, x, hS x hx, d, hS d hd.mem, hd.misleads hf hx hj hjx hlt⟩
    | ended done => rw [more] at done; cases done

/-- The cursor is at `d`, and branches next at position `z`. -/
structure At (c : SearchCursor) (d : Address) (z : Nat) : Prop where
  more : c.exhausted = false
  current : c.current = d
  branch : c.lastDiscrepancy = z

theorem at_advance (h : LandsAt c.pass S d z) (hz : z ≠ 0) :
    At (c.advance (c.pass.answer S)) d z := by
  rw [h.answer_eq, if_neg hz]
  exact ⟨decide_eq_false (h.ne_lastDiscrepancy hz), rfl, rfl⟩

end SearchCursor

end BusMaster
