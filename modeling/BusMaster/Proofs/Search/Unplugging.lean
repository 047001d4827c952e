import BusMaster.Proofs.Search.Enumeration
import BusMaster.Proofs.Search.Straying

/-!
# Devices unplugged during an enumeration

Any devices may be taken off the wire between the requests of an enumeration.

* `Bus.Enumerates`, `Bus.Finishes`: such an enumeration, one request or removal
  after the other;
* `Enumerates.finishes`: it can always be brought to its end;
* `Enumerates.covers`, `Finishes.found_of_left`: it finds all that is left if no
  addresses mislead it;
* `Bus.exists_lost`: otherwise some removals make it lose a device;
* `Bus.loses_nobody_iff`: all together.
-/

namespace BusMaster

open Address (Forks)
open SearchPass (LandsAt)

theorem Network.takesPart_detach {net : Network} {alarmOnly : Bool} {a x : Address} :
    (net.detach a).2.TakesPart alarmOnly x ↔ net.TakesPart alarmOnly x ∧ x ≠ a := by
  simp only [TakesPart, detach, List.mem_filter, bne_iff_ne]
  constructor
  · rintro ⟨d, ⟨hd, hne⟩, rfl, hal⟩
    exact ⟨⟨d, hd, rfl, hal⟩, hne⟩
  · rintro ⟨⟨d, hd, rfl, hal⟩, hne⟩
    exact ⟨d, ⟨hd, hne⟩, rfl, hal⟩

namespace Bus

open SearchCursor (Covers Place)

variable {alarmOnly skipReset : Bool} {b₀ b : Bus (Network × Driver)} {found : List Address}

/-- The addresses that take part in a search. -/
def searched (alarmOnly : Bool) (b : Bus (Network × Driver)) : List Address :=
  b.line.1.participants (.ofAlarmOnly alarmOnly)

/-- A device is taken off the wire. -/
def unplug (a : Address) (b : Bus (Network × Driver)) : Bus (Network × Driver) :=
  b.map fun (net, drv) => ((net.detach a).2, drv)

/-- An enumeration begun on `b₀` reported `found`, and came to `b`. Devices may
be unplugged after any of its requests. -/
inductive Enumerates (alarmOnly skipReset : Bool) (b₀ : Bus (Network × Driver)) :
    List Address → Bus (Network × Driver) → Prop where
  | first {a : Address} {b : Bus (Network × Driver)}
    (found : b₀.findFirst Driver.transport alarmOnly skipReset = (.device a, b)) :
    Enumerates alarmOnly skipReset b₀ [a] b
  | unplug {found : List Address} {b : Bus (Network × Driver)} (a : Address)
    (run : Enumerates alarmOnly skipReset b₀ found b) :
    Enumerates alarmOnly skipReset b₀ found (b.unplug a)
  | next {before : List Address} {b b' : Bus (Network × Driver)} {a : Address}
    (run : Enumerates alarmOnly skipReset b₀ before b)
    (found : b.findNext Driver.transport = (.device a, b')) :
    Enumerates alarmOnly skipReset b₀ (before ++ [a]) b'

/-- Such an enumeration came to its end. -/
inductive Finishes (alarmOnly skipReset : Bool) (b₀ : Bus (Network × Driver)) :
    List Address → Bus (Network × Driver) → Prop where
  | first {b : Bus (Network × Driver)}
    (ended : b₀.findFirst Driver.transport alarmOnly skipReset = (.finished, b)) :
    Finishes alarmOnly skipReset b₀ [] b
  | next {found : List Address} {b b' : Bus (Network × Driver)}
    (run : Enumerates alarmOnly skipReset b₀ found b)
    (ended : b.findNext Driver.transport = (.finished, b')) :
    Finishes alarmOnly skipReset b₀ found b'

/-- A port is selected, the wire is not shorted and every family is reported. -/
structure Ready (b : Bus (Network × Driver)) : Prop where
  attached : b.line.2.selected.isSome = true
  unshorted : b.line.1.short = false
  unfiltered : b.filter = .all

/-- An enumeration with these options can go on. -/
structure Underway (alarmOnly skipReset : Bool) (b : Bus (Network × Driver)) : Prop extends
    Ready b where
  options : b.cursor.restart = { alarmOnly, skipReset }
  le_64 : b.cursor.exhausted = false → b.cursor.lastDiscrepancy ≤ 64

theorem Ready.underway (h : Ready b) (alarmOnly skipReset : Bool) :
    Underway alarmOnly skipReset { b with cursor := { alarmOnly, skipReset } } :=
  ⟨⟨h.attached, h.unshorted, h.unfiltered⟩, rfl, fun _ => Nat.zero_le _⟩

theorem mem_searched {x : Address} :
    x ∈ b.searched alarmOnly ↔ b.line.1.TakesPart alarmOnly x :=
  Network.mem_participants

theorem mem_searched_unplug {a x : Address} :
    x ∈ (b.unplug a).searched alarmOnly ↔ x ∈ b.searched alarmOnly ∧ x ≠ a := by
  rw [mem_searched, mem_searched]
  exact Network.takesPart_detach

theorem Underway.unplug (h : Underway alarmOnly skipReset b) (a : Address) :
    Underway alarmOnly skipReset (b.unplug a) :=
  ⟨⟨h.attached, h.unshorted, h.unfiltered⟩, h.options, h.le_64⟩

/-- A request to the devices that are still there. -/
theorem Underway.findNext (h : Underway alarmOnly skipReset b) :
    ∃ b', b.findNext Driver.transport = ((b.cursor.meet (b.searched alarmOnly)).1, b') ∧
      b'.cursor = (b.cursor.meet (b.searched alarmOnly)).2 ∧
      b'.searched alarmOnly = b.searched alarmOnly ∧ Underway alarmOnly skipReset b' := by
  obtain ⟨s, he, hs⟩ := Search.step_eq_meet (populated_driver h.attached alarmOnly skipReset)
    (.refl b.line) h.options
  rw [Network.takingPart_of_not_short h.unshorted] at he
  have hreq : Search.findNext Driver.transport .all (Driver.transport.passLimit b.line)
      b.cursor b.line = _ := (Search.findNext_all _ _ _ _).trans he
  refine ⟨{ b with cursor := (b.cursor.meet (b.searched alarmOnly)).2, line := s }, ?_, rfl, ?_,
    ⟨⟨hs.selected ▸ h.attached, hs.short ▸ h.unshorted, h.unfiltered⟩, ?_,
      SearchCursor.le_64_meet h.le_64 _⟩⟩
  · rw [Bus.findNext, h.unfiltered, hreq]
    rfl
  · rw [searched, searched, Network.participants, Network.participants, hs.devices]
  · exact (b.cursor.restart_meet _).trans h.options

theorem Enumerates.underway (h₀ : Ready b₀) (run : Enumerates alarmOnly skipReset b₀ found b) :
    Underway alarmOnly skipReset b := by
  induction run with
  | first found =>
    obtain ⟨b', he, -, -, hu⟩ := (h₀.underway alarmOnly skipReset).findNext
    rw [findFirst_eq_findNext, he] at found
    exact (Prod.mk.inj found).2 ▸ hu
  | unplug a _ ih => exact ih.unplug a
  | next _ found ih =>
    obtain ⟨b', he, -, -, hu⟩ := ih.findNext
    rw [he] at found
    exact (Prod.mk.inj found).2 ▸ hu

/-- Once nothing more is unplugged an enumeration comes to its end, by induction
on the devices that are due. -/
theorem Underway.finishes {S : List Address} : ∀ (limit n : Nat) (found : List Address)
    (b : Bus (Network × Driver)), (Search.due S n).length < limit →
      Enumerates alarmOnly skipReset b₀ found b → Underway alarmOnly skipReset b →
      b.searched alarmOnly = S → Place S b.cursor n →
      ∃ more b', Finishes alarmOnly skipReset b₀ (found ++ more) b'
  | 0, _, _, _, hl, _, _, _, _ => absurd hl (Nat.not_lt_zero _)
  | limit + 1, n, found, b, hl, run, hu, hS, hp => by
    obtain ⟨b', he, hc, hs, hu'⟩ := hu.findNext
    rw [hS] at he hc hs
    rcases b.cursor.meet_cases S hu.le_64 with ⟨-, hm⟩ | ⟨more, d, z, hd, hm⟩
    · rw [hm] at he
      exact ⟨[], b', (List.append_nil found).symm ▸ .next run he⟩
    · rw [hm] at he hc
      have hlt := Search.length_due_lt hd.mem (hp.least more hd).1
      obtain ⟨rest, b'', fin⟩ := finishes limit (d.searchKey + 1) (found ++ [d]) b' (by omega)
        (run.next he) hu' hs (hc ▸ SearchCursor.place_advance hd)
      exact ⟨[d] ++ rest, b'', List.append_assoc found [d] rest ▸ fin⟩

theorem Enumerates.finishes (h₀ : Ready b₀) (run : Enumerates alarmOnly skipReset b₀ found b) :
    ∃ more b', Finishes alarmOnly skipReset b₀ (found ++ more) b' := by
  have hu := run.underway h₀
  obtain ⟨b', he, hc, hs, hu'⟩ := hu.findNext
  rcases b.cursor.meet_cases (b.searched alarmOnly) hu.le_64 with ⟨-, hm⟩ | ⟨-, d, z, hd, hm⟩
  · rw [hm] at he
    exact ⟨[], b', (List.append_nil found).symm ▸ .next run he⟩
  · -- From here on the cursor is at a device that takes part.
    rw [hm] at he hc
    obtain ⟨rest, b'', fin⟩ := Underway.finishes _ (d.searchKey + 1) (found ++ [d]) b'
      (Nat.lt_succ_self _) (run.next he) hu' hs (hc ▸ SearchCursor.place_advance hd)
    exact ⟨[d] ++ rest, b'', List.append_assoc found [d] rest ▸ fin⟩

/-- What an enumeration keeps if no addresses mislead it, by induction on its
requests and removals. -/
theorem Enumerates.covers (hP : ¬ Misleading (b₀.searched alarmOnly)) (h₀ : Ready b₀)
    (run : Enumerates alarmOnly skipReset b₀ found b) :
    (∀ x ∈ b.searched alarmOnly, x ∈ b₀.searched alarmOnly) ∧
      Covers (b₀.searched alarmOnly) (b.searched alarmOnly) found b.cursor := by
  induction run with
  | first found =>
    obtain ⟨b', he, hc, hs, -⟩ := (h₀.underway alarmOnly skipReset).findNext
    rw [findFirst_eq_findNext, he, Prod.mk.injEq] at found
    obtain ⟨hf, rfl⟩ := found
    rw [hc, hs]
    refine ⟨fun x hx => hx, ?_⟩
    rcases SearchCursor.covers_start (P := b₀.searched alarmOnly) (c := { alarmOnly, skipReset })
        rfl rfl with ⟨hend, -⟩ | ⟨d, hd, hcov⟩
    · cases hend.symm.trans hf
    · cases hd.symm.trans hf
      exact hcov
  | @unplug _ b a _ ih =>
    have hsub : ∀ x ∈ (b.unplug a).searched alarmOnly, x ∈ b.searched alarmOnly :=
      fun x hx => (mem_searched_unplug.mp hx).1
    exact ⟨fun x hx => ih.1 x (hsub x hx), ih.2.subset hsub⟩
  | next run found ih =>
    have hu := run.underway h₀
    obtain ⟨b', he, hc, hs, -⟩ := hu.findNext
    rw [he, Prod.mk.injEq] at found
    obtain ⟨hf, rfl⟩ := found
    rw [hc, hs]
    refine ⟨ih.1, ?_⟩
    rcases ih.2.meet hP ih.1 hu.le_64 with ⟨hend, -⟩ | ⟨d, hd, hcov⟩
    · cases hend.symm.trans hf
    · cases hd.symm.trans hf
      exact hcov

/-- Without addresses that mislead it an enumeration finds all that is left at
its end. -/
theorem Finishes.found_of_left (hP : ¬ Misleading (b₀.searched alarmOnly)) (h₀ : Ready b₀)
    (fin : Finishes alarmOnly skipReset b₀ found b) :
    ∀ x ∈ b.searched alarmOnly, x ∈ found := by
  cases fin with
  | first ended =>
    obtain ⟨b', he, -, hs, -⟩ := (h₀.underway alarmOnly skipReset).findNext
    rw [findFirst_eq_findNext, he, Prod.mk.injEq] at ended
    obtain ⟨hf, rfl⟩ := ended
    rw [hs]
    rcases SearchCursor.covers_start (P := b₀.searched alarmOnly) (c := { alarmOnly, skipReset })
        rfl rfl with ⟨-, hnil⟩ | ⟨d, hd, -⟩
    · intro x hx
      exact absurd (hnil ▸ (show x ∈ b₀.searched alarmOnly from hx)) List.not_mem_nil
    · cases hd.symm.trans hf
  | next run ended =>
    have hu := run.underway h₀
    obtain ⟨hS, hcov⟩ := run.covers hP h₀
    obtain ⟨b', he, -, hs, -⟩ := hu.findNext
    rw [he, Prod.mk.injEq] at ended
    obtain ⟨hf, rfl⟩ := ended
    rw [hs]
    rcases hcov.meet hP hS hu.le_64 with ⟨-, hleft⟩ | ⟨d, hd, -⟩
    · exact hleft
    · cases hd.symm.trans hf

/-! ## A device lost -/

/-- What unplugging keeps is kept when all devices but some are unplugged. -/
theorem exists_unplugged (alarmOnly : Bool) {R : Bus (Network × Driver) → Prop}
    (hR : ∀ (b : Bus (Network × Driver)) (a : Address), R b → R (b.unplug a))
    (keep : List Address) (hb : R b) :
    ∃ b', R b' ∧ ∀ x, x ∈ b'.searched alarmOnly ↔ x ∈ b.searched alarmOnly ∧ x ∈ keep := by
  suffices h : ∀ gone : List Address, ∃ b', R b' ∧
      ∀ x, x ∈ b'.searched alarmOnly ↔ x ∈ b.searched alarmOnly ∧ x ∉ gone by
    obtain ⟨b', hb', hm⟩ := h ((b.searched alarmOnly).filter (· ∉ keep))
    refine ⟨b', hb', fun x => ?_⟩
    rw [hm, List.mem_filter, decide_eq_true_iff]
    constructor
    · rintro ⟨hx, hno⟩
      exact ⟨hx, by_contra fun hk => hno ⟨hx, hk⟩⟩
    · rintro ⟨hx, hk⟩
      exact ⟨hx, fun h => h.2 hk⟩
  intro gone
  induction gone with
  | nil => exact ⟨b, hb, fun x => by simp⟩
  | cons a gone ih =>
    obtain ⟨b', hb', hm⟩ := ih
    refine ⟨b'.unplug a, hR b' a hb', fun x => ?_⟩
    rw [mem_searched_unplug, hm, List.mem_cons, not_or]
    tauto

/-- Any devices can be unplugged at once. -/
theorem Enumerates.keep (keep : List Address)
    (run : Enumerates alarmOnly skipReset b₀ found b) (hu : Underway alarmOnly skipReset b) :
    ∃ b', Enumerates alarmOnly skipReset b₀ found b' ∧ Underway alarmOnly skipReset b' ∧
      b'.cursor = b.cursor ∧
      ∀ x, x ∈ b'.searched alarmOnly ↔ x ∈ b.searched alarmOnly ∧ x ∈ keep := by
  obtain ⟨b', ⟨run', hu', hc⟩, hm⟩ := exists_unplugged alarmOnly
    (R := fun b' => Enumerates alarmOnly skipReset b₀ found b' ∧
      Underway alarmOnly skipReset b' ∧ b'.cursor = b.cursor)
    (fun _ a ⟨run, hu, hc⟩ => ⟨run.unplug a, hu.unplug a, hc⟩) keep ⟨run, hu, rfl⟩
  exact ⟨b', run', hu', hc, hm⟩

/-- A request, from where its pass lands. -/
theorem Underway.lands {d : Address} {z : Nat} (hu : Underway alarmOnly skipReset b)
    (more : b.cursor.exhausted = false) (h : LandsAt b.cursor.pass (b.searched alarmOnly) d z) :
    ∃ b', b.findNext Driver.transport = (.device d, b') ∧ Underway alarmOnly skipReset b' ∧
      b'.cursor = b.cursor.advance (b.cursor.pass.answer (b.searched alarmOnly)) ∧
      b'.searched alarmOnly = b.searched alarmOnly := by
  obtain ⟨b', he, hc, hs, hu'⟩ := hu.findNext
  rw [SearchCursor.meet_of_landsAt more (hu.le_64 more) h] at he hc
  exact ⟨b', he, hu', hc, hs⟩

/-- An enumeration came to `b`, and reported nothing beyond `d`. -/
def ComesTo (alarmOnly skipReset : Bool) (b₀ : Bus (Network × Driver)) (d : Address)
    (b : Bus (Network × Driver)) : Prop :=
  Underway alarmOnly skipReset b ∧ ∃ found, Enumerates alarmOnly skipReset b₀ found b ∧
    ∀ x ∈ found, x.searchKey ≤ d.searchKey

/-- Every device but the last can be reached with a branch point beyond any of
its forks, by induction on the devices that are due before it. -/
theorem exists_comesTo (b₀ : Bus (Network × Driver)) {S : List Address} {d e : Address} {k : Nat}
    (hd : d ∈ S) (he : e ∈ S) (hf : Forks k d e) : ∀ (limit n : Nat) (b : Bus (Network × Driver)),
      (Search.due S n).length < limit → Underway alarmOnly skipReset b →
      b.searched alarmOnly = S → Place S b.cursor n → n ≤ d.searchKey →
      (∀ a b', b.findNext Driver.transport = (.device a, b') → a.searchKey ≤ d.searchKey →
        ∃ found, Enumerates alarmOnly skipReset b₀ found b' ∧
          ∀ x ∈ found, x.searchKey ≤ d.searchKey) →
      ∃ b' z, ComesTo alarmOnly skipReset b₀ d b' ∧ b'.searched alarmOnly = S ∧
        b'.cursor.At d z ∧ k < z
  | 0, _, _, hl, _, _, _, _, _ => absurd hl (Nat.not_lt_zero _)
  | limit + 1, n, b, hl, hu, hS, hp, hn, extend => by
    have more : b.cursor.exhausted = false := by
      by_contra done
      have := hp.passed ((Bool.not_eq_false _).mp done) d hd
      omega
    obtain ⟨a, z, ha, -⟩ := SearchPass.exists_landsAt b.cursor.pass (List.ne_nil_of_mem hd)
    obtain ⟨hna, hleast⟩ := hp.least more ha
    have had := hleast d hd hn
    obtain ⟨b', hreq, hu', hc, hs⟩ := hu.lands more (hS ▸ ha)
    obtain ⟨found, run, hfound⟩ := extend a b' hreq had
    rw [hS] at hc hs
    rcases Nat.lt_or_eq_of_le had with hlt | heq
    · have hdue := Search.length_due_lt ha.mem hna
      refine exists_comesTo b₀ hd he hf limit (a.searchKey + 1) b' (by omega) hu' hs
        (hc ▸ SearchCursor.place_advance ha) hlt fun x b'' hx hxd => ⟨found ++ [x], run.next hx, ?_⟩
      exact List.forall_mem_append.mpr ⟨hfound, List.forall_mem_singleton.mpr hxd⟩
    · obtain rfl := Address.searchKey_inj.mp heq
      have hkz := ha.below k e he hf
      refine ⟨b', z, ⟨hu', found, run, hfound⟩, hs, ?_, hkz⟩
      rw [hc]
      exact SearchCursor.at_advance ha (by omega)

/-- All but `d`, `e` and the two devices that are to mislead are unplugged, so
that the next branch off `d` is to `e`. -/
theorem ComesTo.branch_next {d e f g : Address} {i k z : Nat}
    (h : ComesTo alarmOnly skipReset b₀ d b) (hat : b.cursor.At d z) (hkz : k < z)
    (hS : ∀ x ∈ [d, e, f, g], x ∈ b.searched alarmOnly) (hik : i < k) (hde : Forks k d e)
    (hdf : Forks i d f) (hdg : Forks i d g) :
    ∃ b', ComesTo alarmOnly skipReset b₀ d b' ∧ b'.cursor.At d (k + 1) ∧
      ∀ x, x ∈ b'.searched alarmOnly ↔ x ∈ [d, e, f, g] := by
  obtain ⟨hu, found, run, hfound⟩ := h
  obtain ⟨b', run', hu', hc, hm⟩ := run.keep [d, e, f, g] hu
  replace hm : ∀ x, x ∈ b'.searched alarmOnly ↔ x ∈ [d, e, f, g] := fun x =>
    (hm x).trans (and_iff_right_of_imp (hS x))
  rw [← hc] at hat
  by_cases hL : z = k + 1
  · exact ⟨b', ⟨hu', found, run', hfound⟩, hL ▸ hat, hm⟩
  · -- The branch point was deeper, and is gone: the next pass comes to `d` again.
    have hseed : b'.cursor.pass.seed = d := hat.current
    have hlast : b'.cursor.pass.lastDiscrepancy = z := hat.branch
    have hland : LandsAt b'.cursor.pass (b'.searched alarmOnly) b'.cursor.pass.seed (k + 1) := by
      rw [← hseed] at hde hdf hdg
      refine SearchPass.landsAt_seed ((hm _).mpr (by simp [hseed])) ((hm e).mpr (by simp)) hde
        (by omega) fun x hx => ?_
      have hx := (hm x).mp hx
      simp only [List.mem_cons, List.not_mem_nil, or_false] at hx
      rcases hx with rfl | rfl | rfl | rfl
      · exact .inl hseed.symm
      · exact .inr ⟨k, Nat.le_refl k, hde⟩
      · exact .inr ⟨i, Nat.le_of_lt hik, hdf⟩
      · exact .inr ⟨i, Nat.le_of_lt hik, hdg⟩
    obtain ⟨b'', hreq, hu'', hc', hs⟩ := hu'.lands hat.more hland
    have hat' := SearchCursor.at_advance hland (Nat.succ_ne_zero k)
    rw [← hc', hseed] at hat'
    refine ⟨b'', ⟨hu'', _, run'.next hreq, ?_⟩, hat', fun x => hs ▸ hm x⟩
    rw [hseed]
    exact List.forall_mem_append.mpr ⟨hfound, List.forall_mem_singleton.mpr (Nat.le_refl _)⟩

/-- All but the two devices that mislead are unplugged: the next pass takes the
second of them for the last of all. -/
theorem ComesTo.goes_astray {d f g : Address} {j k : Nat}
    (h : ComesTo alarmOnly skipReset b₀ d b) (hat : b.cursor.At d (k + 1))
    (hS : ∀ x ∈ [f, g], x ∈ b.searched alarmOnly) (hdf : d.searchKey < f.searchKey)
    (hfg : Forks j f g) (hjk : j ≤ k) (hor : j = k ∨ d.bit j = true) :
    ∃ found b', Finishes alarmOnly skipReset b₀ found b' ∧ f ∈ b'.searched alarmOnly ∧
      f ∉ found := by
  obtain ⟨hu, found, run, hfound⟩ := h
  obtain ⟨b₁, run₁, hu₁, hc₁, hm⟩ := run.keep [f, g] hu
  replace hm : ∀ x, x ∈ b₁.searched alarmOnly ↔ x = f ∨ x = g := fun x => by
    rw [hm x, and_iff_right_of_imp (hS x), List.mem_cons, List.mem_singleton]
  rw [← hc₁] at hat
  have hseed : b₁.cursor.pass.seed = d := hat.current
  have hlast : b₁.cursor.pass.lastDiscrepancy = k + 1 := hat.branch
  have hland : LandsAt b₁.cursor.pass (b₁.searched alarmOnly) g 0 := by
    refine SearchPass.landsAt_of_pair hm hfg ?_
    rw [SearchPass.choice, hseed, hlast]
    split
    · exact hor.resolve_left (by omega)
    · exact decide_eq_true (by omega)
  obtain ⟨b₂, hreq, hu₂, hc₂, hs₂⟩ := hu₁.lands hat.more hland
  have done : b₂.cursor.exhausted = true := by
    rw [hc₂, hland.answer_eq]
    exact decide_eq_true rfl
  obtain ⟨b₃, hend, -, hs₃, -⟩ := hu₂.findNext
  rw [SearchCursor.meet_of_exhausted done] at hend
  refine ⟨_, b₃, .next (run₁.next hreq) hend, ?_, fun hin => ?_⟩
  · rw [hs₃, hs₂]
    exact (hm f).mpr (.inl rfl)
  · rcases List.mem_append.mp hin with hin | hin
    · exact absurd (hfound f hin) (Nat.not_le.mpr hdf)
    · exact hfg.ne (List.mem_singleton.mp hin)

/-- With four addresses that mislead it an enumeration can lose one of them. -/
theorem exists_lost (hP : Misleading (b₀.searched alarmOnly)) (h₀ : Ready b₀) :
    ∃ found b, Finishes alarmOnly skipReset b₀ found b ∧ ∃ a ∈ b.searched alarmOnly, a ∉ found := by
  obtain ⟨d, hd, e, he, f, hf, g, hg, i, j, k, hij, hjk, hde, hdf, hfg, hor⟩ := hP
  have hdg : Forks i d g := hdf.of_agree_right (hfg.1.mono hij).symm
  obtain ⟨b₁, z, h₁, hs₁, hat₁, hkz⟩ :=
    exists_comesTo b₀ hd he hde _ 0 _ (Nat.lt_succ_self _) (h₀.underway alarmOnly skipReset)
      rfl (.start rfl rfl) (Nat.zero_le _) fun a b' hreq hle =>
        ⟨[a], .first hreq, fun x hx => List.mem_singleton.mp hx ▸ hle⟩
  obtain ⟨b₂, h₂, hat₂, hm₂⟩ := h₁.branch_next hat₁ hkz
    (by simpa [hs₁] using ⟨hd, he, hf, hg⟩) (by omega) hde hdf hdg
  obtain ⟨found, b', fin, hleft, hno⟩ := h₂.goes_astray hat₂ (by simp [hm₂])
    hdf.searchKey_lt hfg hjk hor
  exact ⟨found, b', fin, f, hleft, hno⟩

/-- An enumeration of all families can be brought to its end whatever was
unplugged so far, and which devices are unplugged on the way never loses another
one exactly if no four of those that take part at its start mislead a pass. -/
theorem loses_nobody_iff (b₀ : Bus (Network × Driver)) (alarmOnly skipReset : Bool)
    (attached : b₀.line.2.selected.isSome = true) (unshorted : b₀.line.1.short = false)
    (unfiltered : b₀.filter = .all) :
    (∀ found b, b₀.Enumerates alarmOnly skipReset found b →
      ∃ more b', b₀.Finishes alarmOnly skipReset (found ++ more) b') ∧
    ((∀ found b, b₀.Finishes alarmOnly skipReset found b →
        ∀ a, b.line.1.TakesPart alarmOnly a → a ∈ found) ↔
      ¬ Misleading (b₀.line.1.participants (.ofAlarmOnly alarmOnly))) := by
  have h₀ : Ready b₀ := ⟨attached, unshorted, unfiltered⟩
  refine ⟨fun found b run => run.finishes h₀, fun h hP => ?_, fun hP found b fin a ha => ?_⟩
  · obtain ⟨found, b, fin, a, ha, hno⟩ := exists_lost hP h₀
    exact hno (h found b fin a (mem_searched.mp ha))
  · exact fin.found_of_left hP h₀ a (mem_searched.mpr ha)

end Bus

/-- Of three devices none is lost, as misleading takes four. -/
theorem loses_nobody_of_three :
    let b := Driver.bus (.populated [⟨2⟩, ⟨1⟩, ⟨3⟩] [])
    (b.line.2.selected.isSome = true ∧ b.line.1.short = false ∧ b.filter = .all) ∧
      ∀ found b', b.Finishes false false found b' →
        ∀ a, b'.line.1.TakesPart false a → a ∈ found := by
  intro b
  refine ⟨⟨rfl, rfl, rfl⟩, (b.loses_nobody_iff false false rfl rfl rfl).2.mpr fun hP => ?_⟩
  exact absurd hP.four_le (by decide)

/-- An enumeration of 2, 6, 1 and 3, in the order of their keys: 2 and 6 are
unplugged once 2 is reported, and then 1, still attached, is never reported. -/
theorem exists_lost_of_four :
    ∃ b, (Driver.bus (.populated [⟨2⟩, ⟨6⟩, ⟨1⟩, ⟨3⟩] [])).Finishes false false [⟨2⟩, ⟨3⟩] b ∧
      b.line.1.TakesPart false ⟨1⟩ := by
  have start : (Driver.bus (.populated [⟨2⟩, ⟨6⟩, ⟨1⟩, ⟨3⟩] [])).Enumerates false false [⟨2⟩] _ :=
    .first rfl
  exact ⟨_, .next (.next (.unplug ⟨6⟩ (.unplug ⟨2⟩ start)) rfl) rfl,
    ⟨⟨1⟩, false, []⟩, by decide, rfl, nofun⟩

end BusMaster
