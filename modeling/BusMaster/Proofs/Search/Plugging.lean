import BusMaster.Proofs.Search.Unplugging
import Mathlib.Data.List.Nodup

/-!
# Devices plugged in during an enumeration

Devices may join the wire between the requests of an enumeration. The one found
last then still takes part, and so does the one that the next pass is to branch
to, so the pass comes out beyond the one found last, wherever the others are.

* `SearchCursor.Onward`: what the cursor keeps of the devices that take part from
  the start on (`Onward.grow`, `Onward.meet`);
* `Network.GrowsTo`: a change of the wire after which nobody has dropped out;
* `Bus.Admits`, `Bus.SurelyEnds`: an enumeration with such changes, and that it
  cannot go on for ever;
* `Advances.request`: one request of it;
* `Bus.plugging_harmless`: all together.
-/

namespace BusMaster

open Address (Agree Forks)
open SearchPass (LandsAt)

namespace SearchCursor

variable {P P' S found : List Address} {c : SearchCursor} {d : Address} {z : Nat}

/-- An enumeration that reported `found` is at its start, or it covers `S` and
nothing that it reported is beyond the address found last. -/
inductive Onward (P S found : List Address) (c : SearchCursor) : Prop where
  | start (none : found = []) (more : c.exhausted = false) (first : c.lastDiscrepancy = 0)
  | going (covers : Covers P S found c) (behind : ∀ x ∈ found, x.searchKey ≤ c.current.searchKey)

theorem Onward.grow (h : Onward P S found c) (hP : ∀ x ∈ P, x ∈ P') : Onward P' S found c := by
  cases h with
  | start none more first => exact .start none more first
  | going covers behind => exact .going (covers.grow hP) behind

/-- Where a pass lands when nobody dropped out: beyond all that was reported, and
beyond none of `S` that was not. -/
theorem Onward.landsAt (h : Onward P S found c) (hS : ∀ x ∈ S, x ∈ P)
    (more : c.exhausted = false) (hd : LandsAt c.pass P d z) :
    (∀ x ∈ found, x.searchKey < d.searchKey) ∧
      ∀ x ∈ S, x.searchKey < d.searchKey → x ∈ found := by
  cases h with
  | start none _ first =>
    have hleast := (Place.start (S := P) more first).least more hd
    refine ⟨fun x hx => absurd (none ▸ hx) List.not_mem_nil, fun x hx hlt => ?_⟩
    exact absurd (hleast.2 x (hS x hx) (Nat.zero_le _)) (Nat.not_le.mpr hlt)
  | going covers behind =>
    cases covers with
    | ended done => exact absurd (more.symm.trans done) (by decide)
    | ahead _ mem pos fork left =>
      obtain ⟨e, he, hf⟩ := fork
      -- Nobody dropped out: the seed still leads to the branch point, and `e` beyond it.
      have hbeyond := (hd.forks_seed pos he hf).searchKey_lt
      refine ⟨fun x hx => Nat.lt_of_le_of_lt (behind x hx) hbeyond, fun x hx hlt => ?_⟩
      refine (left x hx).resolve_right ?_
      rintro ⟨j, hj, hjx⟩
      have hle := hd.ahead mem (Agree.refl _ _) (hS x hx) hj hjx
      omega

theorem Onward.found_of_exhausted (h : Onward P S found c) (done : c.exhausted = true) :
    ∀ x ∈ S, x ∈ found := by
  cases h with
  | start _ more => exact absurd (more.symm.trans done) (by decide)
  | going covers =>
    cases covers with
    | ahead more => exact absurd (more.symm.trans done) (by decide)
    | ended _ left => exact left

/-- One request: all of `S` was reported, or it reports one more in order. -/
theorem Onward.meet (h : Onward P S found c) (hS : ∀ x ∈ S, x ∈ P)
    (hL : c.exhausted = false → c.lastDiscrepancy ≤ 64) :
    (c.meet P).1 = .finished ∧ (∀ x ∈ S, x ∈ found) ∨
    ∃ d ∈ P, (c.meet P).1 = .device d ∧ (∀ x ∈ found, x.searchKey < d.searchKey) ∧
      Onward P S (found ++ [d]) (c.meet P).2 := by
  rcases c.meet_cases P hL with ⟨hend, hm⟩ | ⟨more, d, z, hd, hm⟩
  · rw [hm]
    refine .inl ⟨rfl, ?_⟩
    rcases hend with done | rfl
    · exact h.found_of_exhausted done
    · exact fun x hx => absurd (hS x hx) List.not_mem_nil
  · rw [hm]
    obtain ⟨hbeyond, hpassed⟩ := h.landsAt hS more hd
    refine .inr ⟨d, hd.mem, rfl, hbeyond, .going (covers_advance hd (fun _ hx => hx) hS hpassed) ?_⟩
    have hcurrent : (c.advance (c.pass.answer P)).current = d := hd.address_answer
    rw [hcurrent]
    exact Address.forall_le_snoc hbeyond

end SearchCursor

/-- Between `net` and `net'` nobody who takes part in a search drops out. -/
structure Network.GrowsTo (alarmOnly : Bool) (net net' : Network) : Prop where
  unshorted : net'.short = false
  kept : ∀ a, net.TakesPart alarmOnly a → net'.TakesPart alarmOnly a

/-- Attaching a device makes nobody drop out, unless it takes the alarm from a
device that is there. -/
theorem Network.growsTo_attach {net : Network} (unshorted : net.short = false) (alarmOnly : Bool)
    (a : Address) (alarming : Bool)
    (h : alarmOnly = false ∨ alarming = true ∨ net.isAttached a = false) :
    net.GrowsTo alarmOnly (net.attach a alarming) := by
  rw [attach]
  split
  · rename_i there
    refine ⟨unshorted, ?_⟩
    rintro x ⟨d, hd, rfl, hal⟩
    refine ⟨_, List.mem_map_of_mem hd, ?_, ?_⟩
    · split <;> rfl
    · intro only
      split
      · rcases h with hno | hal' | hnot
        · exact absurd (hno.symm.trans only) (by decide)
        · exact hal'
        · exact absurd (hnot.symm.trans there) (by decide)
      · exact hal only
  · refine ⟨unshorted, ?_⟩
    rintro x ⟨d, hd, rfl, hal⟩
    exact ⟨d, List.mem_append_left _ hd, rfl, hal⟩

namespace Bus

open SearchCursor (Onward)

variable {σ : Type} {alarmOnly skipReset : Bool} {S found : List Address}
  {b₀ b : Bus (Network × Driver)}

/-- The request of an enumeration that reported `found`: to start it, or for what
comes next. -/
def requestAfter (t : Transport σ) (alarmOnly skipReset : Bool) (found : List Address)
    (b : Bus σ) : Found × Bus σ :=
  if found.isEmpty then b.findFirst t alarmOnly skipReset else b.findNext t

/-- The bus with another wire. -/
def rewire (net : Network) (b : Bus (Network × Driver)) : Bus (Network × Driver) :=
  b.map fun (_, drv) => (net, drv)

/-- An enumeration begun on `b₀` reported `found`, and came to `b`. The wire may
change between its requests, as long as nobody drops out. -/
inductive Admits (alarmOnly skipReset : Bool) (b₀ : Bus (Network × Driver)) :
    List Address → Bus (Network × Driver) → Prop where
  | start : Admits alarmOnly skipReset b₀ [] b₀
  | grow {found : List Address} {b : Bus (Network × Driver)} {net : Network}
    (run : Admits alarmOnly skipReset b₀ found b) (grown : b.line.1.GrowsTo alarmOnly net) :
    Admits alarmOnly skipReset b₀ found (b.rewire net)
  | report {found : List Address} {b b' : Bus (Network × Driver)} {a : Address}
    (run : Admits alarmOnly skipReset b₀ found b)
    (reported : b.requestAfter Driver.transport alarmOnly skipReset found = (.device a, b')) :
    Admits alarmOnly skipReset b₀ (found ++ [a]) b'

/-- However the wire grows from here on, each request is answered, and after
finitely many of them the enumeration is at its end. -/
inductive SurelyEnds (alarmOnly skipReset : Bool) :
    List Address → Bus (Network × Driver) → Prop where
  | intro {found : List Address} {b : Bus (Network × Driver)}
    (answers : ∀ net, b.line.1.GrowsTo alarmOnly net → ∃ b',
      (b.rewire net).requestAfter Driver.transport alarmOnly skipReset found = (.finished, b') ∨
      ∃ a, (b.rewire net).requestAfter Driver.transport alarmOnly skipReset found = (.device a, b'))
    (rest : ∀ net a b', b.line.1.GrowsTo alarmOnly net →
      (b.rewire net).requestAfter Driver.transport alarmOnly skipReset found = (.device a, b') →
      SurelyEnds alarmOnly skipReset (found ++ [a]) b') :
    SurelyEnds alarmOnly skipReset found b

/-- The bus with the cursor that the request starts from. -/
def readied (alarmOnly skipReset : Bool) (found : List Address) (b : Bus σ) : Bus σ :=
  if found.isEmpty then { b with cursor := { alarmOnly, skipReset } } else b

theorem requestAfter_eq (t : Transport σ) (alarmOnly skipReset : Bool) (found : List Address)
    (b : Bus σ) : b.requestAfter t alarmOnly skipReset found =
      (b.readied alarmOnly skipReset found).findNext t := by
  rw [requestAfter, readied]
  split
  · exact findFirst_eq_findNext t alarmOnly skipReset b
  · rfl

/-- What such an enumeration keeps of the devices `S` that take part from its
start on. -/
structure Advances (alarmOnly skipReset : Bool) (S found : List Address)
    (b : Bus (Network × Driver)) : Prop where
  underway : Underway alarmOnly skipReset (b.readied alarmOnly skipReset found)
  left : ∀ x ∈ S, x ∈ b.searched alarmOnly
  ascending : found.Pairwise (·.searchKey < ·.searchKey)
  onward : Onward (b.searched alarmOnly) S found (b.readied alarmOnly skipReset found).cursor

theorem Advances.start (h : Ready b) :
    Advances alarmOnly skipReset (b.searched alarmOnly) [] b :=
  ⟨h.underway alarmOnly skipReset, fun _ hx => hx, .nil, .start rfl rfl rfl⟩

theorem Advances.grow {net : Network} (h : Advances alarmOnly skipReset S found b)
    (grown : b.line.1.GrowsTo alarmOnly net) :
    Advances alarmOnly skipReset S found (b.rewire net) := by
  have hkept : ∀ x ∈ b.searched alarmOnly, x ∈ (b.rewire net).searched alarmOnly :=
    fun x hx => mem_searched.mpr (grown.kept x (mem_searched.mp hx))
  have hready : (b.rewire net).readied alarmOnly skipReset found =
      (b.readied alarmOnly skipReset found).rewire net := by
    rw [readied, readied]
    split <;> rfl
  have hu := h.underway
  refine ⟨?_, fun x hx => hkept x (h.left x hx), h.ascending, ?_⟩
  · rw [hready]
    exact ⟨⟨hu.attached, grown.unshorted, hu.unfiltered⟩, hu.options, hu.le_64⟩
  · rw [hready]
    exact h.onward.grow hkept

/-- A request comes to the end, when all of `S` was reported, or it reports a
device that takes part and the enumeration goes on. -/
theorem Advances.request (h : Advances alarmOnly skipReset S found b) :
    ∃ b', (b.requestAfter Driver.transport alarmOnly skipReset found = (.finished, b') ∧
        ∀ x ∈ S, x ∈ found) ∨
      ∃ a ∈ b.searched alarmOnly,
        b.requestAfter Driver.transport alarmOnly skipReset found = (.device a, b') ∧
        Advances alarmOnly skipReset S (found ++ [a]) b' := by
  have hsearched : (b.readied alarmOnly skipReset found).searched alarmOnly =
      b.searched alarmOnly := by
    rw [readied]
    split <;> rfl
  obtain ⟨b', he, hc, hs, hu⟩ := h.underway.findNext
  rw [← requestAfter_eq] at he
  rw [hsearched] at he hc hs
  rcases h.onward.meet h.left h.underway.le_64 with ⟨hm, hall⟩ | ⟨d, hd, hm, hbeyond, onward⟩
  · exact ⟨b', .inl ⟨hm ▸ he, hall⟩⟩
  · have hready : b'.readied alarmOnly skipReset (found ++ [d]) = b' := by
      rw [readied, if_neg (by simp)]
    refine ⟨b', .inr ⟨d, hd, hm ▸ he, hready.symm ▸ hu, fun x hx => hs ▸ h.left x hx,
      Address.ascending_snoc h.ascending hbeyond, ?_⟩⟩
    rw [hready, hs, hc]
    exact onward

theorem Advances.reported {a : Address} {b' : Bus (Network × Driver)}
    (h : Advances alarmOnly skipReset S found b)
    (reported : b.requestAfter Driver.transport alarmOnly skipReset found = (.device a, b')) :
    a ∈ b.searched alarmOnly ∧ Advances alarmOnly skipReset S (found ++ [a]) b' := by
  obtain ⟨b'', ⟨he, -⟩ | ⟨d, hd, he, hadv⟩⟩ := h.request
  · rw [he] at reported
    cases reported
  · rw [he] at reported
    cases reported
    exact ⟨hd, hadv⟩

theorem Admits.advances (run : Admits alarmOnly skipReset b₀ found b) (h₀ : Ready b₀) :
    Advances alarmOnly skipReset (b₀.searched alarmOnly) found b := by
  induction run with
  | start => exact .start h₀
  | grow _ grown ih => exact ih.grow grown
  | report _ reported ih => exact (ih.reported reported).2

/-- By induction on the number of keys that are left. -/
theorem Advances.surelyEnds : ∀ (n : Nat) (found : List Address) (b : Bus (Network × Driver)),
    2 ^ 64 < found.length + n → Advances alarmOnly skipReset S found b →
      SurelyEnds alarmOnly skipReset found b
  | 0, found, _, hn, h => absurd (Address.length_le_of_ascending h.ascending) (by omega)
  | n + 1, found, b, hn, h => by
    refine .intro (fun net grown => ?_) fun net a b' grown reported => ?_
    · obtain ⟨b', ⟨he, -⟩ | ⟨a, -, he, -⟩⟩ := (h.grow grown).request
      · exact ⟨b', .inl he⟩
      · exact ⟨b', .inr ⟨a, he⟩⟩
    · have hlen : 2 ^ 64 < (found ++ [a]).length + n := by
        rw [List.length_append, List.length_singleton]
        omega
      exact surelyEnds n _ b' hlen ((h.grow grown).reported reported).2

/-- As long as nobody who takes part drops out, the devices that join the wire
during an enumeration of all families do no harm: what it reports is in the order
of the keys, takes part when it is reported and includes, at the end, each device
that took part from the start on exactly once, and the end is sure to come. -/
theorem plugging_harmless (b₀ : Bus (Network × Driver)) (alarmOnly skipReset : Bool)
    (attached : b₀.line.2.selected.isSome = true) (unshorted : b₀.line.1.short = false)
    (unfiltered : b₀.filter = .all) (found : List Address) (b : Bus (Network × Driver))
    (run : b₀.Admits alarmOnly skipReset found b) :
    found.Pairwise (·.searchKey < ·.searchKey) ∧
    (∀ a, (b.requestAfter Driver.transport alarmOnly skipReset found).1 = .device a →
      b.line.1.TakesPart alarmOnly a) ∧
    ((b.requestAfter Driver.transport alarmOnly skipReset found).1 = .finished →
      ∀ a, b₀.line.1.TakesPart alarmOnly a → found.count a = 1) ∧
    b.SurelyEnds alarmOnly skipReset found := by
  have h := run.advances ⟨attached, unshorted, unfiltered⟩
  refine ⟨h.ascending, fun a reported => ?_, fun ended a ha => ?_, ?_⟩
  · exact mem_searched.mp (h.reported (Prod.ext reported rfl)).1
  · have hmem : a ∈ found := by
      obtain ⟨b'', ⟨-, hall⟩ | ⟨d, -, he, -⟩⟩ := h.request
      · exact hall a (mem_searched.mpr ha)
      · rw [he] at ended
        cases ended
    exact List.count_eq_one_of_mem (Address.nodup_of_ascending h.ascending) hmem
  · exact Advances.surelyEnds (2 ^ 64 + 1) found b (by omega) h

theorem Admits.report_next {a : Address} (run : Admits alarmOnly skipReset b₀ found b)
    (h : (b.requestAfter Driver.transport alarmOnly skipReset found).1 = .device a) :
    Admits alarmOnly skipReset b₀ (found ++ [a])
      (b.requestAfter Driver.transport alarmOnly skipReset found).2 :=
  run.report (Prod.ext h rfl)

end Bus

/-- To a wire of 2 and 1, in the order of their keys, 3 is attached once 2 was
reported. It is reported behind 1, and then the end comes. -/
theorem plugging_harmless_of_pair :
    let b₀ := Driver.bus (.populated [⟨1⟩, ⟨2⟩] [])
    (b₀.line.2.selected.isSome = true ∧ b₀.line.1.short = false ∧ b₀.filter = .all) ∧
      ∃ b, b₀.Admits false false [⟨2⟩, ⟨1⟩, ⟨3⟩] b ∧ b.SurelyEnds false false [⟨2⟩, ⟨1⟩, ⟨3⟩] ∧
        (b.requestAfter Driver.transport false false [⟨2⟩, ⟨1⟩, ⟨3⟩]).1 = .finished ∧
        ∀ a, b₀.line.1.TakesPart false a → [(⟨2⟩ : Address), ⟨1⟩, ⟨3⟩].count a = 1 := by
  intro b₀
  have begun : b₀.Admits false false [] b₀ := .start
  have once := begun.report_next (a := ⟨2⟩) (by decide +kernel)
  have joined := once.grow (Network.growsTo_attach (by decide +kernel) false ⟨3⟩ false (.inl rfl))
  have twice := joined.report_next (a := ⟨1⟩) (by decide +kernel)
  have thrice := twice.report_next (a := ⟨3⟩) (by decide +kernel)
  obtain ⟨-, -, hall, hends⟩ := b₀.plugging_harmless false false rfl rfl rfl _ _ thrice
  refine ⟨⟨rfl, rfl, rfl⟩, _, thrice, hends, ?_⟩
  refine (fun ended => ⟨ended, hall ended⟩) ?_
  decide +kernel

end BusMaster
