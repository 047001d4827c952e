import BusMaster.Proofs.Wire.Population
import Mathlib.Order.Bounds.Defs

/-!
# One search pass against its contract

A driver keeps the seed and the address found in one buffer: at each position it
reads the seed bit there, chooses, and writes the bit chosen over it.

* `Disputed S d q`: at position `q`, those of `S` that agree with `d` so far
  offer both bits;
* `SearchPass.overwrite_answer`: the walk in the buffer runs through all positions;
* `Network.Silent`: the wires on which no device answers a search;
* `Driver.perform_search_iff_silent`: what one pass answers on every wire.
-/

namespace BusMaster

open Address (Agree Forks)

namespace SearchPass

variable {pass : SearchPass} {S : List Address} {d : Address}

/-! ## Disputed positions -/

/-- The seed below the last discrepancy, the one at it and the zero after it. -/
theorem choice_cases (pass : SearchPass) (q : Nat) :
    (q < pass.lastDiscrepancy → pass.choice q = pass.seed.bit (q - 1)) ∧
      (q = pass.lastDiscrepancy → pass.choice q = true) ∧
      (pass.lastDiscrepancy < q → pass.choice q = false) := by
  rw [choice]
  refine ⟨fun h => if_pos h, fun h => ?_, fun h => ?_⟩
  · rw [if_neg (by omega)]
    exact decide_eq_true h
  · rw [if_neg (by omega)]
    exact decide_eq_false (by omega)

/-- At position `q`, counted from 1, those of `S` that agree with `d` on all
earlier positions offer both bits. -/
structure Disputed (S : List Address) (d : Address) (q : Nat) : Prop where
  pos : 0 < q
  zero : ∃ e ∈ S, Agree (q - 1) e d ∧ e.bit (q - 1) = false
  one : ∃ e ∈ S, Agree (q - 1) e d ∧ e.bit (q - 1) = true

/-- Where one of them has the zero, it forks from another one there. -/
theorem disputed_of_zero {q : Nat} (hd : d ∈ S) (hb : d.bit (q - 1) = false) :
    Disputed S d q ↔ 0 < q ∧ ∃ e ∈ S, Forks (q - 1) d e := by
  constructor
  · rintro ⟨hq, -, e, he, hag, hone⟩
    exact ⟨hq, e, he, hag.symm, hb, hone⟩
  · rintro ⟨hq, e, he, hag, -, hone⟩
    exact ⟨hq, ⟨d, hd, .refl _ _, hb⟩, ⟨e, he, hag.symm, hone⟩⟩

/-- At a disputed position the address found has the bit that the pass chose. -/
theorem Follows.bit_of_disputed {q : Nat} (h : Follows pass S d) (hq : Disputed S d q) :
    d.bit (q - 1) = pass.choice q := by
  obtain ⟨hpos, ⟨a, ha, haga, hazero⟩, ⟨b, hb, hagb, hbone⟩⟩ := hq
  have hidx : q - 1 + 1 = q := by omega
  cases hbit : d.bit (q - 1)
  · rw [← hidx]
    exact (h.zero (q - 1) b hb ⟨hagb.symm, hbit, hbone⟩).symm
  · rw [← hidx]
    exact (h.one (q - 1) a ha ⟨haga, hazero, hbit⟩).symm

/-- The deepest fork at which the address found has the zero is the greatest
such disputed position. -/
theorem LandsAt.isGreatest {z : Nat} (h : LandsAt pass S d z) (hz : z ≠ 0) :
    IsGreatest {q | Disputed S d q ∧ d.bit (q - 1) = false} z := by
  constructor
  · rcases h.deepest with h0 | ⟨e, he, hf⟩
    · exact absurd h0 hz
    · exact ⟨(disputed_of_zero h.mem hf.2.1).mpr ⟨by omega, e, he, hf⟩, hf.2.1⟩
  · rintro q ⟨hq, hb⟩
    obtain ⟨hpos, e, he, hf⟩ := (disputed_of_zero h.mem hb).mp hq
    have := h.below (q - 1) e he hf
    omega

/-- No fork with the zero: the address found has the one at every disputed
position. -/
theorem LandsAt.bit_of_no_zero (h : LandsAt pass S d 0) {q : Nat} (hq : Disputed S d q) :
    d.bit (q - 1) = true := by
  by_contra hb
  obtain ⟨-, e, he, hf⟩ := (disputed_of_zero h.mem (Bool.eq_false_of_not_eq_true hb)).mp hq
  exact absurd (h.below (q - 1) e he hf) (Nat.not_lt_zero _)

/-- The discrepancy answered is the greatest disputed position at which the
address found has the zero, or the one that the pass was given. -/
theorem LandsAt.lastDiscrepancy_answer {z : Nat} (h : LandsAt pass S d z) :
    IsGreatest {q | Disputed S d q ∧ d.bit (q - 1) = false} (pass.answer S).lastDiscrepancy ∨
      (∀ q, Disputed S d q → d.bit (q - 1) = true) ∧
        (pass.answer S).lastDiscrepancy = pass.lastDiscrepancy := by
  rw [h.answer_eq]
  by_cases hz : z = 0
  · subst hz
    exact .inr ⟨fun _ => h.bit_of_no_zero, rfl⟩
  · rw [if_neg hz]
    exact .inl (h.isGreatest hz)

/-- On any devices the walk in the buffer comes out at what is answered: it does
not get to a position where none of those left offers a bit. -/
theorem overwrite_answer (pass : SearchPass) (hS : S ≠ []) :
    ∃ lastZero, pass.overwrite 0 addressBits S { address := pass.seed } =
        .ok ⟨(pass.answer S).address, lastZero⟩ ∧
      (pass.answer S).lastDiscrepancy =
        if lastZero = 0 then pass.lastDiscrepancy else lastZero := by
  obtain ⟨d, z, h, hwalk⟩ := overwrite_landsAt pass addressBits 0 S { address := pass.seed } rfl hS
    (fun e _ => Agree.zero e pass.seed) fun _ _ => rfl
  refine ⟨if z = 0 then 0 else z, ?_, ?_⟩
  · rw [hwalk, h.address_answer]
  · rw [h.answer_eq]
    by_cases hz : z = 0
    · rw [hz]
      rfl
    · simp only [hz, if_false]

end SearchPass

namespace Network

/-- No device answers a search: none is searched for, or the reset before the
pass finds no presence or a short. -/
def Silent (net : Network) (command : SearchCommand) (skipReset : Bool) : Prop :=
  net.participants command = [] ∨
    skipReset = false ∧ (net.resetResult = .noPresence ∨ net.resetResult = .short)

variable {net : Network} {alarmOnly skipReset : Bool}

theorem unanswered_iff {result : ResetResult} :
    (skipReset || result.isPresent) = false ↔
      skipReset = false ∧ (result = .noPresence ∨ result = .short) := by
  cases skipReset <;> cases result <;> decide

theorem silent_iff :
    net.Silent (.ofAlarmOnly alarmOnly) skipReset ↔ net.takingPart alarmOnly skipReset = [] := by
  rw [← takingPart_eq, Silent, ← unanswered_iff]
  cases skipReset || net.resetResult.isPresent <;> simp

theorem takingPart_of_not_silent (h : ¬ net.Silent (.ofAlarmOnly alarmOnly) skipReset) :
    net.takingPart alarmOnly skipReset = net.participants (.ofAlarmOnly alarmOnly) := by
  rw [← takingPart_eq, if_pos]
  by_contra hno
  exact h (.inr (unanswered_iff.mp (Bool.eq_false_of_not_eq_true hno)))

end Network

namespace Driver

open SearchPass (Disputed)

/-- A search pass of a driver with a port selected. It answers that no device is
there exactly on a silent wire, and then returns its seed. On any other wire it
answers a device that takes part, along its choices: the seed below the last
discrepancy, the ones at it and the zeros after it. -/
theorem perform_search_iff_silent (s : Network × Driver) (pass : SearchPass)
    (attached : s.2.selected.isSome = true) (hL : pass.lastDiscrepancy ≤ addressBits) :
    let S := s.1.participants pass.command
    let silent := s.1.Silent pass.command pass.skipReset
    ∃ answer, Driver.transport.perform (.search pass) s =
        (.ok answer,
          { s.1 with
            traffic := s.1.traffic ++
              [.search pass.command.opcode pass.lastDiscrepancy pass.skipReset] },
          { s.2 with phase := .idle }) ∧
      (addressBits < answer.lastDiscrepancy ↔ silent) ∧
      (silent → answer.address = pass.seed) ∧
      (¬ silent →
        answer.address ∈ S ∧
        (∀ q, Disputed S answer.address q →
          (q < pass.lastDiscrepancy → answer.address.bit (q - 1) = pass.seed.bit (q - 1)) ∧
          (q = pass.lastDiscrepancy → answer.address.bit (q - 1) = true) ∧
          (pass.lastDiscrepancy < q → answer.address.bit (q - 1) = false)) ∧
        (IsGreatest {q | Disputed S answer.address q ∧ answer.address.bit (q - 1) = false}
            answer.lastDiscrepancy ∨
          (∀ q, Disputed S answer.address q → answer.address.bit (q - 1) = true) ∧
            answer.lastDiscrepancy = pass.lastDiscrepancy) ∧
        ∃ lastZero, pass.overwrite 0 addressBits S { address := pass.seed } =
            .ok ⟨answer.address, lastZero⟩ ∧
          answer.lastDiscrepancy =
            if lastZero = 0 then pass.lastDiscrepancy else lastZero) := by
  obtain ⟨alarmOnly, hc⟩ : ∃ alarmOnly, pass.command = .ofAlarmOnly alarmOnly := by
    cases pass.command
    · exact ⟨false, rfl⟩
    · exact ⟨true, rfl⟩
  intro S silent
  refine ⟨_, perform_search attached pass alarmOnly hc, ?_⟩
  by_cases h : silent
  · have hnone : s.1.takingPart alarmOnly pass.skipReset = [] :=
      Network.silent_iff.mp (hc ▸ h)
    rw [hnone, SearchPass.answer_nil]
    exact ⟨⟨fun _ => h, fun _ => Nat.lt_succ_self addressBits⟩, fun _ => rfl,
      fun hn => absurd h hn⟩
  · have hall : s.1.takingPart alarmOnly pass.skipReset = S := by
      rw [Network.takingPart_of_not_silent (hc ▸ h), ← hc]
    have hS : S ≠ [] := fun hnil => h (.inl hnil)
    obtain ⟨d, z, land, -⟩ := pass.exists_landsAt hS
    rw [hall]
    refine ⟨⟨fun hgt => ?_, fun hs => absurd hs h⟩, fun hs => absurd hs h, fun _ => ?_⟩
    · have := land.answer_le hL
      omega
    · rw [land.address_answer]
      refine ⟨land.mem, fun q hq => ?_, land.lastDiscrepancy_answer, ?_⟩
      · rw [land.bit_of_disputed hq]
        exact pass.choice_cases q
      · have := pass.overwrite_answer hS
        rwa [land.address_answer] at this

/-- A seed that no device has: the pass replays its bit at position 2, takes the
ones at 3 and the zeros at 4, over the seed's one. -/
theorem perform_search_of_foreign_seed :
    let net := Network.populated [⟨1⟩, ⟨3⟩, ⟨7⟩, ⟨15⟩] []
    let pass : SearchPass :=
      { seed := ⟨10⟩, lastDiscrepancy := 3, command := .normal, skipReset := false }
    let S := net.participants .normal
    ¬ net.Silent .normal false ∧
      (Driver.transport.perform (.search pass) (Driver.bus net).line).1 = .ok ⟨4, ⟨7⟩⟩ ∧
      IsGreatest {q | Disputed S ⟨7⟩ q ∧ Address.bit ⟨7⟩ (q - 1) = false} 4 := by
  intro net pass S
  obtain ⟨answer, he, hnone, -, hsome⟩ := perform_search_iff_silent (Driver.bus net).line pass
    (by decide) (by decide)
  have hanswer : (Driver.transport.perform (.search pass) (Driver.bus net).line).1 =
      .ok ⟨4, ⟨7⟩⟩ := by decide +kernel
  obtain rfl : answer = ⟨4, ⟨7⟩⟩ := Except.ok.inj ((congrArg Prod.fst he).symm.trans hanswer)
  have quiet : ¬ net.Silent .normal false := fun h => absurd (hnone.mpr h) (by decide)
  obtain ⟨-, -, hgreatest | ⟨-, hL⟩, -⟩ := hsome quiet
  · exact ⟨quiet, hanswer, hgreatest⟩
  · exact absurd hL (by decide)

end Driver

end BusMaster
