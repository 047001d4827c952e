import BusMaster.Adapter.Bus
import BusMaster.Proofs.Wire.Population

/-!
# The presence check

A presence check is one pass that replays the address asked for and branches at
the last position, 64. There the pass takes the one wherever a device offers it,
so the check misses a device whose last bit is zero if the address with the last
bit one takes part as well.

* `verifying_finds`: what the pass of a check finds;
* `Network.Masks`: the other address of such a pair takes part;
* `Bus.presence_check`: what the checks answer, for every wire;
* `not_isPresent_of_masked`: a device that is attached and not reported.
-/

namespace BusMaster

open Address (Forks)

namespace Address

/-- Two addresses that fork at the last bit differ in nothing else. -/
theorem forks_last_iff {a e : Address} :
    Forks 63 a e ↔ a.bit 63 = false ∧ e = a.setBit 63 true := by
  constructor
  · rintro ⟨hag, ha, he⟩
    exact ⟨ha, (hag.symm.setBit (by decide) he).eq⟩
  · rintro ⟨ha, rfl⟩
    refine ⟨fun k hk => ?_, ha, ?_⟩
    · rw [bit_setBit a (by decide), if_neg (by omega)]
    · rw [bit_setBit a (by decide), if_pos rfl]

end Address

namespace SearchPass

/-- The pass of a presence check. -/
def verifying (a : Address) (command : SearchCommand) (skipReset : Bool) : SearchPass :=
  ⟨a, addressBits, command, skipReset⟩

variable {a : Address} {command : SearchCommand} {skipReset : Bool} {S : List Address}

theorem choice_verifying (k : Nat) :
    (verifying a command skipReset).choice (k + 1) =
      if k < 63 then a.bit k else decide (k = 63) := by
  rw [choice, show (verifying a command skipReset).lastDiscrepancy = 63 + 1 from rfl]
  simp only [Nat.add_lt_add_iff_right, Nat.add_right_cancel_iff]
  rfl

/-- The pass of a check follows its address, but for the last bit, where it
takes a one if it can. -/
theorem follows_verifying_iff (a : Address) (command : SearchCommand) (skipReset : Bool)
    (S : List Address) :
    Follows (verifying a command skipReset) S a ↔ a ∈ S ∧ ∀ e ∈ S, ¬ Forks 63 a e := by
  constructor
  · intro h
    refine ⟨h.mem, fun e he hf => ?_⟩
    have hc := h.zero 63 e he hf
    rw [choice_verifying] at hc
    cases hc
  · rintro ⟨ha, hno⟩
    refine ⟨ha, fun k e he hf => ?_, fun k e he hf => ?_⟩
    · have hk : k ≠ 63 := by
        rintro rfl
        exact hno e he hf
      have := hf.lt_64
      rw [choice_verifying, if_pos (by omega)]
      exact hf.2.1
    · have := hf.lt_64
      rw [choice_verifying]
      split
      · exact hf.2.2
      · exact decide_eq_true (by omega)

/-- The check comes out at its address if that takes part and no other one
differs from it by a one in the last bit. -/
theorem verifying_finds (a : Address) (command : SearchCommand) (skipReset : Bool)
    (S : List Address) :
    (((verifying a command skipReset).answer S).lastDiscrepancy ≤ addressBits ∧
      ((verifying a command skipReset).answer S).address = a) ↔
    a ∈ S ∧ ¬ (a.bit 63 = false ∧ a.setBit 63 true ∈ S) := by
  have hmask : (∀ e ∈ S, ¬ Forks 63 a e) ↔ ¬ (a.bit 63 = false ∧ a.setBit 63 true ∈ S) := by
    simp only [Address.forks_last_iff]
    exact ⟨fun h ⟨hb, hm⟩ => h _ hm ⟨hb, rfl⟩, fun h e he ⟨hb, heq⟩ => h ⟨hb, heq ▸ he⟩⟩
  rw [← hmask, ← follows_verifying_iff a command skipReset]
  by_cases hS : S = []
  · subst hS
    rw [answer_nil]
    have hno : ¬ noDevice ≤ addressBits := by decide
    exact ⟨fun h => absurd h.1 hno, fun h => absurd h.mem List.not_mem_nil⟩
  · obtain ⟨d, z, hd, he⟩ := exists_landsAt (verifying a command skipReset) hS
    have hle := hd.answer_le (Nat.le_refl _)
    rw [he] at hle ⊢
    constructor
    · rintro ⟨-, heq⟩
      exact (show d = a from heq) ▸ hd.toFollows
    · exact fun h => ⟨hle, hd.toFollows.unique h⟩

end SearchPass

/-- A device takes part whose address differs from this one only in the last
bit, which is a one there and a zero here. -/
def Network.Masks (net : Network) (alarmOnly : Bool) (a : Address) : Prop :=
  a.bit 63 = false ∧ net.TakesPart alarmOnly (a.setBit 63 true)

open Driver (Undisturbed)

/-- One check: it finds the devices that take part and are not masked. -/
theorem Bus.verify_driver (b : Bus (Network × Driver)) (a : Address) (alarmOnly : Bool)
    (attached : b.line.2.selected.isSome = true) (unshorted : b.line.1.short = false) :
    ∃ found s, b.verify Driver.transport a (.ofAlarmOnly alarmOnly) =
        (found, { b with line := s }) ∧ Undisturbed b.line s ∧
      (found = true ↔ b.line.1.TakesPart alarmOnly a ∧ ¬ b.line.1.Masks alarmOnly a) := by
  have hp := Driver.perform_search attached
    (.verifying a (.ofAlarmOnly alarmOnly) b.cursor.skipReset) alarmOnly rfl
  rw [Network.takingPart_of_not_short unshorted] at hp
  rw [verify, Search.verify]
  simp only [SearchPass.verifying] at hp
  rw [hp]
  refine ⟨_, _, rfl, Driver.undisturbed_search _ _ _, ?_⟩
  simp only [Except.map, Bool.and_eq_true, decide_eq_true_iff, beq_iff_eq]
  have := SearchPass.verifying_finds a (.ofAlarmOnly alarmOnly) b.cursor.skipReset
    (b.line.1.participants (.ofAlarmOnly alarmOnly))
  simp only [SearchPass.verifying] at this
  rw [this, Network.Masks, Network.mem_participants, Network.mem_participants]

/-- What the checks for a device and for its alarm answer on a wire that is not
shorted, wherever an enumeration stands: that it is attached, and in alarm, as
long as no other device masks it. They change neither the cursor nor the filter
nor anything on the wire but its traffic. -/
theorem Bus.presence_check (b : Bus (Network × Driver)) (a : Address)
    (attached : b.line.2.selected.isSome = true) (unshorted : b.line.1.short = false) :
    ((b.isPresent Driver.transport a).1 = true ↔
      b.line.1.isAttached a = true ∧ ¬ b.line.1.Masks false a) ∧
    ((b.isAlarming Driver.transport a).1 = true ↔
      b.line.1.TakesPart true a ∧ ¬ b.line.1.Masks true a) ∧
    (∃ s, (b.isPresent Driver.transport a).2 = { b with line := s } ∧ Undisturbed b.line s) ∧
    ∃ s, (b.isAlarming Driver.transport a).2 = { b with line := s } ∧ Undisturbed b.line s := by
  obtain ⟨found, s, he, hs, hf⟩ := b.verify_driver a false attached unshorted
  obtain ⟨found', s', he', hs', hf'⟩ := b.verify_driver a true attached unshorted
  have hp : b.isPresent Driver.transport a = (found, { b with line := s }) := he
  have ha : b.isAlarming Driver.transport a = (found', { b with line := s' }) := he'
  rw [hp, ha, Network.isAttached_iff]
  exact ⟨hf, hf', ⟨s, rfl, hs⟩, s', rfl, hs'⟩

/-- A pair that differs in the last bit only: the device with the one is found,
and so is its alarm. -/
theorem presence_check_of_pair :
    let one := Address.ofBytes [0x28, 0x10, 0x20, 0x30, 0x40, 0x50, 0x60, 0x80]
    let zero := Address.ofBytes [0x28, 0x10, 0x20, 0x30, 0x40, 0x50, 0x60, 0x00]
    let b := Driver.bus (.populated [zero] [one])
    (b.line.2.selected.isSome = true ∧ b.line.1.short = false) ∧
      (b.isPresent Driver.transport one).1 = true ∧
      (b.isAlarming Driver.transport one).1 = true := by
  intro one zero b
  obtain ⟨hp, ha, -⟩ := b.presence_check one rfl rfl
  have unmasked : one.bit 63 = true := by decide
  have no : ∀ alarmOnly, ¬ b.line.1.Masks alarmOnly one := fun _ h => by
    rw [Network.Masks, unmasked] at h
    cases h.1
  exact ⟨⟨rfl, rfl⟩, hp.mpr ⟨by decide, no false⟩,
    ha.mpr ⟨⟨⟨one, true, []⟩, by decide, rfl, fun _ => rfl⟩, no true⟩⟩

/-- The device of the pair with the zero is attached and in alarm, and both
checks answer no. -/
theorem not_isPresent_of_masked :
    let one := Address.ofBytes [0x28, 0x10, 0x20, 0x30, 0x40, 0x50, 0x60, 0x80]
    let zero := Address.ofBytes [0x28, 0x10, 0x20, 0x30, 0x40, 0x50, 0x60, 0x00]
    let b := Driver.bus (.populated [] [zero, one])
    b.line.1.isAttached zero = true ∧ b.line.1.participants .alarm = [zero, one] ∧
      (b.isPresent Driver.transport zero).1 = false ∧
      (b.isAlarming Driver.transport zero).1 = false := by
  decide +kernel

end BusMaster
