import BusMaster.Proofs.Address.Bytes
import BusMaster.Proofs.Search.Enumeration
import BusMaster.Proofs.Search.Presence

/-!
# Checks and enumerations agree

Where every device on the wire carries a valid checksum, no two addresses differ
in the last bit alone, so none masks another one from a check. A check then
answers yes exactly for the addresses that an enumeration lists.

* `Network.Checksummed.not_masks`: on a wire with checksums nobody is masked;
* `Bus.verify_agrees`: one check against one enumeration;
* `Bus.checks_agree`: both checks against both enumerations.
-/

namespace BusMaster

/-- Every device on the wire carries a valid checksum. -/
def Network.Checksummed (net : Network) : Prop :=
  ∀ a ∈ net.addresses, a.hasValidChecksum = true

variable {net : Network} {alarmOnly : Bool} {a : Address}

theorem Network.Checksummed.of_takesPart (h : net.Checksummed) (ha : net.TakesPart alarmOnly a) :
    a.hasValidChecksum = true := by
  obtain ⟨d, hd, rfl, -⟩ := ha
  exact h _ (List.mem_map_of_mem hd)

/-- The mask of a device has the same bytes but for the checksum, which is then
the same as well. -/
theorem Network.Checksummed.not_masks (h : net.Checksummed) (ha : net.TakesPart alarmOnly a) :
    ¬ net.Masks alarmOnly a := by
  rintro ⟨hb, hm⟩
  have hf : Address.Forks 63 a (a.setBit 63 true) := Address.forks_last_iff.mpr ⟨hb, rfl⟩
  exact hf.ne (Address.eq_of_hasValidChecksum (h.of_takesPart ha) (h.of_takesPart hm)
    (hf.1.mono (by decide)))

namespace Bus

variable {b : Bus (Network × Driver)}

/-- A check on a wire with checksums finds the devices that take part. -/
theorem verify_iff (attached : b.line.2.selected.isSome = true)
    (unshorted : b.line.1.short = false) (checksummed : b.line.1.Checksummed) (a : Address) :
    (b.verify Driver.transport a (.ofAlarmOnly alarmOnly)).1 = true ↔
      b.line.1.TakesPart alarmOnly a := by
  obtain ⟨found, s, he, -, hf⟩ := b.verify_driver a alarmOnly attached unshorted
  rw [he, hf]
  exact and_iff_left_of_imp checksummed.not_masks

/-- An enumeration of all families lists the addresses that a check finds, made
before it or after it. -/
theorem verify_agrees (b : Bus (Network × Driver)) (alarmOnly skipReset : Bool)
    (attached : b.line.2.selected.isSome = true) (unshorted : b.line.1.short = false)
    (checksummed : b.line.1.Checksummed) (unfiltered : b.filter = .all) :
    ∃ found b', b.devices Driver.transport alarmOnly skipReset = (.complete found, b') ∧
      ∀ checked, checked = b ∨ checked = b' → ∀ a,
        (checked.verify Driver.transport a (.ofAlarmOnly alarmOnly)).1 = true ↔ a ∈ found := by
  obtain ⟨found, s, he, hf, hs⟩ :=
    b.walk_lists (populated_driver attached alarmOnly skipReset) (.refl _)
  rw [← devices_eq_walk] at he
  have hmem : ∀ a, b.line.1.TakesPart alarmOnly a ↔ a ∈ found := by
    intro a
    rw [hf.mem_iff, unfiltered, Search.filter_all, Network.takingPart_of_not_short unshorted,
      Network.mem_participants]
    exact (and_iff_left (Nat.zero_le _)).symm
  refine ⟨found, _, he, ?_⟩
  rintro checked (rfl | rfl) a
  · exact (verify_iff attached unshorted checksummed a).trans (hmem a)
  · -- The enumeration left the devices as they were.
    have hsame : s.1.TakesPart alarmOnly a ↔ b.line.1.TakesPart alarmOnly a := by
      rw [Network.TakesPart, hs.devices, Network.TakesPart]
    have checksummed' : s.1.Checksummed := by
      rw [Network.Checksummed, Network.addresses, hs.devices]
      exact checksummed
    refine (verify_iff ?_ ?_ checksummed' a).trans (hsame.trans (hmem a))
    · exact hs.selected ▸ attached
    · exact hs.short.trans unshorted

/-- Where every device carries a valid checksum, the check for a device answers
yes exactly for the addresses that an enumeration of all families lists, and the
check for its alarm exactly for those that an enumeration of the devices in alarm
lists. This is so for any address asked for, wherever the cursor stands, whether
the enumeration resets the bus or not, and whichever of the two comes first. -/
theorem checks_agree (b : Bus (Network × Driver)) (skipReset : Bool)
    (attached : b.line.2.selected.isSome = true) (unshorted : b.line.1.short = false)
    (checksummed : b.line.1.Checksummed) (unfiltered : b.filter = .all) :
    (∃ found b', b.devices Driver.transport false skipReset = (.complete found, b') ∧
      ∀ checked, checked = b ∨ checked = b' → ∀ a,
        (checked.isPresent Driver.transport a).1 = true ↔ a ∈ found) ∧
    ∃ found b', b.devices Driver.transport true skipReset = (.complete found, b') ∧
      ∀ checked, checked = b ∨ checked = b' → ∀ a,
        (checked.isAlarming Driver.transport a).1 = true ↔ a ∈ found :=
  ⟨b.verify_agrees false skipReset attached unshorted checksummed unfiltered,
    b.verify_agrees true skipReset attached unshorted checksummed unfiltered⟩

/-- A quiet device and one in alarm, whose addresses carry checksums. Both are
listed, and an address that differs from one of them in the last bit is not. -/
theorem checks_agree_of_pair :
    let quiet := Address.withChecksum 0x28 [4, 2, 3, 4, 5, 6]
    let alarming := Address.withChecksum 0x10 [1, 2, 3, 4, 5, 6]
    let b := Driver.bus (.populated [quiet] [alarming])
    (b.line.2.selected.isSome = true ∧ b.line.1.short = false ∧ b.line.1.Checksummed ∧
      b.filter = .all) ∧
      (∃ found b', b.devices Driver.transport false true = (.complete found, b') ∧
        quiet ∈ found ∧ alarming ∈ found ∧ quiet.setBit 63 true ∉ found) ∧
      ∃ found b', b.devices Driver.transport true true = (.complete found, b') ∧
        quiet ∉ found ∧ alarming ∈ found := by
  intro quiet alarming b
  have checksummed : b.line.1.Checksummed := by
    rw [Network.Checksummed]
    decide +kernel
  have unshorted : b.line.1.short = false := by decide +kernel
  obtain ⟨⟨all, b', he, hall⟩, alarms, b'', he', halarms⟩ :=
    b.checks_agree true rfl unshorted checksummed rfl
  refine ⟨⟨rfl, unshorted, checksummed, rfl⟩, ⟨all, b', he, ?_, ?_, fun h => ?_⟩, alarms, b'', he',
    fun h => ?_, ?_⟩
  · exact (hall b (.inl rfl) quiet).mp (by decide +kernel)
  · exact (hall b (.inl rfl) alarming).mp (by decide +kernel)
  · exact absurd ((hall b (.inl rfl) _).mpr h) (by decide +kernel)
  · exact absurd ((halarms b (.inl rfl) quiet).mpr h) (by decide +kernel)
  · exact (halarms b (.inl rfl) alarming).mp (by decide +kernel)

end Bus

end BusMaster
