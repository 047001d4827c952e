import BusMaster.Proofs.Monitor.Scan

/-!
# The families that a scan reports

A scan is given the families to report and the families to leave out. It looks
at the second list only if the first is empty, so it reports a family that is in
both.

* `ScanOptions.Asks`: the addresses that both lists together ask for;
* `ScanOptions.accepts_filter`: those that the filter of the scan lets through;
* `Adapter.scan_finds`: what a scan of a free bus finds;
* `Adapter.scan_honours_both_iff`: it is what was asked for, unless the family
  of some device that takes part is in both lists.
-/

namespace BusMaster

/-- The address is of a family to report, which is any if none is named, and not
of one to leave out. -/
def ScanOptions.Asks (options : ScanOptions) (x : Address) : Prop :=
  (options.families = [] ∨ x.family ∈ options.families) ∧ x.family ∉ options.excluded

/-- The filter leaves families out only if none is named to be reported. -/
theorem ScanOptions.accepts_filter (options : ScanOptions) (x : Address) :
    options.filter.accepts x = true ↔
      if options.families = [] then x.family ∉ options.excluded
      else x.family ∈ options.families := by
  rw [filter]
  cases hf : options.families with
  | nil =>
    cases hx : options.excluded with
    | nil => simp [FamilyFilter.accepts]
    | cons => simp [FamilyFilter.accepts]
  | cons => simp [FamilyFilter.accepts]

/-- The filter and the two lists are at odds over the families in both. -/
theorem ScanOptions.asks_iff {options : ScanOptions} {x : Address} :
    options.Asks x ↔ options.filter.accepts x = true ∧
      ¬ (x.family ∈ options.families ∧ x.family ∈ options.excluded) := by
  rw [accepts_filter, Asks]
  by_cases hf : options.families = []
  · simp [hf]
  · simp only [hf, if_false, false_or]
    exact and_congr_right fun hin => by simp [hin]

namespace Adapter

variable {a : Adapter (Network × Driver)}

/-- A scan of a free bus finds the devices that take part and that its filter lets
through. -/
theorem scan_finds (rounds : Nat) (options : ScanOptions) (free : a.isHeld = false)
    (unclaimed : a.line.1.claimed = false) (attached : a.line.2.selected.isSome = true)
    (unshorted : a.line.1.short = false) :
    ∃ found a', a.scan Driver.transport (rounds + 1) options false = (.found found, a') ∧
      found.Pairwise (·.searchKey < ·.searchKey) ∧
      ∀ x, x ∈ found ↔
        a.line.1.TakesPart options.alarmOnly x ∧ options.filter.accepts x = true := by
  let s : Network × Driver :=
    ({ a.line.1 with claimed := true }, { a.line.2 with holding := true })
  have hbegin : Driver.transport.beginExclusive a.line = (true, s) := by
    show Driver.beginExclusive a.line = _
    rw [Driver.beginExclusive, if_neg ((Bool.not_eq_true _).mpr unclaimed)]
  have hscan := scan_of_granted options (scanWait_of_granted free hbegin rounds)
  let b : Bus (Network × Driver) :=
    Bus.setFilter options.filter { a.arbiter.resource with line := s }
  have hp := populated_driver (s := s) attached options.alarmOnly options.skipReset
  have unshorted' : s.1.short = false := unshorted
  rw [Network.takingPart_of_not_short unshorted'] at hp
  obtain ⟨found, s', he, hf, -⟩ := b.walk_lists hp (.refl s)
  rw [scanSession, Bus.devices_eq_walk, he] at hscan
  refine ⟨found, _, hscan, hf.ascending, fun x => ?_⟩
  rw [hf.mem_iff, and_iff_left (Nat.zero_le _), List.mem_filter, Network.mem_participants]
  rfl

/-- A scan of a free bus finds, in the order of the search keys, the devices that
take part and are of a family named, or of none left out if no family is named.
It finds what both lists ask for exactly if no device that takes part is of a
family in both. -/
theorem scan_honours_both_iff (a : Adapter (Network × Driver)) (rounds : Nat)
    (options : ScanOptions) (free : a.isHeld = false) (unclaimed : a.line.1.claimed = false)
    (attached : a.line.2.selected.isSome = true) (unshorted : a.line.1.short = false) :
    ∃ found a', a.scan Driver.transport (rounds + 1) options false = (.found found, a') ∧
      found.Pairwise (·.searchKey < ·.searchKey) ∧
      (∀ x, x ∈ found ↔ a.line.1.TakesPart options.alarmOnly x ∧
        if options.families = [] then x.family ∉ options.excluded
        else x.family ∈ options.families) ∧
      ((∀ x, x ∈ found ↔ a.line.1.TakesPart options.alarmOnly x ∧ options.Asks x) ↔
        ¬ ∃ x, a.line.1.TakesPart options.alarmOnly x ∧ x.family ∈ options.families ∧
          x.family ∈ options.excluded) := by
  obtain ⟨found, a', he, hasc, hm⟩ := scan_finds rounds options free unclaimed attached unshorted
  refine ⟨found, a', he, hasc, fun x => ?_, ?_, ?_⟩
  · rw [hm, options.accepts_filter]
  · rintro hboth ⟨x, htakes, hin, hex⟩
    have haccepts : options.filter.accepts x = true := by
      rw [options.accepts_filter, if_neg (List.ne_nil_of_mem hin)]
      exact hin
    exact ((hboth x).mp ((hm x).mpr ⟨htakes, haccepts⟩)).2.2 hex
  · intro hno x
    rw [hm, ScanOptions.asks_iff]
    exact and_congr_right fun htakes =>
      ⟨fun haccepts => ⟨haccepts, fun hin => hno ⟨x, htakes, hin⟩⟩, fun hasks => hasks.1⟩

/-- Two lists without a family in common: the scan finds what both ask for. -/
theorem scan_honours_both_of_disjoint :
    let a := create Driver.transport "sim" "wire" (Driver.bus (.populated
      [.ofBytes [0x28, 1, 0, 0, 0, 0, 0, 0], .ofBytes [0x10, 1, 0, 0, 0, 0, 0, 0]]
      [.ofBytes [0x22, 1, 0, 0, 0, 0, 0, 0]])).line
    let options : ScanOptions := { families := [0x22, 0x28], excluded := [0x10] }
    (a.isHeld = false ∧ a.line.1.claimed = false ∧ a.line.2.selected.isSome = true ∧
      a.line.1.short = false) ∧
      ∃ found a', a.scan Driver.transport 1 options false = (.found found, a') ∧
        ∀ x, x ∈ found ↔ a.line.1.TakesPart false x ∧ options.Asks x := by
  intro a options
  obtain ⟨found, a', he, -, -, hboth⟩ := a.scan_honours_both_iff 0 options rfl rfl rfl rfl
  refine ⟨⟨rfl, rfl, rfl, rfl⟩, found, a', he, hboth.mpr ?_⟩
  rintro ⟨x, -, hin, hex⟩
  have hex : x.family = 0x10 := List.mem_singleton.mp hex
  rw [hex] at hin
  exact absurd hin (by decide)

/-- A device of a family in both lists is reported. -/
theorem scan_reports_excluded :
    let kept := Address.ofBytes [0x28, 1, 0, 0, 0, 0, 0, 0]
    let excluded := Address.ofBytes [0x10, 1, 0, 0, 0, 0, 0, 0]
    let a := create Driver.transport "sim" "wire" (Driver.bus (.populated [kept, excluded] [])).line
    let options : ScanOptions := { families := [0x28, 0x10], excluded := [0x10] }
    (a.isHeld = false ∧ a.line.1.claimed = false ∧ a.line.2.selected.isSome = true ∧
      a.line.1.short = false) ∧
      excluded.family ∈ options.excluded ∧
      (a.scan Driver.transport 1 options false).1 = .found [excluded, kept] := by
  decide +kernel

end Adapter

end BusMaster
