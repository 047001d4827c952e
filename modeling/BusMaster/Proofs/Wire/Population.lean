import BusMaster.Adapter.Bus
import BusMaster.Proofs.Wire.Buffer
import BusMaster.Proofs.Wire.Descent

/-!
# Who takes part in a search

* `Network.TakesPart`: the devices that a search addresses;
* `Network.takingPart`: those that answer it, which is none of them if the
  search starts with a reset and the wire is shorted;
* `Network.takesPart_populated`: the devices attached to a new wire, in whatever
  order and how often;
* `Driver.Undisturbed`: all that a search pass can change is the traffic and
  the driver's phase;
* `Driver.perform_search`: a pass of a driver with a port selected.
-/

namespace BusMaster

namespace Network

/-- The device is on the wire, and in alarm if only those are searched. -/
def TakesPart (net : Network) (alarmOnly : Bool) (a : Address) : Prop :=
  ∃ d ∈ net.devices, d.address = a ∧ (alarmOnly = true → d.alarming = true)

theorem mem_participants {net : Network} {alarmOnly : Bool} {a : Address} :
    a ∈ net.participants (.ofAlarmOnly alarmOnly) ↔ net.TakesPart alarmOnly a := by
  simp only [participants, List.mem_map, List.mem_filter, TakesPart]
  constructor
  · rintro ⟨d, ⟨hd, hc⟩, rfl⟩
    refine ⟨d, hd, rfl, fun h => ?_⟩
    subst h
    simpa [SearchCommand.ofAlarmOnly] using hc
  · rintro ⟨d, hd, rfl, h⟩
    refine ⟨d, ⟨hd, ?_⟩, rfl⟩
    cases alarmOnly
    · rfl
    · simp [h rfl]

theorem isAttached_iff {net : Network} {a : Address} :
    net.isAttached a = true ↔ net.TakesPart false a := by
  simp [isAttached, addresses, TakesPart]

theorem length_participants_le (net : Network) (command : SearchCommand) :
    (net.participants command).length ≤ net.devices.length := by
  rw [participants, List.length_map]
  exact List.length_filter_le _ _

/-- The devices that answer a search. -/
def takingPart (net : Network) (alarmOnly skipReset : Bool) : List Address :=
  if net.short && !skipReset then [] else net.participants (.ofAlarmOnly alarmOnly)

theorem takingPart_of_not_short {net : Network} (h : net.short = false)
    (alarmOnly skipReset : Bool) :
    net.takingPart alarmOnly skipReset = net.participants (.ofAlarmOnly alarmOnly) := by
  rw [takingPart, h, Bool.false_and, if_neg (by decide)]

/-- An unshorted wire shows presence if any device is there. -/
theorem isPresent_resetResult (net : Network) :
    net.resetResult.isPresent = (!net.short && !net.devices.isEmpty) := by
  rw [resetResult]
  cases net.short <;> cases net.devices.isEmpty <;> cases net.devices.any (·.alarming) <;> rfl

/-- The reset before a pass only matters on a shorted wire: without presence
there is no device that could take part. -/
theorem takingPart_eq (net : Network) (alarmOnly skipReset : Bool) :
    (if skipReset || net.resetResult.isPresent then net.participants (.ofAlarmOnly alarmOnly)
      else []) = net.takingPart alarmOnly skipReset := by
  rw [isPresent_resetResult, takingPart]
  cases skipReset <;> cases net.short
  · cases h : net.devices with
    | nil => simp [participants, h]
    | cons d devices => simp
  · simp
  · simp
  · simp

/-! ## Devices attached one after the other -/

section Attaching

variable {net : Network} {x a : Address} {alarming alarmOnly : Bool}

/-- Saying anew whether a device is in alarm. -/
theorem takesPart_modify :
    (net.modify x ({ · with alarming })).TakesPart alarmOnly a ↔
      if a = x then net.isAttached x = true ∧ (alarmOnly = true → alarming = true)
      else net.TakesPart alarmOnly a := by
  have hdevice : ∀ d : WireDevice, (if d.address = x then { d with alarming } else d) =
      { d with alarming := if d.address = x then alarming else d.alarming } := fun d => by
    split <;> rfl
  simp only [TakesPart, modify, List.mem_map, exists_exists_and_eq_and, isAttached_iff, hdevice]
  split
  · rename_i heq
    subst heq
    constructor
    · rintro ⟨d, hd, rfl, hal⟩
      rw [if_pos rfl] at hal
      exact ⟨⟨d, hd, rfl, nofun⟩, hal⟩
    · rintro ⟨⟨d, hd, rfl, -⟩, hal⟩
      exact ⟨d, hd, rfl, by rwa [if_pos rfl]⟩
  · rename_i hne
    constructor
    · rintro ⟨d, hd, rfl, hal⟩
      rw [if_neg hne] at hal
      exact ⟨d, hd, rfl, hal⟩
    · rintro ⟨d, hd, rfl, hal⟩
      exact ⟨d, hd, rfl, by rwa [if_neg hne]⟩

/-- Attaching a device that is there already only says anew whether it is in
alarm. -/
theorem takesPart_attach :
    (net.attach x alarming).TakesPart alarmOnly a ↔
      if a = x then alarmOnly = true → alarming = true else net.TakesPart alarmOnly a := by
  rw [attach]
  cases hx : net.isAttached x with
  | true => simp [takesPart_modify, hx]
  | false =>
    have hnew : ∀ d ∈ net.devices, d.address ≠ x := by simpa [isAttached, addresses] using hx
    simp only [TakesPart, List.mem_append, List.mem_singleton, or_and_right, exists_or,
      exists_eq_left, Bool.false_eq_true, if_false]
    split
    · rename_i heq
      subst heq
      constructor
      · rintro (⟨d, hd, ha, -⟩ | ⟨-, hal⟩)
        · exact absurd ha (hnew d hd)
        · exact hal
      · exact fun hal => .inr ⟨rfl, hal⟩
    · rename_i hne
      exact or_iff_left fun h => hne h.1.symm

/-- Of several devices attached in the same way, their order and their
repetitions make no difference. -/
theorem takesPart_foldl_attach (xs : List Address) (net : Network) :
    (xs.foldl (·.attach · alarming) net).TakesPart alarmOnly a ↔
      if a ∈ xs then alarmOnly = true → alarming = true else net.TakesPart alarmOnly a := by
  induction xs generalizing net with
  | nil => simp
  | cons x xs ih =>
    rw [List.foldl_cons, ih]
    by_cases hin : a ∈ xs
    · simp [hin]
    · rw [if_neg hin, takesPart_attach]
      by_cases hax : a = x
      · simp [hax]
      · simp [hax, hin]

/-- A device that is listed as quiet and as in alarm is in alarm. -/
theorem takesPart_populated {quiet alarming : List Address} :
    (populated quiet alarming).TakesPart alarmOnly a ↔
      a ∈ alarming ∨ alarmOnly = false ∧ a ∈ quiet := by
  have hnone : ¬ TakesPart {} alarmOnly a := fun ⟨_, hd, _⟩ => absurd hd List.not_mem_nil
  rw [populated, takesPart_foldl_attach, takesPart_foldl_attach]
  by_cases hal : a ∈ alarming
  · simp [hal]
  · by_cases hq : a ∈ quiet
    · simp [hal, hq]
    · simp [hal, hq, hnone]

/-- All else on the wire is new. -/
theorem populated_eq (quiet alarming : List Address) :
    populated quiet alarming = { devices := (populated quiet alarming).devices } := by
  have hattach : ∀ (alarming : Bool) (xs : List Address) (devices : List WireDevice),
      ∃ devices' : List WireDevice,
        xs.foldl (·.attach · alarming) { devices } = ({ devices := devices' } : Network) := by
    intro alarming xs
    induction xs with
    | nil => exact fun devices => ⟨devices, rfl⟩
    | cons x xs ih =>
      intro devices
      rw [List.foldl_cons, attach]
      split <;> exact ih _
  obtain ⟨devices, hq⟩ := hattach false quiet []
  obtain ⟨devices', hal⟩ := hattach true alarming devices
  rw [populated, hq, hal]

end Attaching
end Network

namespace Driver

/-- All but the traffic and the driver's phase is the same. -/
def Undisturbed (s s' : Network × Driver) : Prop :=
  s' = ({ s.1 with traffic := s'.1.traffic }, { s.2 with phase := s'.2.phase })

namespace Undisturbed

variable {s s' s'' : Network × Driver}

theorem refl (s : Network × Driver) : Undisturbed s s := rfl

theorem trans (h : Undisturbed s s') (h' : Undisturbed s' s'') : Undisturbed s s'' := by
  unfold Undisturbed at h h' ⊢
  rw [h', h]

theorem devices (h : Undisturbed s s') : s'.1.devices = s.1.devices := by rw [h]

theorem short (h : Undisturbed s s') : s'.1.short = s.1.short := by rw [h]

theorem selected (h : Undisturbed s s') : s'.2.selected = s.2.selected := by rw [h]

theorem takingPart (h : Undisturbed s s') (alarmOnly skipReset : Bool) :
    s'.1.takingPart alarmOnly skipReset = s.1.takingPart alarmOnly skipReset := by
  rw [Network.takingPart, Network.takingPart, Network.participants, Network.participants,
    h.devices, h.short]

end Undisturbed

/-- A search pass of a driver with a port selected finds what takes part. -/
theorem perform_search {s : Network × Driver} (attached : s.2.selected.isSome = true)
    (pass : SearchPass) (alarmOnly : Bool) (hc : pass.command = .ofAlarmOnly alarmOnly) :
    Driver.transport.perform (.search pass) s =
      (.ok (pass.answer (s.1.takingPart alarmOnly pass.skipReset)),
        s.1.log (.search pass.command.opcode pass.lastDiscrepancy pass.skipReset),
        { s.2 with phase := .idle }) := by
  show Driver.perform (.search pass) s = _
  rw [perform_attached attached, performAttached_search attached, hc, Network.takingPart_eq]

/-- The bus of a session on a fresh driver of a wire, with a port selected. -/
def bus (net : Network) : Bus (Network × Driver) :=
  { line := (net, { selected := some "sim0" }), capabilities := ({} : Driver).capabilities,
    port := some "sim0" }

theorem undisturbed_search (s : Network × Driver) (event : BusEvent) (phase : Phase) :
    Undisturbed s (s.1.log event, { s.2 with phase }) := rfl

end Driver

end BusMaster
