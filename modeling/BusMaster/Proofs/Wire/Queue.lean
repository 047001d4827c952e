import BusMaster.Proofs.Wire.Buffer

/-!
# The bytes queued for a device

Each device on a wire answers from a queue of its own, and only a driver that has
it selected takes from that queue.

* `Network.queued`: the bytes with which a device will answer;
* `Network.queued_modify`: changing what one device answers is no matter of the
  others;
* `Driver.perform_queued`: a driver that addresses another device, or none, takes
  nothing.
-/

namespace BusMaster

namespace Network

/-- The bytes with which the device will answer; nothing if it is not on the
wire. -/
def queued (net : Network) (a : Address) : Option (List UInt8) :=
  (net.devices.find? (·.address = a)).map (·.responses)

variable {net : Network} {a b : Address}

theorem isSome_queued (net : Network) (a : Address) :
    (net.queued a).isSome = net.isAttached a := by
  rw [queued, Option.isSome_map, List.isSome_find?, isAttached, addresses,
    List.contains_eq_any_beq, List.any_map]
  congr 1
  funext d
  rw [Function.comp_apply, Bool.beq_comm]
  rfl

/-- Changing what one device answers is no matter of the others. -/
theorem queued_modify (net : Network) (a b : Address) (f : List UInt8 → List UInt8) :
    (net.modify a fun d => { d with responses := f d.responses }).queued b =
      if b = a then (net.queued b).map f else net.queued b := by
  have hsame : ∀ d : WireDevice,
      (if d.address = a then { d with responses := f d.responses } else d).address =
        d.address := by
    intro d
    split <;> rfl
  simp only [queued, modify, List.find?_map, Function.comp_def, hsame]
  cases hd : net.devices.find? (·.address = b) with
  | none => simp
  | some d =>
    have hb : d.address = b := by simpa using List.find?_some hd
    simp only [Option.map_some, hb]
    split <;> rfl

theorem queued_queueResponse (net : Network) (a b : Address) (bytes : List UInt8) :
    (net.queueResponse a bytes).2.queued b =
      if b = a then (net.queued b).map (· ++ bytes) else net.queued b :=
  net.queued_modify a b (· ++ bytes)

theorem takeResponse_of_ne (hb : b ≠ a) : (net.takeResponse a).2.queued b = net.queued b := by
  rw [takeResponse]
  split
  · rename_i rest _
    rw [net.queued_modify a b fun _ => rest, if_neg hb]
  · rfl

/-- The first of the bytes is the answer, and the others are left. -/
theorem takeResponse_of_queued {waiting : List UInt8} (h : net.queued a = some waiting) :
    (net.takeResponse a).1 = waiting.head? ∧
      (net.takeResponse a).2.queued a = some waiting.tail := by
  obtain ⟨d, hd, rfl⟩ := Option.map_eq_some_iff.mp h
  obtain ⟨address, alarming, _ | ⟨byte, rest⟩⟩ := d
  · rw [takeResponse, hd]
    exact ⟨rfl, h⟩
  · rw [takeResponse, hd]
    refine ⟨rfl, ?_⟩
    have hrest := net.queued_modify a a fun _ => rest
    rw [if_pos rfl, h] at hrest
    exact hrest

end Network

namespace Driver

variable {net : Network} {drv : Driver} {s s' : Network × Driver} {a b : Address}

/-! ## Who takes what is queued -/

/-- Once a device is selected, bytes do not change that. -/
theorem exchange_selected (byte : UInt8) (h : s.2.phase = .selected a) :
    (exchange byte s).2.2 = s.2 := by
  obtain ⟨net, drv⟩ := s
  simp only [exchange]
  rw [h]
  dsimp only
  split <;> rfl

theorem exchangeAll_selected (block : List UInt8) (h : s.2.phase = .selected a) :
    (exchangeAll block s).2.2 = s.2 := by
  induction block generalizing s with
  | nil => rfl
  | cons byte block ih =>
    have hs := exchange_selected byte h
    calc (exchangeAll block (exchange byte s).2).2.2
        = (exchange byte s).2.2 := ih (by rw [hs, h])
      _ = s.2 := hs

theorem exchange_queued (byte : UInt8) (h : s.2.phase ≠ .selected b) :
    (exchange byte s).2.1.queued b = s.1.queued b := by
  obtain ⟨net, drv⟩ := s
  rw [exchange]
  split
  · rfl
  · rfl
  · rfl
  · rename_i device hp
    split
    · refine Network.takeResponse_of_ne ?_
      rintro rfl
      exact h hp
    · rfl

/-- Bytes take nothing from a device that is not selected after the last of
them. -/
theorem exchangeAll_queued (block : List UInt8)
    (h : (exchangeAll block s).2.2.phase ≠ .selected b) :
    (exchangeAll block s).2.1.queued b = s.1.queued b := by
  induction block generalizing s with
  | nil => rfl
  | cons byte block ih =>
    have hs : s.2.phase ≠ .selected b := by
      intro hs
      rw [exchangeAll_selected (byte :: block) hs] at h
      exact h hs
    calc (exchangeAll block (exchange byte s).2).2.1.queued b
        = (exchange byte s).2.1.queued b := ih h
      _ = s.1.queued b := exchange_queued byte hs

@[simp] theorem fire_queued (unit : PowerCondition) (s : Network × Driver) (b : Address) :
    (fire unit s).1.queued b = s.1.queued b := by
  rw [fire]
  split <;> rfl

@[simp] theorem fire_phase (unit : PowerCondition) (s : Network × Driver) :
    (fire unit s).2.phase = s.2.phase := by
  rw [fire]
  split <;> rfl

theorem searchStep_queued (lastDiscrepancy : Nat) (command : SearchCommand) (skipReset : Bool)
    (buffer : Address) (s : Network × Driver) (b : Address) :
    (searchStep lastDiscrepancy command skipReset (buffer, s)).2.2.1.queued b = s.1.queued b := by
  obtain ⟨net, drv⟩ := s
  rw [searchStep]
  split <;> rfl

theorem transferBlock_queued (block : List UInt8) (s : Network × Driver)
    (after : (transferBlock (block, s)).2.2.2.phase ≠ .selected b) :
    (transferBlock (block, s)).2.2.1.queued b = s.1.queued b := by
  obtain ⟨net, drv⟩ := s
  revert after
  rw [transferBlock]
  split
  · exact fun _ => rfl
  · exact exchangeAll_queued block

/-- A driver that has a device selected neither before nor after a primitive takes
nothing from it. -/
theorem perform_queued (primitive : Primitive) (before : s.2.phase ≠ .selected b)
    (after : (perform primitive s).2.2.phase ≠ .selected b) :
    (perform primitive s).2.1.queued b = s.1.queued b := by
  obtain ⟨net, drv⟩ := s
  revert after
  rw [perform]
  split
  · exact fun _ => rfl
  cases primitive with
  | selectPort | detect =>
    intro _
    rw [performAttached]
    split
    · rfl
    · split <;> rfl
  | setSpeed | setPowerDuration | startPower | setPulseDuration | startPulse =>
    intro _
    rw [performAttached]
    split <;> rfl
  | freePort | reset | setPowerNormal => exact fun _ => rfl
  | search pass =>
    exact fun _ => searchStep_queued pass.lastDiscrepancy pass.command pass.skipReset pass.seed
      (net, drv) b
  | writeBit bit => exact fun _ => fire_queued .afterNextBit (net.log (.writeBit bit), drv) b
  | readBit => exact fun _ => fire_queued .afterNextBit (net.log (.readBit true), drv) b
  | writeByte byte =>
    intro _
    calc (fire .afterNextByte (exchange byte (net.log (.writeByte byte), drv)).2).1.queued b
        = (exchange byte (net.log (.writeByte byte), drv)).2.1.queued b := fire_queued ..
      _ = net.queued b := exchange_queued byte before
  | readByte =>
    intro _
    have hread : (exchange 0xFF (net, drv)).2.1.queued b = net.queued b :=
      exchange_queued 0xFF before
    rw [performAttached]
    generalize exchange 0xFF (net, drv) = r at hread
    obtain ⟨byte, net', drv'⟩ := r
    exact (fire_queued .afterNextByte (net'.log (.readByte byte), drv') b).trans hread
  | transfer block =>
    -- Only here can the driver come to select a device on the way.
    exact transferBlock_queued block (net, drv)

end Driver

end BusMaster
