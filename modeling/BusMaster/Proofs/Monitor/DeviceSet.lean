import BusMaster.Monitor.DeviceSet
import BusMaster.Proofs.Address.Bytes
import Mathlib.Data.Finset.Basic

/-!
# What changed between two scans

A device set keeps the addresses of a scan in the order of their bytes, and an
update says which of them left and which are new.

* `DeviceSet.Holds`: a device set against the addresses that it stands for;
* `DeviceSet.Difference`: what left and what is new, in order;
* `Holds.update`: an update tells just that;
* `replay`, `changesOf`: events seen as the devices left after them, and as the
  comings and goings of one device.
-/

namespace BusMaster

namespace DeviceSet

variable {a b : Address} {known : List Address} {devices : DeviceSet}

/-! ## Sets in order -/

theorem mem_insert : b ∈ insert a known ↔ b = a ∨ b ∈ known := by
  induction known with
  | nil => simp [insert]
  | cons c known ih =>
    rw [insert]
    split
    · exact List.mem_cons
    · split
      · rename_i heq
        subst heq
        simp
      · rw [List.mem_cons, ih, List.mem_cons]
        exact or_left_comm

theorem sorted_insert (h : known.Pairwise (· < ·)) : (insert a known).Pairwise (· < ·) := by
  induction known with
  | nil => exact List.pairwise_singleton _ a
  | cons c known ih =>
    obtain ⟨hc, hknown⟩ := List.pairwise_cons.mp h
    rw [insert]
    split
    · rename_i hac
      refine List.pairwise_cons.mpr ⟨?_, h⟩
      rintro b (_ | ⟨_, hb⟩)
      · exact hac
      · exact Address.lt_trans hac (hc b hb)
    · split
      · exact h
      · rename_i hac hne
        refine List.pairwise_cons.mpr ⟨fun b hb => ?_, ih hknown⟩
        rcases mem_insert.mp hb with rfl | hb
        · exact Address.lt_of_not_lt hac hne
        · exact hc b hb

/-- The set holds these addresses, in the order of their bytes. -/
structure Holds (devices : DeviceSet) (present : Finset Address) : Prop where
  sorted : devices.known.Pairwise (· < ·)
  mem_iff : ∀ a, a ∈ devices.known ↔ a ∈ present

theorem holds_nothing : Holds {} ∅ :=
  ⟨.nil, fun _ => by simp⟩

/-- By induction on what is left of the scan. -/
theorem holds_ofScan (scan : List Address) : (ofScan scan).Holds scan.toFinset := by
  suffices h : ∀ (rest known : List Address), known.Pairwise (· < ·) →
      (rest.foldl (fun known a => insert a known) known).Pairwise (· < ·) ∧
        ∀ a, a ∈ rest.foldl (fun known a => insert a known) known ↔ a ∈ known ∨ a ∈ rest by
    obtain ⟨hsorted, hmem⟩ := h scan [] .nil
    exact ⟨hsorted, fun a => by rw [ofScan, hmem]; simp⟩
  intro rest
  induction rest with
  | nil => exact fun known h => ⟨h, fun a => by simp⟩
  | cons b rest ih =>
    intro known h
    obtain ⟨hsorted, hmem⟩ := ih (insert b known) (sorted_insert h)
    refine ⟨hsorted, fun a => ?_⟩
    rw [List.foldl_cons, hmem, mem_insert, List.mem_cons]
    tauto

/-! ## Updates -/

/-- What left between two scans and what is new, each in the order of the bytes. -/
structure Difference (before after : Finset Address) (departures arrivals : List Address) :
    Prop where
  departures_sorted : departures.Pairwise (· < ·)
  arrivals_sorted : arrivals.Pairwise (· < ·)
  mem_departures : ∀ a, a ∈ departures ↔ a ∈ before ∧ a ∉ after
  mem_arrivals : ∀ a, a ∈ arrivals ↔ a ∈ after ∧ a ∉ before

theorem Holds.update {before : Finset Address} (h : devices.Holds before) (scan : List Address) :
    ∃ departures arrivals, Difference before scan.toFinset departures arrivals ∧
      devices.update scan =
        (departures.map .departed ++ arrivals.map .arrived, ofScan scan) := by
  have hscan := holds_ofScan scan
  refine ⟨_, _, ⟨h.sorted.filter (!(ofScan scan).known.contains ·),
    hscan.sorted.filter (!devices.known.contains ·), fun a => ?_, fun a => ?_⟩, rfl⟩
  · simp [h.mem_iff, hscan.mem_iff]
  · simp [h.mem_iff, hscan.mem_iff]

end DeviceSet

/-! ## Events -/

namespace WatchEvent

/-- The devices that are there after the event. -/
def apply (present : Finset Address) : WatchEvent → Finset Address
  | arrived a => insert a present
  | departed a => present.erase a

/-- Whether the device came, `true`, or went; nothing if the event is about another
one. -/
def change? (a : Address) : WatchEvent → Option Bool
  | arrived b => if b = a then some true else none
  | departed b => if b = a then some false else none

end WatchEvent

/-- The devices that are there after the events, if none was before. -/
def replay (events : List WatchEvent) : Finset Address :=
  events.foldl WatchEvent.apply ∅

/-- The comings, `true`, and goings, `false`, of one device. -/
def changesOf (a : Address) (events : List WatchEvent) : List Bool :=
  events.filterMap (·.change? a)

theorem changesOf_append (a : Address) (events more : List WatchEvent) :
    changesOf a (events ++ more) = changesOf a events ++ changesOf a more :=
  List.filterMap_append

theorem foldl_departed (departures : List Address) (present : Finset Address) :
    (departures.map WatchEvent.departed).foldl WatchEvent.apply present =
      present \ departures.toFinset := by
  induction departures generalizing present with
  | nil => simp
  | cons a departures ih =>
    rw [List.map_cons, List.foldl_cons, ih, WatchEvent.apply]
    ext b
    simp only [Finset.mem_sdiff, Finset.mem_erase, List.mem_toFinset, List.mem_cons]
    tauto

theorem foldl_arrived (arrivals : List Address) (present : Finset Address) :
    (arrivals.map WatchEvent.arrived).foldl WatchEvent.apply present =
      present ∪ arrivals.toFinset := by
  induction arrivals generalizing present with
  | nil => simp
  | cons a arrivals ih =>
    rw [List.map_cons, List.foldl_cons, ih, WatchEvent.apply]
    ext b
    simp only [Finset.mem_union, Finset.mem_insert, List.mem_toFinset, List.mem_cons]
    tauto

/-- Events of one kind about different devices tell of one of them once. -/
theorem changesOf_map {make : Address → WatchEvent} {came : Bool} (a : Address)
    (hmake : ∀ b, (make b).change? a = if b = a then some came else none)
    {addresses : List Address} (h : addresses.Nodup) :
    changesOf a (addresses.map make) = if a ∈ addresses then [came] else [] := by
  induction addresses with
  | nil => rfl
  | cons b addresses ih =>
    obtain ⟨hb, hrest⟩ := List.nodup_cons.mp h
    have ih := ih hrest
    rw [changesOf] at ih ⊢
    rw [List.map_cons, List.filterMap_cons, hmake, ih]
    by_cases hba : b = a
    · subst hba
      simp [hb]
    · simp [hba, Ne.symm hba]

namespace DeviceSet.Difference

variable {before after : Finset Address} {departures arrivals : List Address}

/-- No device both leaves and is new. -/
theorem nodup (h : Difference before after departures arrivals) :
    (departures ++ arrivals).Nodup := by
  refine List.nodup_append.mpr ⟨Address.nodup_of_sorted h.departures_sorted,
    Address.nodup_of_sorted h.arrivals_sorted, fun a ha b hb heq => ?_⟩
  subst heq
  exact ((h.mem_departures a).mp ha).2 ((h.mem_arrivals a).mp hb).1

/-- The events lead from one scan to the other. -/
theorem foldl_apply (h : Difference before after departures arrivals) :
    (departures.map WatchEvent.departed ++ arrivals.map WatchEvent.arrived).foldl
      WatchEvent.apply before = after := by
  rw [List.foldl_append, foldl_departed, foldl_arrived]
  ext a
  simp only [Finset.mem_union, Finset.mem_sdiff, List.mem_toFinset, h.mem_departures,
    h.mem_arrivals]
  tauto

/-- What the events tell of one device: nothing if it stayed there or away. -/
theorem changesOf_eq (h : Difference before after departures arrivals) (a : Address) :
    changesOf a (departures.map .departed ++ arrivals.map .arrived) =
      if a ∈ before then if a ∈ after then [] else [false]
      else if a ∈ after then [true] else [] := by
  rw [changesOf_append,
    changesOf_map a (fun _ => rfl) (Address.nodup_of_sorted h.departures_sorted),
    changesOf_map a (fun _ => rfl) (Address.nodup_of_sorted h.arrivals_sorted)]
  by_cases hb : a ∈ before <;> by_cases ha : a ∈ after <;>
    simp [h.mem_departures, h.mem_arrivals, ha, hb]

end DeviceSet.Difference

end BusMaster
