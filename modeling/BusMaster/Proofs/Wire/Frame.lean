import BusMaster.Adapter.Bus
import BusMaster.Wire.Driver

/-!
# What a primitive leaves alone

A primitive of a driver adds to the traffic, moves the driver through the
sequence of commands, takes answers from devices and switches power. All else on
the wire stays, and only moving the port changes the port (`Driver.perform_frame`).

* `Network.population`: the devices without what they answer;
* `Driver.SameClaim`: who holds the wire has not changed, as only opening and
  closing it do;
* `Driver.Frame`: all that primitives leave alone.
-/

namespace BusMaster

namespace Network

/-- The devices on the wire and which of them are in alarm. -/
def population (net : Network) : List (Address × Bool) :=
  net.devices.map fun d => (d.address, d.alarming)

/-- Changing what a device answers changes nothing else on the wire. -/
theorem population_modify (net : Network) (a : Address) {change : WireDevice → WireDevice}
    (h : ∀ d, (change d).address = d.address ∧ (change d).alarming = d.alarming) :
    (net.modify a change).population = net.population := by
  rw [population, modify, List.map_map]
  refine List.map_congr_left fun d _ => ?_
  simp only [Function.comp_apply]
  split
  · rw [(h d).1, (h d).2]
  · rfl

theorem population_queueResponse (net : Network) (a : Address) (bytes : List UInt8) :
    (net.queueResponse a bytes).2.population = net.population :=
  net.population_modify a fun _ => ⟨rfl, rfl⟩

end Network

namespace Driver

/-- Neither the wire's claim nor what the driver knows of it changed. -/
structure SameClaim (s s' : Network × Driver) : Prop where
  claimed : s'.1.claimed = s.1.claimed
  holding : s'.2.holding = s.2.holding

/-- The claim, the devices and the line are as they were, and so is the port
unless it was moved. -/
structure Frame (moved : Bool) (s s' : Network × Driver) : Prop extends SameClaim s s' where
  short : s'.1.short = s.1.short
  population : s'.1.population = s.1.population
  selected : moved = false → s'.2.selected = s.2.selected

variable {moved : Bool} {s s' s'' : Network × Driver}

/-- A change of nothing that the frame names. -/
theorem Frame.refl (moved : Bool) (s : Network × Driver) : Frame moved s s :=
  ⟨⟨rfl, rfl⟩, rfl, rfl, fun _ => rfl⟩

theorem Frame.trans (h : Frame moved s s') (h' : Frame moved s' s'') : Frame moved s s'' where
  claimed := h'.claimed.trans h.claimed
  holding := h'.holding.trans h.holding
  short := h'.short.trans h.short
  population := h'.population.trans h.population
  selected hm := (h'.selected hm).trans (h.selected hm)

end Driver

end BusMaster
