import BusMaster.Adapter.Workbench
import BusMaster.Proofs.Adapter.Session
import BusMaster.Proofs.Search.Enumeration

/-!
# A driver among all wires

An adapter's hardware is given all wires there are, and a driver uses the one of
its number. What is known of a driver on its own wire holds of it there.

* `Hardware.On number I`: the hardware is a driver of that wire, and the two are in
  one of the states `I`;
* `Hardware.On.run`: a step of the hardware is one of the driver on its wire;
* `Search.Populated.onHardware`: so is an enumeration;
* `Adapter.selectPort_onHardware`, `Adapter.tryAcquire_onHardware`: selecting a port
  and beginning a session.
-/

namespace BusMaster

theorem Wires.wire_set {wires : Wires} {number : Nat} (h : number < wires.length) (net : Network) :
    Wires.wire (wires.set number net) number = net := by
  simp [wire, h]

theorem Wires.wire_mem {wires : Wires} {number : Nat} (h : number < wires.length) :
    wires.wire number ∈ wires := by
  rw [wire, List.getD_eq_getElem _ _ h]
  exact List.getElem_mem h

theorem Wires.set_wire {wires : Wires} {number : Nat} (h : number < wires.length) :
    wires.set number (wires.wire number) = wires := by
  rw [wire, List.getD_eq_getElem _ _ h, List.set_getElem_self]

namespace Hardware

/-- The hardware is a driver of wire `number`, and the two are in one of the states
`I`. -/
def On (number : Nat) (I : Network × Driver → Prop) (s : Wires × Hardware) : Prop :=
  ∃ drv, s.2 = .simulated number drv ∧ number < s.1.length ∧ I (s.1.wire number, drv)

variable {number : Nat} {I J : Network × Driver → Prop} {s : Wires × Hardware}
  {s₀ : Network × Driver}

theorem On.mono (h : On number I s) (hIJ : ∀ s₀, I s₀ → J s₀) : On number J s := by
  obtain ⟨drv, hs, hn, hI⟩ := h
  exact ⟨drv, hs, hn, hIJ _ hI⟩

/-- A step of the hardware, from the driver's step on its wire. -/
theorem On.run {α : Type} (h : On number I s)
    (onWire : Network × Driver → α × Network × Driver)
    (onScript : Script × List Call → α × Script × List Call) :
    ∃ s₀, I s₀ ∧ (Hardware.run onWire onScript s).1 = (onWire s₀).1 ∧
      On number (· = (onWire s₀).2) (Hardware.run onWire onScript s).2 := by
  obtain ⟨wires, hardware⟩ := s
  obtain ⟨drv, rfl, hn, hI⟩ := h
  have hlength : number < (wires.set number (onWire (wires.wire number, drv)).2.1).length := by
    rw [List.length_set]
    exact hn
  exact ⟨(wires.wire number, drv), hI, rfl, _, rfl, hlength, Prod.ext (Wires.wire_set hn _) rfl⟩

theorem On.perform (h : On number (· = s₀) s) (primitive : Primitive) :
    (transport.perform primitive s).1 = (Driver.perform primitive s₀).1 ∧
      On number (· = (Driver.perform primitive s₀).2) (transport.perform primitive s).2 := by
  obtain ⟨_, rfl, he, hon⟩ := h.run (Driver.transport.perform primitive)
    (Script.transport.recorded.perform primitive)
  exact ⟨he, hon⟩

theorem On.ask (h : On number (· = s₀) s) (query : Query) :
    (transport.ask query s).1 = s₀.2.ask query ∧
      On number (· = s₀) (transport.ask query s).2 := by
  obtain ⟨_, rfl, he, hon⟩ := h.run (Driver.transport.ask query)
    (Script.transport.recorded.ask query)
  exact ⟨he, hon⟩

theorem On.beginExclusive (h : On number (· = s₀) s) :
    (transport.beginExclusive s).1 = (Driver.beginExclusive s₀).1 ∧
      On number (· = (Driver.beginExclusive s₀).2) (transport.beginExclusive s).2 := by
  obtain ⟨_, rfl, he, hon⟩ := h.run Driver.transport.beginExclusive
    Script.transport.recorded.beginExclusive
  exact ⟨he, hon⟩

end Hardware

open Hardware (On)

theorem Driver.perform_selectPort {net : Network} {drv : Driver} {port : String}
    (known : port ∈ drv.ports) (opens : net.portError = false) :
    perform (.selectPort port) (net, drv) = (.ok true, attachTo (some port) (net, drv)) := by
  rw [perform, needsPort, Bool.false_and, if_neg (by decide), performAttached, opens,
    if_neg (by decide), if_pos known]

/-- What takes part in the searches of a driver takes part in those of the
hardware. -/
theorem Search.Populated.onHardware {I : Network × Driver → Prop} {alarmOnly skipReset : Bool}
    {S : List Address} (h : Populated Driver.transport I alarmOnly skipReset S) (number : Nat) :
    Populated Hardware.transport (On number I) alarmOnly skipReset S where
  answers s pass hs hc hr := by
    obtain ⟨s₀, hI, he, hon⟩ := hs.run (Driver.transport.perform (.search pass))
      (Script.transport.recorded.perform (.search pass))
    obtain ⟨s₁, he₁, hI₁⟩ := h.answers s₀ pass hI hc hr
    rw [he₁] at he hon
    exact ⟨_, Prod.ext he rfl, hon.mono fun _ heq => heq ▸ hI₁⟩
  limit s hs := by
    obtain ⟨wires, hardware⟩ := s
    obtain ⟨drv, rfl, -, hI⟩ := hs
    exact h.limit _ hI

namespace Adapter

variable {number : Nat} {net : Network} {drv : Driver} {a : Adapter (Wires × Hardware)}

/-- One of the driver's ports can be selected. -/
theorem selectPort_onHardware (free : a.isHeld = false) (h : On number (· = (net, drv)) a.line)
    {port : String} (known : port ∈ drv.ports) (opens : net.portError = false) :
    ∃ ready, a.selectPort Hardware.transport port = some (.ok true, ready) ∧
      ready.isHeld = false ∧ ready.arbiter.resource.filter = a.arbiter.resource.filter ∧
      On number (· = Driver.attachTo (some port) (net, drv)) ready.line := by
  obtain ⟨he, hon⟩ := h.perform (.selectPort port)
  rw [Driver.perform_selectPort known opens] at he hon
  have hfree : a.arbiter.isHeld = false := free
  rw [selectPort, withResource, Arbiter.withResource, hfree, if_neg (by decide)]
  exact ⟨_, congrArg some (Prod.ext he rfl), free, rfl, (hon.ask .portName).2⟩

/-- A session on a wire that no driver holds begins at once, and leaves the devices
and the port as they were. -/
theorem tryAcquire_onHardware (free : a.isHeld = false) (h : On number (· = (net, drv)) a.line)
    (unclaimed : net.claimed = false) :
    ∃ s s₁, a.tryAcquire Hardware.transport = (true, a.granted s) ∧ On number (· = s₁) s ∧
      s₁.1.devices = net.devices ∧ s₁.1.short = net.short ∧ s₁.2.selected = drv.selected := by
  obtain ⟨he, hon⟩ := h.beginExclusive
  rw [Driver.beginExclusive, if_neg ((Bool.not_eq_true _).mpr unclaimed)] at he hon
  exact ⟨_, _, tryAcquire_of_granted free (Prod.ext he rfl), hon, rfl, rfl, rfl⟩

end Adapter

end BusMaster
