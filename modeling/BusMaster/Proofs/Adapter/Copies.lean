import BusMaster.Proofs.Adapter.Interleaving
import BusMaster.Proofs.Wire.Effect

/-!
# What an adapter copies from its driver

An adapter keeps two copies of what its driver knows: the port, which can be read while
a session is held, and the capabilities, which decide what reaches the driver at all.
No work of the adapter lets either fall behind.

* `Bus.InStep`: both copies are true;
* `Adapter.inStep_create`: they are when the adapter is made;
* `Adapter.Action.run_inStep`: they stay so.
-/

namespace BusMaster

open Driver (recorded)

/-- What the bus has copied is what the driver itself would answer. -/
structure Bus.InStep (b : Bus ((Network × Driver) × List Call)) : Prop where
  port : b.port = b.line.1.2.selected
  capabilities : b.capabilities = b.line.1.2.capabilities

/-- Only work that moves the port can make the copies fall behind. -/
theorem Driver.recorded_keepsUnmoved (selected : Option String) (capabilities : Capabilities) :
    recorded.KeepsUnmoved fun s =>
      s.1.2.selected = selected ∧ s.1.2.capabilities = capabilities where
  ask _ _ h := h
  perform primitive hmoves s h := by
    have hframe := perform_frame primitive s.1
    rw [hmoves] at hframe
    exact ⟨(hframe.selected rfl).trans h.1, (perform_effect primitive s.1).capabilities.trans h.2⟩

namespace Bus.InStep

variable {b b' : Bus ((Network × Driver) × List Call)}

/-- Work that touches no copy and moves no port. -/
theorem unmoved (h : b.InStep) (port : b'.port = b.port)
    (capabilities : b'.capabilities = b.capabilities)
    (hline : ∀ {I : (Network × Driver) × List Call → Prop}, recorded.KeepsUnmoved I → I b.line →
      I b'.line) : b'.InStep := by
  obtain ⟨hport, hcapabilities⟩ := hline
    (Driver.recorded_keepsUnmoved b.line.1.2.selected b.line.1.2.capabilities) ⟨rfl, rfl⟩
  exact ⟨(port.trans h.port).trans hport.symm,
    (capabilities.trans h.capabilities).trans hcapabilities.symm⟩

/-- The port is recorded afresh whenever a primitive may have moved it. -/
theorem perform (h : b.InStep) (primitive : Primitive) :
    (b.perform recorded primitive).2.InStep := by
  rw [Bus.perform]
  split
  · exact h
  cases hmoves : primitive.movesPort with
  | true =>
    refine ⟨rfl, ?_⟩
    exact h.capabilities.trans (Driver.perform_effect primitive b.line.1).capabilities.symm
  | false => exact h.unmoved rfl rfl fun hk hI => hk.perform primitive hmoves b.line hI

theorem request (h : b.InStep) (request : Request) : (request.run recorded b).InStep := by
  cases request with
  | ask query => exact ⟨h.port, h.capabilities⟩
  | perform primitive => exact h.perform primitive
  | findFirst alarmOnly skipReset =>
    exact h.unmoved rfl rfl fun hk hI => Search.findNext_keeps hk b.filter
      (recorded.passLimit b.line) { b.cursor.restart with alarmOnly, skipReset } b.line hI
  | findNext =>
    exact h.unmoved rfl rfl fun hk hI =>
      Search.findNext_keeps hk b.filter (recorded.passLimit b.line) b.cursor b.line hI
  | isPresent a => exact h.unmoved rfl rfl fun hk hI => Search.verify_keeps hk _ _ _ hI
  | isAlarming a => exact h.unmoved rfl rfl fun hk hI => Search.verify_keeps hk _ _ _ hI
  | select a => exact h.unmoved rfl rfl fun hk hI => Search.select_keeps hk a hI
  | setFilter filter => exact ⟨h.port, h.capabilities⟩

theorem work (h : b.InStep) (action : Adapter.Action) : (action.work recorded b).InStep := by
  cases action with
  | use request => exact h.request request
  | portNames | transportVersion => exact ⟨h.port, h.capabilities⟩
  | selectPort port => exact h.perform (.selectPort port)
  | freePort => exact h.perform .freePort
  | attempt | close | drop | release | abandon => exact h

theorem tryBegin (h : b.InStep) : ((Bus.access recorded).tryBegin b).2.InStep := by
  have hframe : (Driver.beginExclusive b.line.1).2.2.selected = b.line.1.2.selected :=
    congrArg Driver.View.selected (Driver.view_beginExclusive b.line.1)
  exact ⟨h.port.trans hframe.symm,
    h.capabilities.trans (Driver.beginExclusive_effect b.line.1).capabilities.symm⟩

theorem finish (h : b.InStep) : ((Bus.access recorded).finish b).InStep := by
  have hframe : (Driver.endExclusive b.line.1).2.selected = b.line.1.2.selected :=
    congrArg Driver.View.selected (Driver.view_endExclusive b.line.1)
  exact ⟨h.port.trans hframe.symm,
    h.capabilities.trans (Driver.endExclusive_effect b.line.1).capabilities.symm⟩

end Bus.InStep

namespace Adapter

theorem inStep_create (name portType : String) (line : (Network × Driver) × List Call) :
    (create recorded name portType line).arbiter.resource.InStep :=
  ⟨rfl, rfl⟩

theorem Action.run_inStep {a : Adapter ((Network × Driver) × List Call)}
    (h : a.arbiter.resource.InStep) (action : Action) :
    (action.run recorded a).2.arbiter.resource.InStep :=
  action.run_resource a (fun _ hb => hb.tryBegin) (fun _ hb => hb.finish)
    (fun _ hb => hb.work action) h

end Adapter

end BusMaster
