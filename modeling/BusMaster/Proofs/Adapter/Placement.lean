import BusMaster.Proofs.Adapter.Hardware

/-!
# An adapter in its place

The adapters of a workbench reach all wires, but a driver works on one. What such an
adapter does is what it does on that wire alone: the other wires and the other adapters
stay as they are.

* `Transport.CarriedBy`: the steps of one transport, carried over to another along a map
  of the states;
* `Bus.perform_map`, `Adapter.selectPort_map`, `tryAcquire_map`, `drop_map`: those of a
  bus, and of an adapter, carried over;
* `Hardware.seated`: a driver and its wire among all wires;
* `Workbench.placed`, `Workbench.use_placed`: an adapter on a wire among all adapters.
-/

namespace BusMaster

/-- The steps of `t` are those of `t'` in the states that `φ` leads to. -/
structure Transport.CarriedBy {σ τ : Type} (t : Transport σ) (t' : Transport τ) (φ : σ → τ) :
    Prop where
  ask : ∀ query s, t'.ask query (φ s) = (t.ask query s).map id φ
  beginExclusive : ∀ s, t'.beginExclusive (φ s) = (t.beginExclusive s).map id φ
  endExclusive : ∀ s, t'.endExclusive (φ s) = φ (t.endExclusive s)
  perform : ∀ primitive s, t'.perform primitive (φ s) = (t.perform primitive s).map id φ

section Carried

variable {σ τ α : Type} {t : Transport σ} {t' : Transport τ} {φ : σ → τ}

theorem Bus.perform_map (h : t.CarriedBy t' φ) (primitive : Primitive) (b : Bus σ) :
    (b.map φ).perform t' primitive = (b.perform t primitive).map id (Bus.map φ) := by
  have hcapabilities : (b.map φ).capabilities = b.capabilities := rfl
  rw [perform, perform, hcapabilities]
  cases primitive.required.filter (!b.capabilities.supports ·) with
  | some missing => rfl
  | none =>
    have hperform : t'.perform primitive (b.map φ).line =
        (t.perform primitive b.line).map id φ := h.perform primitive b.line
    simp only [hperform]
    cases primitive.movesPort with
    | false => rfl
    | true =>
      show (_, recordPort t' _) = (_, (recordPort t _).map φ)
      simp only [recordPort, Prod.map_snd, h.ask]
      rfl

namespace Adapter

theorem withResource_map {f : Bus σ → α × Bus σ} {g : Bus τ → α × Bus τ}
    (h : ∀ b, g (b.map φ) = (f b).map id (Bus.map φ)) (a : Adapter σ) :
    (a.map φ).withResource g = (a.withResource f).map (Prod.map id (map φ)) := by
  have hheld : (a.map φ).arbiter.isHeld = a.arbiter.isHeld := rfl
  rw [withResource, withResource, Arbiter.withResource, Arbiter.withResource, hheld]
  cases a.arbiter.isHeld with
  | true => rfl
  | false =>
    show some (_, _) = some (_, _)
    rw [show g (a.map φ).arbiter.resource = _ from h a.arbiter.resource]
    rfl

theorem withSession_map {f : Bus σ → α × Bus σ} {g : Bus τ → α × Bus τ}
    (h : ∀ b, g (b.map φ) = (f b).map id (Bus.map φ)) (a : Adapter σ) :
    (a.map φ).withSession g = (a.withSession f).map (Prod.map id (map φ)) := by
  have hheld : (a.map φ).arbiter.isHeld = a.arbiter.isHeld := rfl
  rw [withSession, withSession, Arbiter.withSession, Arbiter.withSession, hheld]
  cases a.arbiter.isHeld with
  | false => rfl
  | true =>
    show some (_, _) = some (_, _)
    rw [show g (a.map φ).arbiter.resource = _ from h a.arbiter.resource]
    rfl

theorem selectPort_map (h : t.CarriedBy t' φ) (port : String) (a : Adapter σ) :
    (a.map φ).selectPort t' port = (a.selectPort t port).map (Prod.map id (map φ)) :=
  withResource_map (Bus.perform_map h _) a

theorem tryAcquire_map (h : t.CarriedBy t' φ) (a : Adapter σ) :
    (a.map φ).tryAcquire t' = (a.tryAcquire t).map id (map φ) := by
  cases hheld : a.isHeld with
  | true =>
    rw [tryAcquire_of_held hheld, tryAcquire_of_held (a := a.map φ) hheld]
    rfl
  | false =>
    have hbegin : t'.beginExclusive (a.map φ).line = (t.beginExclusive a.line).map id φ :=
      h.beginExclusive a.line
    rw [tryAcquire_of_not_held hheld, tryAcquire_of_not_held (a := a.map φ) hheld, hbegin]
    rfl

theorem drop_map (h : t.CarriedBy t' φ) (a : Adapter σ) :
    (a.map φ).drop t' = (a.drop t).map φ := by
  have hopen : (a.map φ).arbiter.isOpen = a.arbiter.isOpen := rfl
  have hend : t'.endExclusive (a.map φ).line = φ (t.endExclusive a.line) := h.endExclusive a.line
  rw [drop, drop, Arbiter.drop, Arbiter.drop]
  cases ho : a.arbiter.isOpen with
  | false =>
    rw [Arbiter.close_of_not_open ho, Arbiter.close_of_not_open (hopen.trans ho)]
    rfl
  | true =>
    rw [Arbiter.close_of_open ho, Arbiter.close_of_open (hopen.trans ho)]
    show Adapter.mk _ _ _ ⟨⟨t'.endExclusive _, _, _, _, _⟩, _, _⟩ = _
    rw [show (a.map φ).arbiter.resource.line = (a.map φ).line from rfl, hend]
    rfl

end Adapter

end Carried

/-! ## A driver among all wires -/

namespace Hardware

/-- The wires and the hardware, with a driver and its wire in these states. -/
def seated (wires : Wires) (number : Nat) (s : Network × Driver) : Wires × Hardware :=
  (wires.set number s.1, .simulated number s.2)

variable {wires : Wires} {number : Nat}

theorem run_seated {α : Type} (h : number < wires.length)
    (onWire : Network × Driver → α × Network × Driver)
    (onScript : Script × List Call → α × Script × List Call) (s : Network × Driver) :
    run onWire onScript (seated wires number s) = (onWire s).map id (seated wires number) := by
  show ((onWire (Wires.wire (wires.set number s.1) number, s.2)).1, List.set _ number _, _) = _
  rw [Wires.wire_set h, List.set_set]
  rfl

/-- A driver among all wires does what it does on its own. -/
theorem carriedBy_seated (h : number < wires.length) :
    Driver.transport.CarriedBy transport (seated wires number) where
  ask query := run_seated h (Driver.transport.ask query) (Script.transport.recorded.ask query)
  beginExclusive := run_seated h Driver.transport.beginExclusive
    Script.transport.recorded.beginExclusive
  endExclusive s := congrArg Prod.snd (run_seated h (((), Driver.transport.endExclusive ·))
    (((), Script.transport.recorded.endExclusive ·)) s)
  perform primitive := run_seated h (Driver.transport.perform primitive)
    (Script.transport.recorded.perform primitive)

end Hardware

/-! ## An adapter among all adapters -/

namespace Workbench

open Hardware (seated carriedBy_seated)

variable {α : Type} {bench : Workbench} {number wire : Nat}

/-- The workbench with an adapter in its place, whose driver and wire are in these
states. -/
def placed (bench : Workbench) (number wire : Nat) (a : Adapter (Network × Driver)) :
    Workbench :=
  { bench with
    wires := bench.wires.set wire a.line.1
    adapters := bench.adapters.set number (a.map fun s => .simulated wire s.2) }

theorem adapter?_placed (h : number < bench.adapters.length) (a : Adapter (Network × Driver)) :
    (bench.placed number wire a).adapter? number = some (a.map fun s => .simulated wire s.2) :=
  List.getElem?_set_self h

/-- An adapter is in its place already. -/
theorem placed_self {adapter : Adapter Hardware} {drv : Driver}
    (h : bench.adapter? number = some adapter) (line : adapter.line = .simulated wire drv)
    (hw : wire < bench.wires.length) :
    bench.placed number wire (adapter.map fun _ => (bench.wires.wire wire, drv)) = bench := by
  have hadapter : (adapter.map fun _ => Hardware.simulated wire drv) = adapter := by
    rw [← line]
    rfl
  obtain ⟨hn, hadapters⟩ := List.getElem?_eq_some_iff.mp h
  show Workbench.mk (bench.wires.set wire (bench.wires.wire wire))
    (bench.adapters.set number (adapter.map fun _ => .simulated wire drv)) bench.drivers = bench
  rw [Wires.set_wire hw, hadapter, ← hadapters, List.set_getElem_self]

theorem use_congr {f g : Adapter (Wires × Hardware) → α × Adapter (Wires × Hardware)}
    (h : ∀ a, f a = g a) : bench.use number f = bench.use number g :=
  congrArg (bench.use number) (funext h)

/-- What is done to the adapter in its place is done to it on its wire. -/
theorem use_placed (h : number < bench.adapters.length)
    {f : Adapter (Network × Driver) → α × Adapter (Network × Driver)}
    {g : Adapter (Wires × Hardware) → α × Adapter (Wires × Hardware)}
    (hg : ∀ a, g (a.map (seated bench.wires wire)) =
      (f a).map id (Adapter.map (seated bench.wires wire)))
    (a : Adapter (Network × Driver)) :
    (bench.placed number wire a).use number g =
      some ((f a).1, bench.placed number wire (f a).2) := by
  have hseat : ((a.map fun s => Hardware.simulated wire s.2).map fun hardware =>
      ((bench.placed number wire a).wires, hardware)) = a.map (seated bench.wires wire) :=
    rfl
  rw [use, adapter?_placed h, Option.map_some, hseat, hg]
  simp only [placed, Prod.map, List.set_set]
  rfl

theorem tryAcquire_placed (hn : number < bench.adapters.length) (hw : wire < bench.wires.length)
    (a : Adapter (Network × Driver)) :
    (bench.placed number wire a).tryAcquire number =
      ((a.tryAcquire Driver.transport).1,
        bench.placed number wire (a.tryAcquire Driver.transport).2) := by
  rw [tryAcquire, use_placed hn (Adapter.tryAcquire_map (carriedBy_seated hw)), Option.getD_some]

end Workbench

end BusMaster
