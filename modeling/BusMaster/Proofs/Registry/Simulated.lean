import BusMaster.Proofs.Adapter.Hardware
import BusMaster.Proofs.Address.Text
import BusMaster.Registry.Descriptor

/-!
# From the properties to the bus

A simulated adapter has the devices that two properties list, and its enumerations
find them, whatever the order of the lists and however often they name a device.

* `Bus.afterEnumerations`: the bus after any enumerations;
* `Adapter.enumerates_onHardware`: what an adapter finds on a wire in order;
* `Descriptor.factory_of_spells`, `Descriptor.factory_of_malformed`: what the factory
  makes of the two lists;
* `Descriptor.simulated_enumerates`: from the texts of the lists to what is found.
-/

namespace BusMaster

/-- The bus after enumerations with these options, one after the other: alarms only,
and no reset before the passes. -/
def Bus.afterEnumerations {σ : Type} (t : Transport σ) (b : Bus σ) (before : List (Bool × Bool)) :
    Bus σ :=
  before.foldl (fun b options => (b.devices t options.1 options.2).2) b

/-- Enumerations that stay among populated states keep the filter. -/
theorem Bus.afterEnumerations_keeps {σ : Type} {t : Transport σ} {I : σ → Prop}
    {S : Bool → Bool → List Address}
    (hp : ∀ alarmOnly skipReset, Search.Populated t I alarmOnly skipReset (S alarmOnly skipReset)) :
    ∀ (before : List (Bool × Bool)) (b : Bus σ), I b.line →
      (b.afterEnumerations t before).filter = b.filter ∧ I (b.afterEnumerations t before).line
  | [], _, hb => ⟨rfl, hb⟩
  | options :: before, b, hb => by
    obtain ⟨found, s, he, -, hs⟩ := b.walk_lists (hp options.1 options.2) hb
    have hstep : b.afterEnumerations t (options :: before) =
        Bus.afterEnumerations t (b.devices t options.1 options.2).2 before := rfl
    rw [hstep, devices_eq_walk, he]
    exact afterEnumerations_keeps hp before _ hs

/-- After any enumerations the next one lists what takes part in it. -/
theorem Bus.afterEnumerations_lists {σ : Type} {t : Transport σ} {I : σ → Prop}
    {S : Bool → Bool → List Address} {b : Bus σ}
    (hp : ∀ alarmOnly skipReset, Search.Populated t I alarmOnly skipReset (S alarmOnly skipReset))
    (hb : I b.line) (hall : b.filter = .all) (before : List (Bool × Bool))
    (alarmOnly skipReset : Bool) :
    ∃ found b', (b.afterEnumerations t before).devices t alarmOnly skipReset =
        (.complete found, b') ∧ Search.Lists (S alarmOnly skipReset) 0 found := by
  obtain ⟨hfilter, hline⟩ := afterEnumerations_keeps hp before b hb
  obtain ⟨found, s, he, hf, -⟩ :=
    (b.afterEnumerations t before).walk_lists (hp alarmOnly skipReset) hline
  rw [hfilter, hall, Search.filter_all] at hf
  exact ⟨found, _, (devices_eq_walk t alarmOnly skipReset _).trans he, hf⟩

/-- On a free adapter whose driver is on a wire in order: once a port is selected, a
session begins at once, and its enumerations find what takes part on the wire. -/
theorem Adapter.enumerates_onHardware {number : Nat} {net : Network} {drv : Driver}
    {a : Adapter (Wires × Hardware)} (free : a.isHeld = false)
    (hall : a.arbiter.resource.filter = .all) (h : Hardware.On number (· = (net, drv)) a.line)
    {port : String} (known : port ∈ drv.ports) (opens : net.portError = false)
    (unclaimed : net.claimed = false) (unshorted : net.short = false) :
    ∃ ready session, a.selectPort Hardware.transport port = some (.ok true, ready) ∧
      ready.tryAcquire Hardware.transport = (true, session) ∧
      ∀ before alarmOnly skipReset, ∃ found after,
        session.withSession (fun b => (b.afterEnumerations Hardware.transport before).devices
          Hardware.transport alarmOnly skipReset) = some (.complete found, after) ∧
        found.Pairwise (·.searchKey < ·.searchKey) ∧
        ∀ x, x ∈ found ↔ net.TakesPart alarmOnly x := by
  obtain ⟨ready, hready, free', hall', h'⟩ := selectPort_onHardware free h known opens
  obtain ⟨s, s₁, hs, hon, hdevices, hshort, hselected⟩ := tryAcquire_onHardware free' h' unclaimed
  have attached : s₁.2.selected.isSome = true := by
    rw [hselected]
    rfl
  refine ⟨ready, _, hready, hs, fun before alarmOnly skipReset => ?_⟩
  obtain ⟨found, b', he, hf⟩ := Bus.afterEnumerations_lists
    (b := { ready.arbiter.resource with line := s })
    (fun alarmOnly skipReset => (populated_driver attached alarmOnly skipReset).onHardware number)
    (hon.mono fun _ heq => heq ▸ .refl s₁) (hall'.trans hall) before alarmOnly skipReset
  obtain ⟨after, hafter⟩ := withSession_granted (f := fun b =>
    (b.afterEnumerations Hardware.transport before).devices Hardware.transport alarmOnly
      skipReset) he
  refine ⟨found, after, hafter, hf.ascending, fun x => ?_⟩
  rw [hf.mem_iff, and_iff_left (Nat.zero_le _),
    Network.takingPart_of_not_short (hshort.trans unshorted), Network.mem_participants,
    Network.TakesPart, hdevices]
  rfl

namespace Registry

open Address (Spells pieces isMalformed parseList listText)

/-- The text of a property. -/
def textOf (lookup : Lookup) (key : String) : String :=
  (lookup key).getD ""

/-- A property without a value lists nothing, like an empty text. -/
theorem addressList_eq (lookup : Lookup) (key : String) :
    addressList lookup key = parseList (textOf lookup key) := by
  rw [addressList, textOf]
  cases lookup key with
  | none => exact (Address.parseList_of_spells (Address.spells_listText [])).symm
  | some text => rfl

namespace Descriptor

variable {lookup : Lookup} {devices alarming : List Address}

/-- The adapter that the factory makes: a fresh driver of the last wire. -/
def freshAdapter (name : String) (wires : Wires) : Adapter Hardware :=
  (Hardware.simulated (wires.length - 1) {}).adapter name simulatorPortType wires

theorem factory_of_spells (name : String) (wires : Wires)
    (hd : Spells (textOf lookup devicesKey) devices)
    (ha : Spells (textOf lookup alarmingKey) alarming) :
    let wires' := wires ++ [Network.populated devices alarming]
    (simulated name).factory lookup wires = .ok (freshAdapter name wires', wires') := by
  simp only [simulated, addressList_eq, Address.parseList_of_spells hd,
    Address.parseList_of_spells ha]
  rfl

/-- The error names the first malformed piece, and those of the devices come first. -/
theorem factory_of_malformed (name : String) (wires : Wires) {piece : String}
    (h : ((pieces (textOf lookup devicesKey)).find? isMalformed).or
      ((pieces (textOf lookup alarmingKey)).find? isMalformed) = some piece) :
    (simulated name).factory lookup wires = .error (.invalidAddress piece) := by
  simp only [simulated, addressList_eq]
  cases hd : (pieces (textOf lookup devicesKey)).find? isMalformed with
  | some first =>
    rw [hd, Option.some_or] at h
    obtain rfl := Option.some.inj h
    rw [Address.parseList_of_malformed hd]
    rfl
  | none =>
    rw [hd, Option.none_or] at h
    obtain ⟨devices, hs⟩ := Address.exists_spells hd
    rw [Address.parseList_of_spells hs, Address.parseList_of_malformed h]
    rfl

/-- The adapter that the factory makes is free, and on a new wire. -/
theorem freshAdapter_on (name : String) (wires : Wires) (net : Network) :
    let a := (freshAdapter name (wires ++ [net])).map (wires ++ [net], ·)
    a.isHeld = false ∧ a.arbiter.resource.filter = .all ∧
      Hardware.On wires.length (· = (net, {})) a.line := by
  have hlength : (wires ++ [net]).length - 1 = wires.length := by simp
  have hwire : Wires.wire (wires ++ [net]) wires.length = net := by simp [Wires.wire]
  refine ⟨rfl, rfl, {}, ?_, ?_, ?_⟩
  · show Hardware.simulated ((wires ++ [net]).length - 1) {} = _
    rw [hlength]
  · show wires.length < (wires ++ [net]).length
    simp
  · show (Wires.wire (wires ++ [net]) wires.length, ({} : Driver)) = _
    rw [hwire]

/-- The enumerations of a simulated adapter. Whatever texts list the quiet and the
alarming devices, the factory makes an adapter; on any of its ports, after any
earlier enumerations, a search of all devices finds every device of either list and
one of those in alarm the alarming ones, each once, in the order of their search
keys. If a text has a malformed piece, the factory fails with the first one, and
those of the quiet devices come first. Every list has a text. -/
theorem simulated_enumerates (name : String) (lookup : Lookup) (wires : Wires) :
    (∀ devices alarming, Spells (textOf lookup devicesKey) devices →
      Spells (textOf lookup alarmingKey) alarming →
      ∃ adapter wires', (simulated name).factory lookup wires = .ok (adapter, wires') ∧
        ∀ port ∈ ({} : Driver).ports, ∃ ready session,
          (adapter.map (wires', ·)).selectPort Hardware.transport port = some (.ok true, ready) ∧
          ready.tryAcquire Hardware.transport = (true, session) ∧
          ∀ before alarmOnly skipReset, ∃ found after,
            session.withSession (fun b => (b.afterEnumerations Hardware.transport before).devices
              Hardware.transport alarmOnly skipReset) = some (.complete found, after) ∧
            found.Pairwise (·.searchKey < ·.searchKey) ∧
            ∀ a, a ∈ found ↔ a ∈ alarming ∨ alarmOnly = false ∧ a ∈ devices) ∧
    (∀ piece, ((pieces (textOf lookup devicesKey)).find? isMalformed).or
        ((pieces (textOf lookup alarmingKey)).find? isMalformed) = some piece →
      (simulated name).factory lookup wires = .error (.invalidAddress piece)) ∧
    ∀ addresses, Spells (listText addresses) addresses := by
  refine ⟨fun devices alarming hd ha => ?_, fun _ => factory_of_malformed name wires,
    Address.spells_listText⟩
  refine ⟨_, _, factory_of_spells name wires hd ha, fun port hport => ?_⟩
  obtain ⟨free, hall, hon⟩ := freshAdapter_on name wires (Network.populated devices alarming)
  have hnet := Network.populated_eq devices alarming
  obtain ⟨ready, session, hready, hsession, hfinds⟩ :=
    Adapter.enumerates_onHardware free hall hon hport (by rw [hnet]) (by rw [hnet]) (by rw [hnet])
  refine ⟨ready, session, hready, hsession, fun before alarmOnly skipReset => ?_⟩
  obtain ⟨found, after, he, hasc, hm⟩ := hfinds before alarmOnly skipReset
  exact ⟨found, after, he, hasc, fun a => (hm a).trans Network.takesPart_populated⟩

/-- A device listed twice, and once more in alarm: the search of the devices in alarm
finds it, after a search of all devices. With a piece too short in both lists the
factory names that of the devices. -/
theorem simulated_enumerates_of_overlap :
    let quiet := Address.ofBytes [0x28, 1, 0, 0, 0, 0, 0, 0]
    let both := Address.ofBytes [0x10, 1, 0, 0, 0, 0, 0, 0]
    let lookup : Lookup := fun key =>
      if key = devicesKey then some (listText [both, quiet, both]) else some (listText [both])
    let broken : Lookup := fun key =>
      if key = devicesKey then some "2801000000000000, 28 01 ," else some "10"
    (∃ adapter wires', (simulated "sim").factory lookup [] = .ok (adapter, wires') ∧
      ∃ ready session,
        (adapter.map (wires', ·)).selectPort Hardware.transport "sim0" = some (.ok true, ready) ∧
        ready.tryAcquire Hardware.transport = (true, session) ∧
        ∃ found after, session.withSession (fun b =>
          (b.afterEnumerations Hardware.transport [(false, false)]).devices Hardware.transport
            true false) = some (.complete found, after) ∧ both ∈ found ∧ quiet ∉ found) ∧
      (simulated "sim").factory broken [] = .error (.invalidAddress "28 01") := by
  intro quiet both lookup broken
  obtain ⟨hfinds, -, hspells⟩ := simulated_enumerates "sim" lookup []
  obtain ⟨-, hmalformed, -⟩ := simulated_enumerates "sim" broken []
  refine ⟨?_, hmalformed "28 01" (by decide +kernel)⟩
  have hdevices : textOf lookup devicesKey = listText [both, quiet, both] := by decide +kernel
  have halarming : textOf lookup alarmingKey = listText [both] := by decide +kernel
  obtain ⟨adapter, wires', hfactory, hports⟩ := hfinds [both, quiet, both] [both]
    (by rw [hdevices]; exact hspells _) (by rw [halarming]; exact hspells _)
  obtain ⟨ready, session, hready, hsession, hall⟩ := hports "sim0" List.mem_cons_self
  obtain ⟨found, after, he, -, hm⟩ := hall [(false, false)] true false
  refine ⟨adapter, wires', hfactory, ready, session, hready, hsession, found, after, he,
    (hm both).mpr (.inl List.mem_cons_self), fun h => ?_⟩
  rcases (hm quiet).mp h with h | ⟨h, -⟩
  · exact absurd h (by decide)
  · cases h

end Descriptor

end Registry

end BusMaster
