import BusMaster.Proofs.Adapter.Placement
import BusMaster.Proofs.Registry.Enumeration

/-!
# Opening an adapter

An adapter is found by its name, attached to a port and probed for hardware in a session
of its own. Each of these steps can fail, and what was done before is then undone, on a
wire that others may use as well.

* `Registry.attached`, `Registry.probed`: the steps on any transport;
  `openOn_of_unavailable`, `openOn_of_probed`: opening, as these steps in order;
* `Registry.Opens`, `Registry.Refuses`: whether a driver can be opened on its wire, and
  why not; `openOn_of_opens`, `openOn_of_refuses`: what is left of the wires;
* `Descriptor.BuildsFresh`, `Registry.enumerate_fresh`: types that make adapters at rest;
* `Registry.Candidate`: the adapter that a name stands for;
* `Registry.opens_cleanly_or_not_at_all`: all together.
-/

namespace BusMaster

namespace Registry

open Hardware (seated carriedBy_seated)

/-! ## The two steps on one transport -/

section Steps

variable {σ τ : Type} {t : Transport σ} {t' : Transport τ} {φ : σ → τ}

/-- Attaches the adapter to a port. -/
def attached (t : Transport σ) (port : String) (a : Adapter σ) : Except BusError Bool × Adapter σ :=
  match a.selectPort t port with
  | some (answer, a) => (answer, a)
  | none => (.ok false, a)

/-- Probes for hardware, and frees the port unless it is there. -/
def probeBus (t : Transport σ) (b : Bus σ) : Except BusError Bool × Bus σ :=
  match b.perform t .detect with
  | (.ok true, b) => (.ok true, b)
  | (answer, b) => (answer, (b.perform t .freePort).2)

/-- Probes for hardware in the session that is held, and ends it. -/
def probed (t : Transport σ) (a : Adapter σ) : Except BusError Bool × Adapter σ :=
  match a.withSession (probeBus t) with
  | some (answer, a) => (answer, a.drop t)
  | none => (.ok false, a)

theorem probe_eq : probe = probeBus Hardware.transport := by
  funext b
  rw [probe, probeBus]
  obtain ⟨answer, b⟩ := b.perform Hardware.transport .detect
  rcases answer with e | _ | _ <;> rfl

theorem attached_map (h : t.CarriedBy t' φ) (port : String) (a : Adapter σ) :
    attached t' port (a.map φ) = (attached t port a).map id (Adapter.map φ) := by
  rw [attached, attached, Adapter.selectPort_map h]
  cases a.selectPort t port <;> rfl

theorem probeBus_map (h : t.CarriedBy t' φ) (b : Bus σ) :
    probeBus t' (b.map φ) = (probeBus t b).map id (Bus.map φ) := by
  rw [probeBus, probeBus, Bus.perform_map h]
  obtain ⟨answer, b⟩ := b.perform t .detect
  have hfree := congrArg Prod.snd (Bus.perform_map h .freePort b)
  rcases answer with e | _ | _
  · exact Prod.ext rfl hfree
  · exact Prod.ext rfl hfree
  · rfl

theorem probed_map (h : t.CarriedBy t' φ) (a : Adapter σ) :
    probed t' (a.map φ) = (probed t a).map id (Adapter.map φ) := by
  rw [probed, probed, Adapter.withSession_map (probeBus_map h)]
  cases a.withSession (probeBus t) with
  | none => rfl
  | some done => exact Prod.ext rfl (Adapter.drop_map h done.2)

end Steps

variable {around : Surroundings Workbench} {rounds number wire : Nat} {name port : String}
  {bench : Workbench}

/-- How opening ends after the probe. -/
def verdict (name port : String) (number : Nat) : Except BusError Bool → Opened
  | .ok true => .adapter number
  | .ok false => .failed (.adapterNotDetected name port)
  | .error e => .failed e

theorem openOn_of_unavailable {answer : Except BusError Bool} {bench' : Workbench}
    (attaches : bench.use number (attached Hardware.transport port) = some (answer, bench'))
    (unavailable : answer ≠ .ok true) :
    openOn around rounds name port number bench =
      (.failed (.portUnavailable name port), bench') := by
  -- The step is written out in `openOn`, and is the same at every adapter.
  rw [openOn, Workbench.use_congr (g := attached Hardware.transport port), attaches]
  · rcases answer with e | _ | _
    · rfl
    · rfl
    · exact absurd rfl unavailable
  · intro a
    rw [attached]
    cases a.selectPort Hardware.transport port <;> rfl

theorem openOn_of_probed {answer : Except BusError Bool} {bench₁ bench₂ bench₃ : Workbench}
    (attaches : bench.use number (attached Hardware.transport port) = some (.ok true, bench₁))
    (acquires : bench₁.tryAcquire number = (true, bench₂))
    (probes : bench₂.use number (probed Hardware.transport) = some (answer, bench₃)) :
    openOn around (rounds + 1) name port number bench =
      (verdict name port number answer, bench₃) := by
  have hacquire : acquire around (rounds + 1) number bench₁ = (.acquired, bench₂) := by
    rw [acquire, Lease.acquireBlocking, acquires]
  rw [openOn, Workbench.use_congr (g := attached Hardware.transport port), attaches]
  · simp only [hacquire]
    rw [Workbench.use_congr (g := probed Hardware.transport), probes]
    · rcases answer with e | _ | _ <;> rfl
    · intro a
      rw [probed, probe_eq]
      cases a.withSession (probeBus Hardware.transport) <;> rfl
  · intro a
    rw [attached]
    cases a.selectPort Hardware.transport port <;> rfl

/-! ## A driver on its wire -/

/-- The driver can be opened on the port. -/
structure Opens (port : String) (net : Network) (drv : Driver) : Prop where
  offered : port ∈ drv.ports
  opens : net.portError = false
  answers : net.probeError = false
  present : net.adapterPresent = true

/-- Why it cannot be, in the order in which it turns out. -/
inductive Refuses (name port : String) (net : Network) (drv : Driver) : BusError → Prop where
  | unavailable (h : port ∉ drv.ports ∨ net.portError = true) :
      Refuses name port net drv (.portUnavailable name port)
  | unanswered (offered : port ∈ drv.ports) (opens : net.portError = false)
      (h : net.probeError = true) : Refuses name port net drv (.io "adapter probe timed out")
  | undetected (offered : port ∈ drv.ports) (opens : net.portError = false)
      (answers : net.probeError = false) (h : net.adapterPresent = false) :
      Refuses name port net drv (.adapterNotDetected name port)

section Wire

variable {net : Network} {drv : Driver} {a : Adapter (Network × Driver)}

theorem opens_or_refuses (name port : String) (net : Network) (drv : Driver) :
    Opens port net drv ∨ ∃ e, Refuses name port net drv e := by
  by_cases offered : port ∈ drv.ports
  · cases opens : net.portError with
    | true => exact .inr ⟨_, .unavailable (.inr opens)⟩
    | false =>
      cases answers : net.probeError with
      | true => exact .inr ⟨_, .unanswered offered opens answers⟩
      | false =>
        cases present : net.adapterPresent with
        | true => exact .inl ⟨offered, opens, answers, present⟩
        | false => exact .inr ⟨_, .undetected offered opens answers present⟩
  · exact .inr ⟨_, .unavailable (.inl offered)⟩

theorem Refuses.not_opens {e : BusError} (h : Refuses name port net drv e) :
    ¬ Opens port net drv := by
  rintro ⟨offered, opens, answers, present⟩
  cases h with
  | unavailable h => simp [offered, opens] at h
  | unanswered _ _ h => simp [answers] at h
  | undetected _ _ _ h => simp [present] at h

/-- The adapter with its driver and wire in these states, and the driver's port
recorded. -/
def moved (a : Adapter (Network × Driver)) (s : Network × Driver) : Adapter (Network × Driver) :=
  { a with arbiter := { a.arbiter with
    resource := { a.arbiter.resource with line := s, port := s.2.selected } } }

theorem attached_eq (free : a.isHeld = false) (port : String) :
    attached Driver.transport port a =
      ((Driver.perform (.selectPort port) a.line).1,
        moved a (Driver.perform (.selectPort port) a.line).2) := by
  have free : a.arbiter.isHeld = false := free
  rw [attached, Adapter.selectPort, Adapter.withResource, Arbiter.withResource, free]
  rfl

/-- A driver on no port stays there if the port cannot be had. -/
theorem perform_selectPort_of_unavailable (detached : drv.selected = none)
    (h : port ∉ drv.ports ∨ net.portError = true) :
    ∃ answer, answer ≠ .ok true ∧
      Driver.perform (.selectPort port) (net, drv) = (answer, net, drv) := by
  have hleft : Driver.attachTo none (net, drv) = (net, drv) := by
    cases net
    cases drv
    cases detached
    rfl
  cases opens : net.portError with
  | true =>
    refine ⟨.error (.io s!"cannot open {port}"), by simp, ?_⟩
    simp only [Driver.perform, Driver.needsPort, Driver.performAttached, opens]
    rfl
  | false =>
    have unknown : port ∉ drv.ports := by simpa [opens] using h
    refine ⟨.ok false, by simp, ?_⟩
    simp [Driver.perform, Driver.needsPort, Driver.performAttached, opens, unknown, hleft]

/-- The driver on the port, in a session of its own. -/
def entered (port : String) (net : Network) (drv : Driver) : Network × Driver :=
  ({ net with attachedPorts := net.attachedPorts + 1, claimed := true },
    { drv with selected := some port, holding := true })

theorem beginExclusive_attached (detached : drv.selected = none) (unclaimed : net.claimed = false) :
    Driver.beginExclusive (Driver.attachTo (some port) (net, drv)) =
      (true, entered port net drv) := by
  rw [Driver.attachTo, detached, Driver.beginExclusive, unclaimed]
  rfl

/-- The session over, and the driver still on the port. -/
theorem endExclusive_entered (unclaimed : net.claimed = false) :
    (Driver.endExclusive (entered port net drv)).1 =
      { net with attachedPorts := net.attachedPorts + 1 } := by
  cases net
  cases unclaimed
  rfl

/-- The session over, and the driver off the port again. -/
theorem endExclusive_left (unclaimed : net.claimed = false) :
    (Driver.endExclusive (Driver.attachTo none (entered port net drv))).1 = net := by
  -- The count of ports went up by one before and goes down by one here.
  cases net
  cases unclaimed
  rfl

/-- What the hardware answers to a probe. -/
def detection (net : Network) : Except BusError Bool :=
  if net.probeError then .error (.io "adapter probe timed out") else .ok net.adapterPresent

variable {b : Bus (Network × Driver)}

theorem perform_detect (onPort : b.line.2.selected.isSome = true) :
    b.perform Driver.transport .detect = (detection b.line.1, b) := by
  have hdetect : Driver.perform .detect b.line = (detection b.line.1, b.line) := by
    have hnone : b.line.2.selected.isNone = false := by simpa using onPort
    rw [Driver.perform, Driver.needsPort, Bool.false_and, if_neg (by decide),
      Driver.performAttached, if_neg (by simp [hnone]), detection]
    split <;> rfl
  show ((Driver.perform .detect b.line).1, { b with line := (Driver.perform .detect b.line).2 }) = _
  rw [hdetect]

/-- The hardware is there, and the bus stays as it is. -/
theorem probeBus_of_present (onPort : b.line.2.selected.isSome = true)
    (h : detection b.line.1 = .ok true) : probeBus Driver.transport b = (.ok true, b) := by
  rw [probeBus, perform_detect onPort, h]

/-- The hardware does not answer or is not there, and the driver leaves the port. -/
theorem probeBus_of_absent (onPort : b.line.2.selected.isSome = true)
    (h : detection b.line.1 ≠ .ok true) : probeBus Driver.transport b =
      (detection b.line.1, { b with line := Driver.attachTo none b.line, port := none }) := by
  rw [probeBus, perform_detect onPort]
  rcases hd : detection b.line.1 with e | _ | _
  · rfl
  · rfl
  · exact absurd hd h

/-- After the probe the session is over. -/
theorem exists_probed (a : Adapter (Network × Driver)) (s : Network × Driver) :
    ∃ b a', b = { a.arbiter.resource with line := s } ∧
      probed Driver.transport (a.granted s) = ((probeBus Driver.transport b).1, a') ∧
      a'.name = a.name ∧ a'.isHeld = false ∧
      a'.portName = (probeBus Driver.transport b).2.port ∧
      a'.line = Driver.endExclusive (probeBus Driver.transport b).2.line :=
  ⟨_, _, rfl, rfl, rfl, rfl, rfl, rfl⟩

/-! ## An adapter of the workbench -/

variable (hn : number < bench.adapters.length) (hw : wire < bench.wires.length)
  (free : a.isHeld = false) (line : a.line = (net, drv)) (detached : drv.selected = none)

include hn hw free line detached

theorem openOn_unavailable (h : port ∉ drv.ports ∨ net.portError = true) :
    ∃ a', openOn around rounds name port number (bench.placed number wire a) =
        (.failed (.portUnavailable name port), bench.placed number wire a') ∧ a'.line.1 = net := by
  obtain ⟨answer, hne, hperform⟩ := perform_selectPort_of_unavailable detached h
  have huse := Workbench.use_placed hn (attached_map (carriedBy_seated hw) port) a
  rw [attached_eq free, line, hperform] at huse
  exact ⟨_, openOn_of_unavailable huse hne, rfl⟩

variable (unclaimed : net.claimed = false)

include unclaimed

/-- Once the driver is on the port, the probe decides. -/
theorem openOn_available (offered : port ∈ drv.ports) (opens : net.portError = false) :
    ∃ (b : Bus (Network × Driver)) (a' : Adapter (Network × Driver)),
      b.line = entered port net drv ∧ b.port = some port ∧
      openOn around (rounds + 1) name port number (bench.placed number wire a) =
        (verdict name port number (probeBus Driver.transport b).1, bench.placed number wire a') ∧
      a'.name = a.name ∧ a'.isHeld = false ∧
      a'.portName = (probeBus Driver.transport b).2.port ∧
      a'.line = Driver.endExclusive (probeBus Driver.transport b).2.line := by
  let ready := moved a (Driver.attachTo (some port) (net, drv))
  have hattach : (bench.placed number wire a).use number (attached Hardware.transport port) =
      some (.ok true, bench.placed number wire ready) := by
    rw [Workbench.use_placed hn (attached_map (carriedBy_seated hw) port), attached_eq free, line,
      Driver.perform_selectPort offered opens]
  have hbegin : ready.tryAcquire Driver.transport =
      (true, ready.granted (entered port net drv)) :=
    Adapter.tryAcquire_of_granted free (beginExclusive_attached detached unclaimed)
  have hacquire : (bench.placed number wire ready).tryAcquire number =
      (true, bench.placed number wire (ready.granted (entered port net drv))) := by
    rw [Workbench.tryAcquire_placed hn hw, hbegin]
  obtain ⟨b, a', hb, hprobed, hname, hfree, hport, hline⟩ :=
    exists_probed ready (entered port net drv)
  have hprobe : (bench.placed number wire (ready.granted (entered port net drv))).use number
      (probed Hardware.transport) =
        some ((probeBus Driver.transport b).1, bench.placed number wire a') := by
    rw [Workbench.use_placed hn (probed_map (carriedBy_seated hw)), hprobed]
  refine ⟨b, a', by rw [hb], by rw [hb]; rfl, ?_, hname, hfree, hport, hline⟩
  exact openOn_of_probed hattach hacquire hprobe

theorem openOn_opens (h : Opens port net drv) :
    ∃ a', openOn around (rounds + 1) name port number (bench.placed number wire a) =
        (.adapter number, bench.placed number wire a') ∧
      a'.name = a.name ∧ a'.isHeld = false ∧ a'.portName = some port ∧
      a'.line.1 = { net with attachedPorts := net.attachedPorts + 1 } := by
  obtain ⟨b, a', hb, hbport, he, hname, hfree, hport, hline⟩ :=
    openOn_available hn hw free line detached unclaimed h.offered h.opens
  have hdetection : detection b.line.1 = .ok true := by
    simp [hb, detection, entered, h.answers, h.present]
  rw [probeBus_of_present (by rw [hb]; rfl) hdetection] at he hport hline
  refine ⟨a', he, hname, hfree, hport.trans hbport, ?_⟩
  rw [hline, hb, endExclusive_entered unclaimed]

theorem openOn_undetected (offered : port ∈ drv.ports) (opens : net.portError = false)
    {answer : Except BusError Bool} (h : detection net = answer) (absent : answer ≠ .ok true) :
    ∃ a', openOn around (rounds + 1) name port number (bench.placed number wire a) =
        (verdict name port number answer, bench.placed number wire a') ∧ a'.line.1 = net := by
  obtain ⟨b, a', hb, -, he, -, -, -, hline⟩ :=
    openOn_available hn hw free line detached unclaimed offered opens
  have hdetection : detection b.line.1 = answer := by
    rw [hb]
    exact h
  rw [probeBus_of_absent (by rw [hb]; rfl) (by rw [hdetection]; exact absent)] at he hline
  refine ⟨a', by rw [he, hdetection], ?_⟩
  rw [hline, hb, endExclusive_left unclaimed]

theorem openOn_refuses {e : BusError} (h : Refuses name port net drv e) :
    ∃ a', openOn around (rounds + 1) name port number (bench.placed number wire a) =
        (.failed e, bench.placed number wire a') ∧ a'.line.1 = net := by
  cases h with
  | unavailable h => exact openOn_unavailable hn hw free line detached h
  | unanswered offered opens h =>
    exact openOn_undetected hn hw free line detached unclaimed offered opens
      (by rw [detection, h, if_pos rfl]) (by simp)
  | undetected offered opens answers h =>
    exact openOn_undetected hn hw free line detached unclaimed offered opens
      (by simp [detection, answers, h]; rfl) (by simp)

end Wire

/-! ## Fresh adapters -/

/-- The adapter has no session, and its driver is on no port, but on one of the wires. -/
structure Resting (wires : Wires) (adapter : Adapter Hardware) (wire : Nat) (drv : Driver) :
    Prop where
  free : adapter.isHeld = false
  line : adapter.line = .simulated wire drv
  detached : drv.selected = none
  lt_length : wire < wires.length

/-- Where the wires begin with these, the type fails, or makes an adapter for a driver
that is on no port, on a wire that is there or on one that it adds. What it adds has no
claim, and the wires that are there stay as they are. -/
def Descriptor.BuildsFresh (base : Wires) (descriptor : Descriptor) : Prop :=
  ∀ lookup wires adapter wires', base <+: wires →
    descriptor.factory lookup wires = .ok (adapter, wires') →
      (∃ name portType wire drv, drv.selected = none ∧ wire < wires'.length ∧
        adapter = (Hardware.simulated wire drv).adapter name portType wires') ∧
      ∃ new, wires' = wires ++ new ∧ ∀ net ∈ new, net.claimed = false

theorem Descriptor.simulated_buildsFresh (base : Wires) (name : String) :
    (simulated name).BuildsFresh base := by
  intro lookup wires adapter wires' _ h
  simp only [simulated, bind, Except.bind, pure, Except.pure] at h
  split at h
  · cases h
  · split at h
    · cases h
    · rename_i devices _ alarming _
      cases h
      refine ⟨⟨name, simulatorPortType, _, {}, rfl, by simp, rfl⟩, _, rfl, ?_⟩
      rw [Network.populated_eq]
      simp

theorem Descriptor.onWire_buildsFresh {base : Wires} {wire : Nat} (h : wire < base.length)
    (name : String) : (onWire name wire).BuildsFresh base := by
  intro lookup wires adapter wires' hbase hfactory
  cases hfactory
  have hlength := hbase.length_le
  exact ⟨⟨name, simulatorPortType, wire, {}, rfl, by omega, rfl⟩, [], by simp⟩

theorem Resting.mono {wires wires' : Wires} {adapter : Adapter Hardware} {drv : Driver}
    (h : Resting wires adapter wire drv) (hwires : wires <+: wires') :
    Resting wires' adapter wire drv :=
  { h with lt_length := Nat.lt_of_lt_of_le h.lt_length hwires.length_le }

/-- What an enumeration makes of such types: adapters at rest, and wires without a claim
after those that were there. By induction on the outcomes. -/
theorem Outcomes.fresh {lookup : Lookup} {base wires wires' : Wires} {entries : List Entry}
    {outcomes : List Outcome} (h : Outcomes lookup wires entries outcomes wires')
    (hbase : base <+: wires) (unclaimed : ∀ net ∈ wires, net.claimed = false)
    (fresh : ∀ descriptor, .known descriptor ∈ entries → descriptor.BuildsFresh base) :
    wires <+: wires' ∧ (∀ net ∈ wires', net.claimed = false) ∧
      ∀ adapter ∈ outcomes.filterMap (·.adapter?), ∃ wire drv, Resting wires' adapter wire drv := by
  induction h with
  | none wires => exact ⟨List.prefix_rfl, unclaimed, by simp⟩
  | @made descriptor adapter wires wires₁ wires' entries outcomes makes _ ih =>
    obtain ⟨⟨name, portType, wire, drv, detached, hwire, hadapter⟩, new, hnew, hunclaimed⟩ :=
      fresh descriptor List.mem_cons_self _ _ _ _ hbase makes
    have hwires : wires <+: wires₁ := ⟨new, hnew.symm⟩
    have hclaims : ∀ net ∈ wires₁, net.claimed = false := by
      intro net hnet
      rw [hnew, List.mem_append] at hnet
      exact hnet.elim (unclaimed net) (hunclaimed net)
    obtain ⟨hlater, hclaims', hrest⟩ := ih (hbase.trans hwires) hclaims
      fun d hd => fresh d (List.mem_cons_of_mem _ hd)
    have hresting : Resting wires₁ adapter wire drv :=
      ⟨by rw [hadapter]; rfl, by rw [hadapter]; rfl, detached, hwire⟩
    refine ⟨hwires.trans hlater, hclaims', ?_⟩
    simp only [List.filterMap_cons, Outcome.adapter?, List.mem_cons]
    rintro other (rfl | hother)
    · exact ⟨wire, drv, hresting.mono hlater⟩
    · exact hrest other hother
  | failed _ _ ih | unregistered _ ih =>
    obtain ⟨hlater, hclaims, hrest⟩ := ih hbase unclaimed
      fun d hd => fresh d (List.mem_cons_of_mem _ hd)
    exact ⟨hlater, hclaims, by simpa [Outcome.adapter?] using hrest⟩

/-- The same of a registry's enumeration. -/
theorem enumerate_fresh {r : Registry} (plain : r.override = none) (sources : Sources)
    (unclaimed : ∀ net ∈ bench.wires, net.claimed = false)
    (fresh : ∀ registration ∈ r.registrations, registration.1.BuildsFresh bench.wires) :
    let report := (r.enumerate sources bench).1
    let listed := (r.enumerate sources bench).2
    bench.wires <+: listed.wires ∧ (∀ net ∈ listed.wires, net.claimed = false) ∧
      ∀ number ∈ report.adapters, ∃ adapter wire drv, listed.adapter? number = some adapter ∧
        Resting listed.wires adapter wire drv := by
  intro report listed
  obtain ⟨outcomes, wires, h⟩ :=
    exists_outcomes (r.resolve sources bench) (r.entries (r.resolve sources bench)) bench.wires
  have he := (enumerate_eq plain sources bench).trans (h.visitAll_eq {} rfl)
  have hlisted : listed = _ := congrArg Prod.snd he
  have hreport : report.adapters =
      List.range' bench.adapters.length (outcomes.filterMap (·.adapter?)).length := by
    simp [report, he]
  obtain ⟨hwires, hclaims, hrest⟩ := h.fresh List.prefix_rfl unclaimed fun descriptor hd => by
    obtain ⟨origin, hmem⟩ := mem_registrations_of_entry hd
    exact fresh _ hmem
  rw [hlisted]
  refine ⟨hwires, hclaims, fun number hnumber => ?_⟩
  rw [hreport] at hnumber
  have hmem := List.mem_map_of_mem hnumber
    (f := ({ bench with
      wires, adapters := bench.adapters ++ outcomes.filterMap (·.adapter?) } : Workbench).adapter?)
  rw [map_adapter?_range', List.mem_map] at hmem
  obtain ⟨adapter, hadapter, heq⟩ := hmem
  obtain ⟨wire, drv, hresting⟩ := hrest adapter hadapter
  exact ⟨adapter, wire, drv, heq.symm, hresting⟩

section Resting

variable {adapter : Adapter Hardware} {drv : Driver}

theorem Resting.unclaimed {wires : Wires} (h : Resting wires adapter wire drv)
    (unclaimed : ∀ net ∈ wires, net.claimed = false) : (wires.wire wire).claimed = false :=
  unclaimed _ (Wires.wire_mem h.lt_length)

variable (hadapter : bench.adapter? number = some adapter)
  (resting : Resting bench.wires adapter wire drv)
  (unclaimed : ∀ net ∈ bench.wires, net.claimed = false)

include hadapter resting unclaimed

/-- The adapter is on the port, and the wire has one port more. -/
theorem openOn_of_opens (around : Surroundings Workbench) (rounds : Nat) (name : String)
    (h : Opens port (bench.wires.wire wire) drv) :
    ∃ bench' adapter', openOn around (rounds + 1) name port number bench =
        (.adapter number, bench') ∧ bench'.adapter? number = some adapter' ∧
      adapter'.name = adapter.name ∧ adapter'.isHeld = false ∧ adapter'.portName = some port ∧
      bench'.wires = bench.wires.set wire { bench.wires.wire wire with
        attachedPorts := (bench.wires.wire wire).attachedPorts + 1 } := by
  have hself := Workbench.placed_self hadapter resting.line resting.lt_length
  have hn := (List.getElem?_eq_some_iff.mp hadapter).1
  obtain ⟨a', he, hname, hfree, hport, hline⟩ := openOn_opens hn resting.lt_length
    (a := adapter.map fun _ => (bench.wires.wire wire, drv)) resting.free rfl resting.detached
    (resting.unclaimed unclaimed) h
  rw [hself] at he
  refine ⟨_, _, he, Workbench.adapter?_placed hn a', hname, hfree, hport, ?_⟩
  exact congrArg (bench.wires.set wire) hline

/-- The wires are as they were. -/
theorem openOn_of_refuses (around : Surroundings Workbench) (rounds : Nat) {e : BusError}
    (h : Refuses name port (bench.wires.wire wire) drv e) :
    ∃ bench', openOn around (rounds + 1) name port number bench = (.failed e, bench') ∧
      bench'.wires = bench.wires := by
  have hself := Workbench.placed_self hadapter resting.line resting.lt_length
  have hn := (List.getElem?_eq_some_iff.mp hadapter).1
  obtain ⟨a', he, hline⟩ := openOn_refuses hn resting.lt_length
    (a := adapter.map fun _ => (bench.wires.wire wire, drv)) resting.free rfl resting.detached
    (resting.unclaimed unclaimed) h
  rw [hself] at he
  refine ⟨_, he, ?_⟩
  show bench.wires.set wire a'.line.1 = bench.wires
  rw [hline, Wires.set_wire resting.lt_length]

end Resting

/-! ## The adapter of a name -/

/-- The first adapter of that name, and the wire and the driver that it is for. -/
structure Candidate (bench : Workbench) (numbers : List Nat) (name : String) (number wire : Nat)
    (drv : Driver) : Prop where
  first : ∃ before since, numbers = before ++ number :: since ∧
    ∀ earlier ∈ before, ∀ a, bench.adapter? earlier = some a → a.name ≠ name
  adapter : ∃ a, bench.adapter? number = some a ∧ a.name = name ∧ a.line = .simulated wire drv

/-- The adapter is looked for by its name. -/
def named (bench : Workbench) (name : String) (number : Nat) : Bool :=
  (bench.adapter? number).any fun adapter => adapter.name == name

theorem named_eq_true_iff : named bench name number = true ↔
    ∃ a, bench.adapter? number = some a ∧ a.name = name := by
  simp [named, Option.any_eq_true]

theorem named_eq_false_iff : named bench name number = false ↔
    ∀ a, bench.adapter? number = some a → a.name ≠ name := by
  rw [← Bool.not_eq_true, named_eq_true_iff]
  simp

theorem Candidate.find?_eq {numbers : List Nat} {drv : Driver}
    (h : Candidate bench numbers name number wire drv) :
    numbers.find? (named bench name) = some number := by
  obtain ⟨before, since, hnumbers, hbefore⟩ := h.first
  obtain ⟨a, ha, hname, -⟩ := h.adapter
  rw [List.find?_eq_some_iff_append]
  refine ⟨named_eq_true_iff.mpr ⟨a, ha, hname⟩, before, since, hnumbers, fun earlier hearlier => ?_⟩
  simpa using named_eq_false_iff.mpr (hbefore earlier hearlier)

theorem Candidate.unique {numbers : List Nat} {number' wire' : Nat} {drv drv' : Driver}
    (h : Candidate bench numbers name number wire drv)
    (h' : Candidate bench numbers name number' wire' drv') :
    number = number' ∧ wire = wire' ∧ drv = drv' := by
  obtain rfl : number = number' := Option.some.inj (h.find?_eq.symm.trans h'.find?_eq)
  obtain ⟨a, ha, -, hline⟩ := h.adapter
  obtain ⟨a', ha', -, hline'⟩ := h'.adapter
  obtain rfl := Option.some.inj (ha.symm.trans ha')
  obtain ⟨rfl, rfl⟩ := Hardware.simulated.inj (hline.symm.trans hline')
  exact ⟨rfl, rfl, rfl⟩

theorem candidate_of_find? {numbers : List Nat} {adapter : Adapter Hardware} {drv : Driver}
    (h : numbers.find? (named bench name) = some number)
    (hadapter : bench.adapter? number = some adapter) (line : adapter.line = .simulated wire drv) :
    Candidate bench numbers name number wire drv := by
  obtain ⟨hnamed, before, since, hnumbers, hbefore⟩ := List.find?_eq_some_iff_append.mp h
  obtain ⟨a, ha, hname⟩ := named_eq_true_iff.mp hnamed
  refine ⟨⟨before, since, hnumbers, fun earlier hearlier => ?_⟩, a, ha, hname, ?_⟩
  · exact named_eq_false_iff.mp (by simpa using hbefore earlier hearlier)
  · obtain rfl := Option.some.inj (hadapter.symm.trans ha)
    exact line

/-! ## All together -/

section Get

variable {r : Registry} {sources : Sources}

theorem get_of_unnamed (plain : r.override = none)
    (h : (r.enumerate sources bench).1.adapters.find?
      (named (r.enumerate sources bench).2 name) = none) :
    r.get sources around rounds name port bench =
      (.failed (.adapterNotFound name), (r.enumerate sources bench).2) := by
  unfold named at h
  simp only [get, plain, h]

theorem get_of_named (plain : r.override = none)
    (h : (r.enumerate sources bench).1.adapters.find?
      (named (r.enumerate sources bench).2 name) = some number) :
    r.get sources around rounds name port bench =
      openOn around rounds name port number (r.enumerate sources bench).2 := by
  unfold named at h
  simp only [get, plain, h]

end Get

/-- Opening an adapter by its name, where every type fails or makes fresh adapters and no
wire has a claim. The enumeration leaves the wires that were there alone and may add
others. An adapter is opened if and only if there is one of that name, and the driver of
the first of these has the port, on a wire where selecting a port does not fail, the
probe does not fail and hardware is there. The adapter is then on that port and without
a session, and its wire counts one port more and has no claim; nothing else on the wires
has changed. Otherwise the wires are as the enumeration left them, and the error is the
first of these: no adapter of that name; no such port, or selecting it fails; the error
of the probe; no hardware. -/
theorem opens_cleanly_or_not_at_all (r : Registry) (plain : r.override = none) (sources : Sources)
    (around : Surroundings Workbench) (rounds : Nat) (name port : String) (bench : Workbench)
    (unclaimed : ∀ net ∈ bench.wires, net.claimed = false)
    (fresh : ∀ registration ∈ r.registrations, registration.1.BuildsFresh bench.wires) :
    let numbers := (r.enumerate sources bench).1.adapters
    let listed := (r.enumerate sources bench).2
    let opened := r.get sources around (rounds + 1) name port bench
    bench.wires <+: listed.wires ∧
    ((∃ number, opened.1 = .adapter number) ↔ ∃ number wire drv,
      Candidate listed numbers name number wire drv ∧ Opens port (listed.wires.wire wire) drv) ∧
    (∀ number, opened.1 = .adapter number → ∃ wire drv adapter,
      Candidate listed numbers name number wire drv ∧
      opened.2.adapter? number = some adapter ∧ adapter.name = name ∧ adapter.isHeld = false ∧
      adapter.portName = some port ∧
      let net := listed.wires.wire wire
      net.claimed = false ∧
      opened.2.wires =
        listed.wires.set wire { net with attachedPorts := net.attachedPorts + 1 }) ∧
    ((∀ number, opened.1 ≠ .adapter number) → opened.2.wires = listed.wires ∧
      ∃ e, opened.1 = .failed e ∧
        (e = .adapterNotFound name ∧
            (∀ number ∈ numbers, ∀ a, listed.adapter? number = some a → a.name ≠ name) ∨
          ∃ number wire drv, Candidate listed numbers name number wire drv ∧
            Refuses name port (listed.wires.wire wire) drv e)) := by
  intro numbers listed opened
  obtain ⟨hwires, hclaims, hresting⟩ := enumerate_fresh plain sources unclaimed fresh
  refine ⟨hwires, ?_⟩
  cases hfind : numbers.find? (named listed name) with
  | none =>
    have hopened : opened = (.failed (.adapterNotFound name), listed) := get_of_unnamed plain hfind
    have hnone : ∀ number ∈ numbers, named listed name number = false := by
      simpa using List.find?_eq_none.mp hfind
    rw [hopened]
    refine ⟨⟨by simp, ?_⟩, by simp, fun _ => ⟨rfl, _, rfl, .inl ⟨rfl, fun number hnumber => ?_⟩⟩⟩
    · rintro ⟨number, wire, drv, hcandidate, -⟩
      cases hfind.symm.trans hcandidate.find?_eq
    · exact named_eq_false_iff.mp (hnone number hnumber)
  | some number =>
    have hopened : opened = openOn around (rounds + 1) name port number listed :=
      get_of_named plain hfind
    obtain ⟨adapter, wire, drv, hadapter, hrest⟩ :=
      hresting number (List.mem_of_find?_eq_some hfind)
    have hcandidate := candidate_of_find? hfind hadapter hrest.line
    obtain ⟨a, ha, hname, -⟩ := hcandidate.adapter
    obtain rfl := Option.some.inj (hadapter.symm.trans ha)
    rcases opens_or_refuses name port (listed.wires.wire wire) drv with h | ⟨e, h⟩
    · obtain ⟨bench', adapter', he, hadapter', hname', hfree, hport, hwires'⟩ :=
        openOn_of_opens hadapter hrest hclaims around rounds name h
      rw [hopened, he]
      refine ⟨⟨fun _ => ⟨number, wire, drv, hcandidate, h⟩, fun _ => ⟨number, rfl⟩⟩, ?_, ?_⟩
      · intro number' hnumber'
        cases hnumber'
        exact ⟨wire, drv, adapter', hcandidate, hadapter', hname'.trans hname, hfree, hport,
          hrest.unclaimed hclaims, hwires'⟩
      · exact fun hne => absurd rfl (hne number)
    · obtain ⟨bench', he, hwires'⟩ := openOn_of_refuses hadapter hrest hclaims around rounds h
      rw [hopened, he]
      refine ⟨⟨by simp, ?_⟩, by simp, fun _ => ⟨hwires', e, rfl, ?_⟩⟩
      · rintro ⟨number', wire', drv', hcandidate', hopens⟩
        obtain ⟨rfl, rfl, rfl⟩ := hcandidate.unique hcandidate'
        exact absurd hopens h.not_opens
      · exact .inr ⟨number, wire, drv, hcandidate, h⟩

/-- A type that fails, and two types of working adapters, of which the second is on a
wire whose hardware is not there and does not answer: the first is opened, and the second
is found under the name of the type that fails, and leaves the wires alone. -/
theorem opens_cleanly_or_not_at_all_of_fault :
    let broken : Descriptor :=
      { name := "Serial", portType := "nowhere", capabilities := {}
        factory := fun _ _ => .error (.io "no hardware") }
    let r : Registry :=
      { config := { searchPaths := [] }
        registrations := [(broken, .builtIn), (.simulated "Bench", .builtIn),
          (.onWire "Serial" 0, .builtIn)] }
    let bench : Workbench :=
      { wires := [{ attachedPorts := 1, adapterPresent := false, probeError := true }] }
    let opened (name port : String) := r.get {} .quiet 1 name port bench
    (r.override = none ∧ (∀ net ∈ bench.wires, net.claimed = false) ∧
      ∀ registration ∈ r.registrations, registration.1.BuildsFresh bench.wires) ∧
      (∃ number adapter, (opened "Bench" "sim1").1 = .adapter number ∧
        (opened "Bench" "sim1").2.adapter? number = some adapter ∧
        adapter.portName = some "sim1") ∧
      (opened "Serial" "sim1").1 = .failed (.io "adapter probe timed out") ∧
      bench.wires <+: (opened "Serial" "sim1").2.wires := by
  intro broken r bench opened
  have unclaimed : ∀ net ∈ bench.wires, net.claimed = false := by simp [bench]
  have fresh : ∀ registration ∈ r.registrations, registration.1.BuildsFresh bench.wires := by
    simp only [r, List.mem_cons, List.not_mem_nil, or_false]
    rintro registration (rfl | rfl | rfl)
    · intro lookup wires adapter wires' _ h
      cases h
    · exact Descriptor.simulated_buildsFresh _ _
    · exact Descriptor.onWire_buildsFresh (by decide) _
  obtain ⟨-, hopens, hopened, -⟩ :=
    opens_cleanly_or_not_at_all r rfl {} .quiet 0 "Bench" "sim1" bench unclaimed fresh
  obtain ⟨hkept, -, -, hfails⟩ :=
    opens_cleanly_or_not_at_all r rfl {} .quiet 0 "Serial" "sim1" bench unclaimed fresh
  have hserial : (opened "Serial" "sim1").1 = .failed (.io "adapter probe timed out") := by
    decide +kernel
  refine ⟨⟨rfl, unclaimed, fresh⟩, ?_, hserial, ?_⟩
  · have hcandidate : ∃ number wire drv, Candidate (r.enumerate {} bench).2
        (r.enumerate {} bench).1.adapters "Bench" number wire drv ∧
          Opens "sim1" ((r.enumerate {} bench).2.wires.wire wire) drv :=
      ⟨0, 1, {}, ⟨⟨[], [1], by decide +kernel, by simp⟩, ⟨_, rfl, rfl, rfl⟩⟩,
        ⟨by decide, by decide +kernel, by decide +kernel, by decide +kernel⟩⟩
    obtain ⟨number, hnumber⟩ := hopens.mpr hcandidate
    obtain ⟨-, -, adapter, -, hadapter, -, -, hport, -⟩ := hopened number hnumber
    exact ⟨number, adapter, hnumber, hadapter, hport⟩
  · have hwires := (hfails fun number hnumber => by cases hserial.symm.trans hnumber).1
    exact hwires ▸ hkept

end Registry

end BusMaster
