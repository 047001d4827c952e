import BusMaster.Proofs.Record
import BusMaster.Proofs.Wire.Buffer
import BusMaster.Proofs.Wire.Frame

/-!
# What a primitive logs

What changes on a wire apart from the answers of its devices is told by the traffic:
each switch of power, each program pulse and each change of speed is an event of its
own. A primitive that fails changes nothing at all.

* `BusEvent.power?`, `BusEvent.speed?`: what an event tells;
* `Driver.Logs`: the events of some work, which say what it did;
* `Driver.Effect`: such events, and that the wire's count of ports moves with the
  driver's port;
* `Driver.perform_work`: what each primitive leaves alone (`perform_frame`) and what it
  does (`perform_effect`);
* `Driver.perform_of_error`: failures.
-/

namespace BusMaster

namespace BusEvent

/-- Whether strong power is on after the event; nothing if it does not switch
power. -/
def power? : BusEvent → Option Bool
  | strongPullup => some true
  | powerNormal => some false
  | _ => none

/-- The speed that the event sets. -/
def speed? : BusEvent → Option Speed
  | speed s => some s
  | _ => none

end BusEvent

namespace Driver

variable {net : Network} {drv : Driver} {s s' s'' : Network × Driver}
  {events more : List BusEvent}

/-- Work that logged these events, and what it did to power, pulses and speed. -/
structure Logs (events : List BusEvent) (s s' : Network × Driver) : Prop where
  traffic : s'.1.traffic = s.1.traffic ++ events
  strongPullup : s'.1.strongPullup = latest (·.power?) s.1.strongPullup events
  programPulses : s'.1.programPulses = s.1.programPulses + events.count .programPulse
  speed : s'.2.speed = latest (·.speed?) s.2.speed events

namespace Logs

/-- Work that leaves all four as they were. -/
theorem silent (traffic : s'.1.traffic = s.1.traffic)
    (strongPullup : s'.1.strongPullup = s.1.strongPullup)
    (programPulses : s'.1.programPulses = s.1.programPulses) (speed : s'.2.speed = s.2.speed) :
    Logs [] s s' :=
  ⟨by rw [traffic, List.append_nil], strongPullup, programPulses, speed⟩

theorem trans (h : Logs events s s') (h' : Logs more s' s'') : Logs (events ++ more) s s'' where
  traffic := by rw [h'.traffic, h.traffic, List.append_assoc]
  strongPullup := by rw [h'.strongPullup, h.strongPullup, latest_append]
  programPulses := by
    rw [h'.programPulses, h.programPulses, List.count_append, Nat.add_assoc]
  speed := by rw [h'.speed, h.speed, latest_append]

end Logs

/-- What work of a driver can do to the wire and to the driver itself. -/
structure Effect (s s' : Network × Driver) : Prop where
  capabilities : s'.2.capabilities = s.2.capabilities
  /-- The wire's count goes on counting this driver's port, beside those of the
  others. -/
  attachedPorts : ∀ others, s.1.attachedPorts = others + s.2.selected.isSome.toNat →
    s'.1.attachedPorts = others + s'.2.selected.isSome.toNat
  logged : ∃ events, Logs events s s'

namespace Effect

/-- Work that moves no port. -/
theorem of_logs (events : List BusEvent) (h : Logs events s s')
    (capabilities : s'.2.capabilities = s.2.capabilities)
    (attachedPorts : s'.1.attachedPorts = s.1.attachedPorts)
    (selected : s'.2.selected = s.2.selected) : Effect s s' where
  capabilities := capabilities
  attachedPorts others hothers := by rw [attachedPorts, selected, hothers]
  logged := ⟨events, h⟩

theorem refl (s : Network × Driver) : Effect s s :=
  .of_logs [] (.silent rfl rfl rfl rfl) rfl rfl rfl

theorem trans (h : Effect s s') (h' : Effect s' s'') : Effect s s'' where
  capabilities := h'.capabilities.trans h.capabilities
  attachedPorts others hothers := h'.attachedPorts others (h.attachedPorts others hothers)
  logged := by
    obtain ⟨events, hlogs⟩ := h.logged
    obtain ⟨more, hmore⟩ := h'.logged
    exact ⟨events ++ more, hlogs.trans hmore⟩

end Effect

/-- What a primitive leaves alone, and what it logs. -/
structure Work (moved : Bool) (s s' : Network × Driver) : Prop extends Frame moved s s', Effect s s'

namespace Work

variable {moved : Bool}

theorem refl (moved : Bool) (s : Network × Driver) : Work moved s s :=
  ⟨.refl moved s, .refl s⟩

theorem trans (h : Work moved s s') (h' : Work moved s' s'') : Work moved s s'' :=
  ⟨h.toFrame.trans h'.toFrame, h.toEffect.trans h'.toEffect⟩

/-- Work that moves no port. -/
theorem of_logs (events : List BusEvent) (logs : Logs events s s') (frame : Frame false s s')
    (capabilities : s'.2.capabilities = s.2.capabilities)
    (attachedPorts : s'.1.attachedPorts = s.1.attachedPorts) : Work moved s s' where
  toFrame := ⟨frame.toSameClaim, frame.short, frame.population, fun _ => frame.selected rfl⟩
  toEffect := .of_logs events logs capabilities attachedPorts (frame.selected rfl)

/-- An event that switches nothing. -/
theorem log (event : BusEvent) (power : event.power? = none) (speed : event.speed? = none)
    (pulse : event ≠ .programPulse) : Work moved (net, drv) (net.log event, drv) := by
  refine .of_logs [event] ⟨rfl, ?_, ?_, ?_⟩ ⟨⟨rfl, rfl⟩, rfl, rfl, fun _ => rfl⟩ rfl rfl
  · simp [latest, power, Network.log]
  · simp [pulse, Network.log]
  · simp [latest, speed]

/-- The driver comes to another place in the sequence of commands. -/
theorem phase (phase : Phase) : Work moved (net, drv) (net, { drv with phase }) :=
  .of_logs [] (.silent rfl rfl rfl rfl) ⟨⟨rfl, rfl⟩, rfl, rfl, fun _ => rfl⟩ rfl rfl

end Work

/-! ## The claim -/

theorem beginExclusive_effect (s : Network × Driver) : Effect s (beginExclusive s).2 := by
  rw [beginExclusive]
  split
  · exact .refl _
  · exact .of_logs [] (.silent rfl rfl rfl rfl) rfl rfl rfl

theorem endExclusive_effect (s : Network × Driver) : Effect s (endExclusive s) := by
  rw [endExclusive]
  split
  · exact .of_logs [] (.silent rfl rfl rfl rfl) rfl rfl rfl
  · exact .refl _

/-! ## Primitives -/

theorem takeResponse_work (net : Network) (drv : Driver) (a : Address) :
    Work false (net, drv) ((net.takeResponse a).2, drv) := by
  rw [Network.takeResponse]
  split
  · exact .of_logs [] (.silent rfl rfl rfl rfl)
      ⟨⟨rfl, rfl⟩, rfl, net.population_modify a fun _ => ⟨rfl, rfl⟩, fun _ => rfl⟩ rfl rfl
  · exact .refl _ _

theorem exchange_work (byte : UInt8) (s : Network × Driver) : Work false s (exchange byte s).2 := by
  obtain ⟨net, drv⟩ := s
  rw [exchange]
  split
  · exact .refl _ _
  · exact .phase _
  · exact .phase _
  · rename_i device _
    split
    · exact takeResponse_work net drv device
    · exact .refl _ _

theorem exchangeAll_work : ∀ (block : List UInt8) (s : Network × Driver),
    Work false s (exchangeAll block s).2
  | [], s => .refl _ s
  | byte :: block, s =>
    (exchange_work byte s).trans (exchangeAll_work block (exchange byte s).2)

/-- Armed power is logged when it comes on. -/
theorem fire_work (unit : PowerCondition) (s : Network × Driver) : Work false s (fire unit s) := by
  rw [fire]
  split
  · exact .of_logs [.strongPullup] ⟨rfl, rfl, rfl, rfl⟩ ⟨⟨rfl, rfl⟩, rfl, rfl, fun _ => rfl⟩ rfl rfl
  · exact .refl _ _

/-- The count goes up and down with the driver's own port, and so never below the
number of the others. -/
theorem attachTo_work (port : Option String) (s : Network × Driver) :
    Work true s (attachTo port s) := by
  obtain ⟨net, drv⟩ := s
  refine ⟨⟨⟨rfl, rfl⟩, rfl, rfl, fun h => absurd h (by decide)⟩, rfl, fun others hothers => ?_, [],
    .silent rfl rfl rfl rfl⟩
  -- A port is given up only by a driver that the count includes.
  dsimp only at hothers
  rw [attachTo]
  dsimp only
  cases hs : drv.selected.isSome <;> cases hp : port.isSome <;> rw [hs] at hothers <;>
    simp only [Bool.toNat_true, Bool.toNat_false] at hothers ⊢ <;> omega

theorem searchStep_work (lastDiscrepancy : Nat) (command : SearchCommand) (skipReset : Bool)
    (buffer : Address) (s : Network × Driver) :
    Work false s (searchStep lastDiscrepancy command skipReset (buffer, s)).2.2 := by
  obtain ⟨net, drv⟩ := s
  rw [searchStep]
  split
  · exact .refl _ _
  · exact (Work.log (.search command.opcode lastDiscrepancy skipReset) rfl rfl (by simp)).trans
      (.phase _)

theorem transferBlock_work (block : List UInt8) (s : Network × Driver) :
    Work false s (transferBlock (block, s)).2.2 := by
  obtain ⟨net, drv⟩ := s
  rw [transferBlock]
  split
  · exact .refl _ _
  · exact (Work.log (.block block) rfl rfl (by simp)).trans (exchangeAll_work block _)

theorem perform_work (primitive : Primitive) (s : Network × Driver) :
    Work primitive.movesPort s (perform primitive s).2 := by
  obtain ⟨net, drv⟩ := s
  rw [perform]
  split
  · exact .refl _ _
  cases primitive with
  | selectPort port =>
    rw [performAttached]
    split
    · exact .refl _ _
    · split <;> exact attachTo_work _ _
  | freePort => exact attachTo_work none _
  | detect =>
    rw [performAttached]
    split
    · exact .refl _ _
    · split <;> exact .refl _ _
  | reset => exact (Work.log (.reset net.resetResult) rfl rfl (by simp)).trans (.phase _)
  | search pass =>
    exact searchStep_work pass.lastDiscrepancy pass.command pass.skipReset pass.seed (net, drv)
  | writeBit bit => exact (Work.log (.writeBit bit) rfl rfl (by simp)).trans (fire_work _ _)
  | readBit => exact (Work.log (.readBit true) rfl rfl (by simp)).trans (fire_work _ _)
  | writeByte byte =>
    exact ((Work.log (.writeByte byte) rfl rfl (by simp)).trans (exchange_work byte _)).trans
      (fire_work _ _)
  | readByte =>
    have hread := exchange_work 0xFF (net, drv)
    rw [performAttached]
    generalize exchange 0xFF (net, drv) = r at hread
    obtain ⟨byte, net', drv'⟩ := r
    exact (hread.trans (.log (.readByte byte) rfl rfl (by simp))).trans (fire_work _ _)
  | transfer block => exact transferBlock_work block (net, drv)
  | setSpeed speed =>
    rw [performAttached]
    split
    · exact .refl _ _
    · exact .of_logs [.speed speed] ⟨rfl, rfl, rfl, rfl⟩ ⟨⟨rfl, rfl⟩, rfl, rfl, fun _ => rfl⟩ rfl rfl
  | setPowerDuration | setPulseDuration =>
    rw [performAttached]
    split <;> exact .refl _ _
  | startPower condition =>
    rw [performAttached]
    split
    · exact .of_logs [.strongPullup] ⟨rfl, rfl, rfl, rfl⟩ ⟨⟨rfl, rfl⟩, rfl, rfl, fun _ => rfl⟩
        rfl rfl
    · exact .of_logs [] (.silent rfl rfl rfl rfl) ⟨⟨rfl, rfl⟩, rfl, rfl, fun _ => rfl⟩ rfl rfl
  | startPulse condition =>
    rw [performAttached]
    split
    · exact .of_logs [.programPulse] ⟨rfl, rfl, rfl, rfl⟩ ⟨⟨rfl, rfl⟩, rfl, rfl, fun _ => rfl⟩
        rfl rfl
    · exact .refl _ _
  | setPowerNormal =>
    exact .of_logs [.powerNormal] ⟨rfl, rfl, rfl, rfl⟩ ⟨⟨rfl, rfl⟩, rfl, rfl, fun _ => rfl⟩ rfl rfl

/-- No primitive opens or closes the wire, or changes which devices are on it, and
only those that move the port change the port. -/
theorem perform_frame (primitive : Primitive) (s : Network × Driver) :
    Frame primitive.movesPort s (perform primitive s).2 :=
  (perform_work primitive s).toFrame

theorem perform_effect (primitive : Primitive) (s : Network × Driver) :
    Effect s (perform primitive s).2 :=
  (perform_work primitive s).toEffect

/-! ## Failures -/

/-- Every check that a primitive makes comes before all that it changes. -/
theorem perform_answers_or_stays (primitive : Primitive) (s : Network × Driver) :
    (∃ answer, (perform primitive s).1 = .ok answer) ∨ (perform primitive s).2 = s := by
  obtain ⟨net, drv⟩ := s
  rw [perform]
  split
  · exact .inr rfl
  cases primitive with
  | selectPort =>
    rw [performAttached]
    split
    · exact .inr rfl
    · split <;> exact .inl ⟨_, rfl⟩
  | detect =>
    rw [performAttached]
    split
    · exact .inl ⟨_, rfl⟩
    · split
      · exact .inr rfl
      · exact .inl ⟨_, rfl⟩
  | freePort | reset | writeBit | readBit | writeByte | readByte | setPowerNormal =>
    exact .inl ⟨_, rfl⟩
  | search pass =>
    exact (perform_search_answers_or_stays pass (net, drv)).imp_right (congrArg Prod.snd)
  | transfer block =>
    exact (perform_transfer_answers_or_stays block (net, drv)).imp_right (congrArg Prod.snd)
  | setSpeed =>
    rw [performAttached]
    split
    · exact .inr rfl
    · exact .inl ⟨_, rfl⟩
  | setPowerDuration | setPulseDuration | startPulse =>
    rw [performAttached]
    split
    · exact .inl ⟨_, rfl⟩
    · exact .inr rfl
  | startPower =>
    rw [performAttached]
    split <;> exact .inl ⟨_, rfl⟩

theorem perform_of_error {primitive : Primitive} {e : BusError}
    (h : (perform primitive s).1 = .error e) : (perform primitive s).2 = s :=
  stays_of_error (perform_answers_or_stays primitive s) h

end Driver

end BusMaster
