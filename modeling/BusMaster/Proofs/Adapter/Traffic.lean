import BusMaster.Proofs.Adapter.History

/-!
# What the traffic tells

The traffic of a wire is a record of all that was done over it. Unless it was cleared,
it tells whether strong power is on, how many program pulses there were, and how fast
the only driver of a wire talks.

* `latest_power?_eq_true_iff`: strong power is on after a switch to it, and until one
  back;
* `Site.Explained`: the wire and its parties against the traffic, kept by every turn
  (`Explained.turn`);
* `Site.traffic_explains`: all together, after every history.
-/

namespace BusMaster

/-- By induction on the events, the latest one last. -/
theorem latest_power?_eq_true_iff (events : List BusEvent) :
    latest (·.power?) false events = true ↔
      (events.filter fun event => event = .strongPullup ∨ event = .powerNormal).getLast? =
        some .strongPullup := by
  induction events using List.reverseRecOn with
  | nil => simp [latest]
  | append_singleton events event ih =>
    rw [latest_append, List.filter_append]
    cases event with
    | strongPullup => simp [latest, BusEvent.power?]
    | powerNormal => simp [latest, BusEvent.power?]
    | reset | search | writeBit | readBit | writeByte | readByte | block | speed | programPulse =>
      simpa [latest, BusEvent.power?] using ih

namespace Site

variable {s s' : Site} {m : Move}

/-- The traffic tells what is on, how often there was a pulse, and how fast a driver
talks that has always been alone. -/
structure Explained (s : Site) : Prop where
  strongPullup : s.net.strongPullup = latest (·.power?) false s.net.traffic
  programPulses : s.net.programPulses = s.net.traffic.count .programPulse
  /-- There is no traffic before the first driver. -/
  silent : s.parties = [] → s.net.traffic = []
  speed : ∀ drv, s.parties = [drv] → drv.speed = latest (·.speed?) .regular s.net.traffic

theorem explained_bare : Explained bare :=
  ⟨rfl, rfl, fun _ => rfl, fun drv hone => absurd hone.symm (List.cons_ne_nil drv [])⟩

/-- A change of the wire that makes no traffic and switches no power. -/
theorem Explained.of_silent (h : Explained s) (traffic : s'.net.traffic = s.net.traffic)
    (strongPullup : s'.net.strongPullup = s.net.strongPullup)
    (programPulses : s'.net.programPulses = s.net.programPulses)
    (parties : s'.parties.Perm s.parties) : Explained s' where
  strongPullup := by rw [strongPullup, traffic, h.strongPullup]
  programPulses := by rw [programPulses, traffic, h.programPulses]
  silent hnone := by
    rw [hnone] at parties
    rw [traffic, h.silent parties.nil_eq.symm]
  speed drv hone := by
    rw [hone] at parties
    rw [traffic, h.speed drv (List.singleton_perm.mp parties).symm]

/-- What the work of a party changes, its events tell; and a driver that joins an empty
wire finds no traffic. -/
theorem Explained.turn (h : Explained s) (turn : Turn s s' m)
    (uncleared : m ≠ .change .clearTraffic) : Explained s' := by
  cases turn with
  | changes change net parties =>
    obtain ⟨htraffic, hpower, hpulses⟩ := change.run_silent s.net fun hc => uncleared (hc ▸ rfl)
    rw [← net] at htraffic hpower hpulses
    exact h.of_silent htraffic hpower hpulses (.of_eq parties)
  | joins ports capabilities net parties =>
    refine ⟨net ▸ h.strongPullup, net ▸ h.programPulses, fun hnone => ?_, fun drv hone => ?_⟩
    · rw [hnone] at parties
      cases parties.nil_eq
    · rw [hone] at parties
      obtain ⟨rfl, hnone⟩ := List.cons.inj (List.singleton_perm.mp parties)
      rw [net, h.silent hnone.symm]
      rfl
  | stays quiet net parties =>
    exact h.of_silent (congrArg _ net) (congrArg _ net) (congrArg _ net) parties
  | works drv drv' others quiet before after effect addresses =>
    obtain ⟨events, hlogs⟩ := effect.logged
    refine ⟨?_, ?_, fun hnone => ?_, fun d hone => ?_⟩
    · rw [hlogs.strongPullup, hlogs.traffic, latest_append]
      exact congrArg (latest _ · events) h.strongPullup
    · rw [hlogs.programPulses, hlogs.traffic, List.count_append]
      exact congrArg (· + _) h.programPulses
    · rw [hnone] at after
      cases after.nil_eq
    · -- Nobody leaves, so a party that is alone now was alone before its work.
      rw [hone] at after
      obtain ⟨rfl, rfl⟩ := List.cons.inj (List.singleton_perm.mp after)
      rw [hlogs.speed, hlogs.traffic, latest_append]
      exact congrArg (latest _ · events) (h.speed drv (List.perm_singleton.mp before))

theorem explained_after {history : List Move} (uncleared : .change .clearTraffic ∉ history) :
    Explained (after history) := by
  induction history using List.reverseRecOn with
  | nil => exact explained_bare
  | append_singleton history m ih =>
    rw [List.mem_append, not_or, List.mem_singleton] at uncleared
    rw [after_snoc]
    exact (ih uncleared.1).turn (turn_move _ m) (Ne.symm uncleared.2)

/-! ## All together -/

/-- After a history in which the traffic was not cleared, strong power is on exactly if
the last switch in the traffic is one to it, there were as many program pulses as the
traffic has, and a driver that is alone talks at the speed that the traffic set last.
Whatever the state of a wire, a primitive that succeeds only adds to the traffic. -/
theorem traffic_explains (history : List Move) (uncleared : .change .clearTraffic ∉ history) :
    let s := after history
    (s.net.strongPullup = true ↔
      (s.net.traffic.filter fun event => event = .strongPullup ∨ event = .powerNormal).getLast? =
        some .strongPullup) ∧
    s.net.programPulses = s.net.traffic.count .programPulse ∧
    (∀ drv, s.parties = [drv] →
      drv.speed = (s.net.traffic.filterMap (·.speed?)).getLast?.getD .regular) ∧
    ∀ (primitive : Primitive) (wire : Network × Driver) (answer : primitive.Answer),
      (Driver.perform primitive wire).1 = .ok answer →
        wire.1.traffic <+: (Driver.perform primitive wire).2.1.traffic := by
  intro s
  have hexplained := explained_after uncleared
  refine ⟨?_, hexplained.programPulses, hexplained.speed, fun primitive wire answer _ => ?_⟩
  · rw [← latest_power?_eq_true_iff, ← hexplained.strongPullup]
  · obtain ⟨events, hlogs⟩ := (Driver.perform_effect primitive wire).logged
    rw [hlogs.traffic]
    exact List.prefix_append _ _

/-- A driver that arms strong power, sends a byte at another speed and pulses. The power
comes on with the byte, and a speed that the driver lacks leaves no trace. -/
theorem traffic_explains_of_armed :
    let history : List Move := [.change (.attach ⟨1⟩ false),
      .join ["sim0"] ({} : Driver).capabilities,
      .step (.driver 0 (.perform (.selectPort "sim0"))),
      .step (.driver 0 (.perform (.startPower .afterNextByte))),
      .step (.driver 0 (.perform (.setSpeed .overdrive))),
      .step (.driver 0 (.perform (.writeByte 7))), .step (.driver 0 (.perform (.startPulse .now))),
      .step (.driver 0 (.perform .setPowerNormal)),
      .step (.driver 0 (.perform (.startPower .now))),
      .step (.driver 0 (.perform (.setSpeed .hyperdrive)))]
    let s := after history
    .change .clearTraffic ∉ history ∧
      s.net.traffic = [.speed .overdrive, .writeByte 7, .strongPullup, .programPulse, .powerNormal,
        .strongPullup] ∧
      s.net.strongPullup = true ∧ s.net.programPulses = 1 ∧
      s.parties.map (·.speed) = [.overdrive] := by
  intro history s
  have uncleared : .change .clearTraffic ∉ history := by decide
  have htraffic : s.net.traffic = [.speed .overdrive, .writeByte 7, .strongPullup, .programPulse,
      .powerNormal, .strongPullup] := by
    decide +kernel
  obtain ⟨hpower, hpulses, hspeed, -⟩ := traffic_explains history uncleared
  obtain ⟨drv, hone⟩ : ∃ drv, s.parties = [drv] := List.length_eq_one_iff.mp (by decide +kernel)
  rw [htraffic] at hpower hpulses hspeed
  refine ⟨uncleared, htraffic, hpower.mpr (by decide), hpulses, ?_⟩
  rw [hone, List.map_singleton, hspeed drv hone]
  rfl

end Site

end BusMaster
