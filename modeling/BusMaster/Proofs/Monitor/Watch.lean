import BusMaster.Monitor.Watch
import BusMaster.Proofs.Adapter.Session
import BusMaster.Proofs.Monitor.DeviceSet

/-!
# What a watch prints

A watch is told the results of scans, one after the other, and prints what changed.
Whatever these results are, its lines tell which devices the latest scan found that
did not fail.

* `ScanResult.ending`: the results that end a watch;
* `lastFound`: the devices that a course of scans comes to;
* `DeviceSet.watch_append`: a watch goes on from where it stands;
* `Told`: what the lines say, kept by each scan (`Told.found`, `Told.failed`) and so
  by any course of them (`Told.watch`);
* `Adapter.watch_eq`: the watch of an adapter is told the results of its own scans;
* `watch_exact`: all together.
-/

namespace BusMaster

/-! ## Courses of scans -/

/-- How a watch ends that is told such a result; nothing if it goes on. -/
def ScanResult.ending : ScanResult → Option WatchEnd
  | found _ => none
  | cancelled => some .cancelled
  | failed e => if e.isIo then none else some (.failed e)
  | unsettled => some .running

/-- The devices that the scan found, unless it failed. -/
def ScanResult.found? : ScanResult → Option (List Address)
  | found addresses => some addresses
  | cancelled | failed _ | unsettled => none

/-- The devices that the latest scan found that did not fail, and none before the
first one. -/
def lastFound (heard : List ScanResult) : Finset Address :=
  ((heard.filterMap (·.found?)).getLast?.getD []).toFinset

theorem lastFound_found (heard : List ScanResult) (scan : List Address) :
    lastFound (heard ++ [.found scan]) = scan.toFinset := by
  rw [lastFound, List.filterMap_append]
  simp [ScanResult.found?]

theorem lastFound_failed (heard : List ScanResult) (e : BusError) :
    lastFound (heard ++ [.failed e]) = lastFound heard := by
  rw [lastFound, List.filterMap_append, lastFound]
  simp [ScanResult.found?]

namespace DeviceSet

variable {devices : DeviceSet} {result : ScanResult} {ending : WatchEnd}

theorem observe_of_ending (h : result.ending = some ending) :
    devices.observe result = .stop ending := by
  cases result with
  | found scan => cases h
  | cancelled | unsettled =>
    cases h
    rfl
  | failed e =>
    rw [ScanResult.ending] at h
    rw [observe]
    split at h
    · cases h
    · rename_i hio
      cases h
      rw [if_neg hio]

theorem observe_of_goesOn (h : result.ending = none) (devices : DeviceSet) :
    ∃ events after, devices.observe result = .goOn events after := by
  cases result with
  | found scan => exact ⟨_, _, rfl⟩
  | cancelled | unsettled => cases h
  | failed e =>
    rw [ScanResult.ending] at h
    split at h
    · rename_i hio
      exact ⟨[], devices, if_pos hio⟩
    · cases h

/-- Nothing is heard after a result that ends the watch. -/
theorem watch_of_ending (h : result.ending = some ending) (devices : DeviceSet)
    (rest : List ScanResult) : watch (result :: rest) devices = ([], devices, ending) := by
  rw [watch, observe_of_ending h]

variable {heard : List ScanResult}

theorem running_of_goesOn (h : ∀ result ∈ heard, result.ending = none) (devices : DeviceSet) :
    (watch heard devices).2.2 = .running := by
  induction heard generalizing devices with
  | nil => rfl
  | cons result heard ih =>
    obtain ⟨hfirst, hrest⟩ := List.forall_mem_cons.mp h
    obtain ⟨events, after, he⟩ := observe_of_goesOn hfirst devices
    rw [watch, he]
    exact ih hrest after

/-- A watch that has not ended goes on with the devices it knows then. -/
theorem watch_append (h : ∀ result ∈ heard, result.ending = none) (rest : List ScanResult)
    (devices : DeviceSet) :
    watch (heard ++ rest) devices =
      ((watch heard devices).1 ++ (watch rest (watch heard devices).2.1).1,
        (watch rest (watch heard devices).2.1).2) := by
  induction heard generalizing devices with
  | nil => rfl
  | cons result heard ih =>
    obtain ⟨hfirst, hrest⟩ := List.forall_mem_cons.mp h
    obtain ⟨events, after, he⟩ := observe_of_goesOn hfirst devices
    rw [List.cons_append, watch, watch, he]
    dsimp only
    rw [ih hrest after, List.append_assoc]

/-- One scan that finds devices. -/
theorem Holds.watch_found {before : Finset Address} (h : devices.Holds before)
    (scan : List Address) :
    ∃ departures arrivals, Difference before scan.toFinset departures arrivals ∧
      watch [.found scan] devices =
        (departures.map .departed ++ arrivals.map .arrived, ofScan scan, .running) := by
  obtain ⟨departures, arrivals, hd, hu⟩ := h.update scan
  refine ⟨departures, arrivals, hd, ?_⟩
  rw [watch, observe, hu]
  simp only [watch, List.append_nil]

/-- One scan that fails on the bus. -/
theorem watch_failed {e : BusError} (io : e.isIo = true) (devices : DeviceSet) :
    watch [.failed e] devices = ([], devices, .running) := by
  rw [watch, observe, if_pos io]
  rfl

end DeviceSet

theorem BusError.isIo_of_goesOn {e : BusError} (h : (ScanResult.failed e).ending = none) :
    e.isIo = true := by
  rw [ScanResult.ending] at h
  by_contra hio
  rw [if_neg hio] at h
  cases h

/-! ## What the lines say -/

/-- What a watch printed and which devices it knows, after some scans. -/
structure Told (heard : List ScanResult) (printed : List WatchEvent) (devices : DeviceSet) :
    Prop where
  known : devices.Holds (lastFound heard)
  replayed : replay printed = lastFound heard
  /-- Comings and goings take turns, and the latest is a coming if the device is
  there. -/
  alternate : ∀ a, ∃ n, changesOf a printed = alternating n ∧
    (a ∈ lastFound heard ↔ n % 2 = 1)

namespace Told

variable {heard : List ScanResult} {printed : List WatchEvent} {devices : DeviceSet}
  {departures arrivals : List Address}

theorem nothing : Told [] [] {} where
  known := DeviceSet.holds_nothing
  replayed := rfl
  alternate a := ⟨0, rfl, by simp [lastFound]⟩

/-- A scan that finds devices: what it tells of each one fits what was told of it
before. -/
theorem found (h : Told heard printed devices) (scan : List Address)
    (hd : DeviceSet.Difference (lastFound heard) scan.toFinset departures arrivals) :
    Told (heard ++ [.found scan])
      (printed ++ (departures.map .departed ++ arrivals.map .arrived)) (.ofScan scan) where
  known := by
    rw [lastFound_found]
    exact DeviceSet.holds_ofScan scan
  replayed := by
    have hbefore := h.replayed
    rw [replay] at hbefore ⊢
    rw [List.foldl_append, hbefore, lastFound_found, hd.foldl_apply]
  alternate a := by
    obtain ⟨n, hn, hodd⟩ := h.alternate a
    rw [changesOf_append, hn, hd.changesOf_eq, lastFound_found]
    by_cases hb : a ∈ lastFound heard <;> by_cases ha : a ∈ scan.toFinset
    · exact ⟨n, by simp [hb, ha], iff_of_true ha (hodd.mp hb)⟩
    · have hleft : n % 2 = 1 := hodd.mp hb
      refine ⟨n + 1, ?_, iff_of_false ha (by omega)⟩
      rw [alternating_succ, decide_eq_false (by omega)]
      simp [hb, ha]
    · have hnew : ¬ n % 2 = 1 := mt hodd.mpr hb
      refine ⟨n + 1, ?_, iff_of_true ha (by omega)⟩
      rw [alternating_succ, decide_eq_true (by omega)]
      simp [hb, ha]
    · exact ⟨n, by simp [hb, ha], iff_of_false ha (mt hodd.mpr hb)⟩

/-- A scan that fails tells nothing. -/
theorem failed (h : Told heard printed devices) (e : BusError) :
    Told (heard ++ [.failed e]) printed devices := by
  have hsame := lastFound_failed heard e
  exact ⟨hsame ▸ h.known, hsame ▸ h.replayed, hsame ▸ h.alternate⟩

/-- By induction on the scans, the latest one last. -/
theorem watch (goesOn : ∀ result ∈ heard, result.ending = none) :
    Told heard (DeviceSet.watch heard {}).1 (DeviceSet.watch heard {}).2.1 := by
  induction heard using List.reverseRecOn with
  | nil => exact nothing
  | append_singleton heard result ih =>
    obtain ⟨hheard, hresult⟩ := List.forall_mem_append.mp goesOn
    have hresult := List.forall_mem_singleton.mp hresult
    have ih := ih hheard
    rw [DeviceSet.watch_append hheard]
    cases result with
    | found scan =>
      obtain ⟨departures, arrivals, hd, hscan⟩ := ih.known.watch_found scan
      rw [hscan]
      exact ih.found scan hd
    | failed e =>
      rw [DeviceSet.watch_failed (BusError.isIo_of_goesOn hresult), List.append_nil]
      exact ih.failed e
    | cancelled | unsettled => cases hresult

end Told

/-! ## The watch of an adapter -/

/-- The results of scans of an adapter's bus, one after the other. -/
def Adapter.scans {σ : Type} (t : Transport σ) (rounds : Nat) (options : ScanOptions) :
    (ticks : Nat) → Adapter σ → List ScanResult
  | 0, _ => []
  | ticks + 1, a =>
    let (result, a) := a.scan t rounds options false
    result :: scans t rounds options ticks a

/-- The watch of an adapter is told the results of its scans, up to one that ends
it. -/
theorem Adapter.watch_eq {σ : Type} (t : Transport σ) (rounds : Nat) (options : ScanOptions)
    (ticks : Nat) (devices : DeviceSet) (a : Adapter σ) :
    (Adapter.watch t rounds options ticks devices a).1 =
      ((DeviceSet.watch (a.scans t rounds options ticks) devices).1,
        (DeviceSet.watch (a.scans t rounds options ticks) devices).2.2) := by
  induction ticks generalizing devices a with
  | zero => rfl
  | succ ticks ih =>
    rw [Adapter.watch, scans]
    generalize a.scan t rounds options false = scanned
    obtain ⟨result, a'⟩ := scanned
    dsimp only
    rw [DeviceSet.watch]
    cases devices.observe result with
    | stop ending => rfl
    | goOn events after =>
      exact congrArg (fun watched => (events ++ watched.1, watched.2)) (ih after a')

/-! ## All together -/

/-- After any scans that did not end it, a watch has printed what leads to the
devices that the latest of them found, arrivals and departures of each device in
turns. The next scan adds what changed, departures first; a failure on the bus adds
nothing and changes nothing; and at a cancelled scan or another failure the watch
ends, without a word. The watch of an adapter is told the scans of its bus. -/
theorem watch_exact (heard : List ScanResult) (goesOn : ∀ result ∈ heard, result.ending = none)
    (next : ScanResult) (rest : List ScanResult) :
    let printed := (DeviceSet.watch heard {}).1
    let devices := (DeviceSet.watch heard {}).2.1
    (DeviceSet.watch heard {}).2.2 = .running ∧
    replay printed = lastFound heard ∧
    devices.known.toFinset = lastFound heard ∧
    (∀ a, ∃ n, changesOf a printed = alternating n) ∧
    printed <+: (DeviceSet.watch (heard ++ next :: rest) {}).1 ∧
    (match next with
    | .found scan =>
      ∃ departures arrivals : List Address,
        DeviceSet.watch (heard ++ [next]) {} =
          (printed ++ (departures.map .departed ++ arrivals.map .arrived), .ofScan scan,
            .running) ∧
        departures.Pairwise (· < ·) ∧ arrivals.Pairwise (· < ·) ∧ (departures ++ arrivals).Nodup ∧
        (∀ a, a ∈ departures ↔ a ∈ lastFound heard ∧ a ∉ scan) ∧
        (∀ a, a ∈ arrivals ↔ a ∈ scan ∧ a ∉ lastFound heard)
    | .failed e =>
      if e.isIo then DeviceSet.watch (heard ++ [next]) {} = (printed, devices, .running)
      else DeviceSet.watch (heard ++ next :: rest) {} = (printed, devices, .failed e)
    | .cancelled => DeviceSet.watch (heard ++ next :: rest) {} = (printed, devices, .cancelled)
    | .unsettled => DeviceSet.watch (heard ++ next :: rest) {} = (printed, devices, .running)) ∧
    ∀ (σ : Type) (t : Transport σ) (rounds : Nat) (options : ScanOptions) (ticks : Nat)
      (a : Adapter σ),
      (Adapter.watch t rounds options ticks {} a).1 =
        ((DeviceSet.watch (a.scans t rounds options ticks) {}).1,
          (DeviceSet.watch (a.scans t rounds options ticks) {}).2.2) := by
  intro printed devices
  have told := Told.watch goesOn
  have happend := fun rest => DeviceSet.watch_append goesOn rest {}
  refine ⟨DeviceSet.running_of_goesOn goesOn {}, told.replayed, ?_, fun a => ?_, ?_, ?_, ?_⟩
  · ext a
    rw [List.mem_toFinset, told.known.mem_iff]
  · obtain ⟨n, hn, -⟩ := told.alternate a
    exact ⟨n, hn⟩
  · rw [happend]
    exact List.prefix_append _ _
  · cases next with
    | found scan =>
      obtain ⟨departures, arrivals, hd, hscan⟩ := told.known.watch_found scan
      refine ⟨departures, arrivals, ?_, hd.departures_sorted, hd.arrivals_sorted, hd.nodup, ?_, ?_⟩
      · rw [happend, hscan]
      · simpa using hd.mem_departures
      · simpa using hd.mem_arrivals
    | failed e =>
      dsimp only
      split
      · rename_i io
        rw [happend, DeviceSet.watch_failed io, List.append_nil]
      · rename_i io
        have hend : (ScanResult.failed e).ending = some (.failed e) := if_neg io
        rw [happend, DeviceSet.watch_of_ending hend, List.append_nil]
    | cancelled =>
      dsimp only
      rw [happend, DeviceSet.watch_of_ending rfl, List.append_nil]
    | unsettled =>
      dsimp only
      rw [happend, DeviceSet.watch_of_ending rfl, List.append_nil]
  · intro σ t rounds options ticks a
    exact Adapter.watch_eq t rounds options ticks {} a

/-- Two scans with a failure between them, then a cancelled one. The first scan heard
the second device twice. -/
theorem watch_exact_of_retry :
    let heard : List ScanResult := [.found [⟨2⟩, ⟨1⟩, ⟨2⟩], .failed (.io "timeout"),
      .found [⟨3⟩, ⟨1⟩]]
    let printed : List WatchEvent := [.arrived ⟨1⟩, .arrived ⟨2⟩, .departed ⟨2⟩, .arrived ⟨3⟩]
    (∀ result ∈ heard, result.ending = none) ∧ (DeviceSet.watch heard {}).1 = printed ∧
      replay printed = {⟨1⟩, ⟨3⟩} ∧
      DeviceSet.watch (heard ++ [.cancelled, .found []]) {} =
        (printed, ⟨[⟨1⟩, ⟨3⟩]⟩, .cancelled) := by
  intro heard printed
  have goesOn : ∀ result ∈ heard, result.ending = none := by decide
  have hprinted : (DeviceSet.watch heard {}).1 = printed := by decide +kernel
  have hdevices : (DeviceSet.watch heard {}).2.1 = ⟨[⟨1⟩, ⟨3⟩]⟩ := by decide +kernel
  have hlast : lastFound heard = {⟨1⟩, ⟨3⟩} := by decide +kernel
  obtain ⟨-, hreplayed, -, -, -, hcancelled, -⟩ := watch_exact heard goesOn .cancelled [.found []]
  rw [hprinted, hlast] at hreplayed
  rw [hprinted, hdevices] at hcancelled
  exact ⟨goesOn, hprinted, hreplayed, hcancelled⟩

end BusMaster
