import BusMaster.Proofs.Adapter.Bookkeeping
import BusMaster.Proofs.Wire.Conversation

/-!
# Failures

What fails has done nothing. A primitive checks all that it needs before it changes
anything, a session asks for the service before it calls its transport, and a search
that fails only notes that its enumeration cannot go on.

* `Driver.findNext_of_failed`, `Driver.select_of_error`: requests of several primitives
  fail at their first one, or not at all;
* `Bus.perform_of_error`, `Bus.perform_of_lacking`: primitives through a session;
* `Bus.transferBlock`: a block through a session, in the buffer of the caller;
* `failures_change_nothing`: all together.
-/

namespace BusMaster

open Driver (recorded)

namespace Driver

variable {s : Network × Driver} {e : BusError} {primitive : Primitive} {missing : Capability}

/-! ## A driver -/

/-- Work that asks for nothing but a port never says that a service is not supported. -/
theorem ne_unsupported {α β : Type} {outcome : Except BusError α × β} {before : β}
    (h : (∃ answer, outcome.1 = .ok answer) ∨ outcome = (.error .portNotSelected, before)) :
    outcome.1 ≠ .error (.capabilityUnsupported missing) := by
  rcases h with ⟨answer, hok⟩ | hstays
  · rw [hok]
    exact nofun
  · rw [hstays]
    exact nofun

/-- Only a driver that lacks a service says that it is not supported. -/
theorem required_of_error (h : (perform primitive s).1 = .error (.capabilityUnsupported missing)) :
    primitive.required.filter (!s.2.capabilities.supports ·) = some missing := by
  obtain ⟨net, drv⟩ := s
  rw [perform] at h
  split at h
  · cases h
  cases primitive with
  | setSpeed speed =>
    rw [performAttached] at h
    split at h
    · rename_i lacking hlacking
      cases h
      exact hlacking
    · cases h
  | selectPort | detect =>
    rw [performAttached] at h
    split at h
    · cases h
    · split at h <;> cases h
  | search pass => exact absurd h (ne_unsupported (perform_search_answers_or_stays pass (net, drv)))
  | transfer block =>
    exact absurd h (ne_unsupported (perform_transfer_answers_or_stays block (net, drv)))
  | freePort | reset | writeBit | readBit | writeByte | readByte | setPowerNormal => cases h
  | setPowerDuration | setPulseDuration | startPower | startPulse =>
    rw [performAttached] at h
    split at h <;> cases h

/-- Without a port, a primitive that is not begun without one fails at once. -/
theorem perform_detached (detached : s.2.selected = none) (needs : needsPort primitive = true) :
    perform primitive s = (.error .portNotSelected, s) := by
  rw [perform, needs, detached, Option.isNone_none, Bool.and_self, if_pos rfl]

/-- With a port, no pass fails. By induction on the passes. -/
theorem findNext_ne_failed (attached : s.2.selected.isSome = true) (filter : FamilyFilter)
    (limit : Nat) (c : SearchCursor) :
    (Search.findNext transport filter limit c s).1 ≠ .failed e := by
  induction limit generalizing c s with
  | zero => simp [Search.findNext]
  | succ limit ih =>
    rw [Search.findNext, Search.step]
    cases c.exhausted with
    | true => simp
    | false =>
      rw [perform_search attached c.pass c.alarmOnly rfl]
      simp only [Bool.false_eq_true, if_false]
      by_cases hnone : addressBits <
          (c.pass.answer (s.1.takingPart c.alarmOnly c.pass.skipReset)).lastDiscrepancy
      · simp [hnone]
      · rw [if_neg hnone]
        dsimp only
        split
        · simp
        · refine ih ?_ _
          exact attached

/-- A search that fails does so in its first pass, for want of a port. -/
theorem findNext_of_failed {filter : FamilyFilter} {limit : Nat} {c : SearchCursor}
    (h : (Search.findNext transport filter (limit + 1) c s).1 = .failed e) :
    c.exhausted = false ∧
      (Search.findNext transport filter (limit + 1) c s).2 = ({ c with exhausted := true }, s) := by
  cases hport : s.2.selected with
  | some port => exact absurd h (findNext_ne_failed (by rw [hport]; rfl) filter _ c)
  | none =>
    have hpass : transport.perform (.search c.pass) s = (.error .portNotSelected, s) :=
      perform_search_detached hport c.pass
    rw [Search.findNext, Search.step, hpass] at h ⊢
    cases hx : c.exhausted with
    | true =>
      rw [hx] at h
      cases h
    | false => exact ⟨rfl, rfl⟩

/-- A select that fails does so at its reset. -/
theorem select_of_error {a : Address} (h : (Search.select transport a s).1 = .error e) :
    (Search.select transport a s).2 = s := by
  cases hport : s.2.selected with
  | some port =>
    rw [select_eq a (by rw [hport]; rfl)] at h
    split at h <;> cases h
  | none =>
    have hreset : transport.perform .reset s = (.error .portNotSelected, s) :=
      perform_detached hport rfl
    rw [Search.select, hreset]

end Driver

namespace Bus

/-! ## A session -/

/-- A service that the adapter lacks is refused without a call. -/
theorem perform_of_lacking {σ : Type} (t : Transport σ) (b : Bus σ) {primitive : Primitive}
    {missing : Capability} (required : primitive.required = some missing)
    (lacking : b.capabilities.supports missing = false) :
    b.perform t primitive = (.error (.capabilityUnsupported missing), b) := by
  rw [perform, required, Option.filter_some, lacking]
  rfl

/-- If the adapter knows its driver's capabilities, it is the adapter that refuses. -/
theorem perform_of_unsupported {b : Bus ((Network × Driver) × List Call)} (h : b.InStep)
    {primitive : Primitive} {missing : Capability}
    (unsupported : (b.perform recorded primitive).1 = .error (.capabilityUnsupported missing)) :
    primitive.required = some missing ∧ b.capabilities.supports missing = false := by
  suffices hfilter : primitive.required.filter (!b.capabilities.supports ·) = some missing by
    rw [Option.filter_eq_some_iff] at hfilter
    exact ⟨hfilter.1, by simpa using hfilter.2⟩
  rw [perform] at unsupported
  split at unsupported
  · rename_i lacking hlacking
    cases unsupported
    exact hlacking
  · have hdriver : (Driver.perform primitive b.line.1).1 =
        .error (.capabilityUnsupported missing) := unsupported
    rw [h.capabilities]
    exact Driver.required_of_error hdriver

/-- A primitive that fails leaves the session's bus. The port is recorded again where
it might have been moved. -/
theorem perform_of_error {b : Bus (Network × Driver)} {primitive : Primitive} {e : BusError}
    (h : (b.perform Driver.transport primitive).1 = .error e)
    (port : primitive.movesPort = true → b.port = b.line.2.selected) :
    (b.perform Driver.transport primitive).2 = b := by
  rw [perform] at h ⊢
  split at h
  · rfl
  · have hdriver : (Driver.perform primitive b.line).1 = .error e := h
    have hstays : (Driver.transport.perform primitive b.line).2 = b.line :=
      Driver.perform_of_error hdriver
    cases hmoves : primitive.movesPort with
    | false =>
      show { b with line := (Driver.transport.perform primitive b.line).2 } = b
      rw [hstays]
    | true =>
      show { b with
        line := (Driver.transport.perform primitive b.line).2
        port := (Driver.transport.perform primitive b.line).2.2.selected } = b
      rw [hstays, ← port hmoves]

/-- A block through a session, in the buffer of the caller: the session hands the buffer
on to its driver. -/
def transferBlock : List UInt8 × Bus (Network × Driver) →
    Except BusError Unit × List UInt8 × Bus (Network × Driver)
  | (buffer, b) =>
    let (sent, buffer, line) := Driver.transferBlock (buffer, b.line)
    (sent, buffer, { b with line })

/-- What the session answers to a block is read out of the buffer. -/
theorem perform_transfer_read (block : List UInt8) (b : Bus (Network × Driver)) :
    let sent := transferBlock (block, b)
    b.perform Driver.transport (.transfer block) = (sent.1.map fun () => sent.2.1, sent.2.2) :=
  rfl

theorem transferBlock_of_error {lent : List UInt8 × Bus (Network × Driver)} {e : BusError}
    (h : (transferBlock lent).1 = .error e) : (transferBlock lent).2 = lent := by
  obtain ⟨buffer, b⟩ := lent
  have hstays : (Driver.transferBlock (buffer, b.line)).2 = (buffer, b.line) :=
    Driver.transferBlock_of_error h
  show ((Driver.transferBlock (buffer, b.line)).2.1,
    { b with line := (Driver.transferBlock (buffer, b.line)).2.2 }) = (buffer, b)
  rw [hstays]

theorem select_of_error {b : Bus (Network × Driver)} {a : Address} {e : BusError}
    (h : (b.select Driver.transport a).1 = .error e) : (b.select Driver.transport a).2 = b := by
  have hstays : (Search.select Driver.transport a b.line).2 = b.line := Driver.select_of_error h
  show { b with line := (Search.select Driver.transport a b.line).2 } = b
  rw [hstays]

theorem findNext_of_failed {b : Bus (Network × Driver)} {e : BusError}
    (h : (b.findNext Driver.transport).1 = .failed e) :
    b.cursor.exhausted = false ∧
      (b.findNext Driver.transport).2 =
        { b with cursor := { b.cursor with exhausted := true } } := by
  have hsearch : (Search.findNext Driver.transport b.filter (b.line.1.devices.length + 2) b.cursor
      b.line).1 = .failed e := h
  obtain ⟨hfresh, hstays⟩ := Driver.findNext_of_failed hsearch
  refine ⟨hfresh, ?_⟩
  rw [findNext]
  show { b with
    cursor := (Search.findNext Driver.transport b.filter (b.line.1.devices.length + 2) b.cursor
      b.line).2.1
    line := (Search.findNext Driver.transport b.filter (b.line.1.devices.length + 2) b.cursor
      b.line).2.2 } = _
  rw [hstays]

end Bus

/-! ## All together -/

/-- A primitive that fails leaves the driver and the wire as they were, and a search pass
or a block that fails the caller's buffer with them. Through a session it leaves all else
of the bus as well, and so does a select; a search that fails marks the cursor, and that
is all. An adapter refuses exactly the services that its driver lacks, and without a
call. What is asked of the adapter's copies there holds after every history. -/
theorem failures_change_nothing :
    (∀ (primitive : Primitive) (s : Network × Driver) (e : BusError),
      (Driver.perform primitive s).1 = .error e → (Driver.perform primitive s).2 = s) ∧
    (∀ (lastDiscrepancy : Nat) (command : SearchCommand) (skipReset : Bool)
      (lent : Address × Network × Driver) (e : BusError),
      (Driver.searchStep lastDiscrepancy command skipReset lent).1 = .error e →
        (Driver.searchStep lastDiscrepancy command skipReset lent).2 = lent) ∧
    (∀ (lent : List UInt8 × Network × Driver) (e : BusError),
      (Driver.transferBlock lent).1 = .error e → (Driver.transferBlock lent).2 = lent) ∧
    (∀ b : Bus (Network × Driver),
      (∀ (primitive : Primitive) (e : BusError),
        (b.perform Driver.transport primitive).1 = .error e →
        (primitive.movesPort = true → b.port = b.line.2.selected) →
          (b.perform Driver.transport primitive).2 = b) ∧
      (∀ block : List UInt8,
        let sent := Bus.transferBlock (block, b)
        b.perform Driver.transport (.transfer block) = (sent.1.map fun () => sent.2.1, sent.2.2) ∧
          ∀ e : BusError, sent.1 = .error e → sent.2 = (block, b)) ∧
      (∀ (a : Address) (e : BusError), (b.select Driver.transport a).1 = .error e →
        (b.select Driver.transport a).2 = b) ∧
      ∀ e : BusError, (b.findNext Driver.transport).1 = .failed e →
        b.cursor.exhausted = false ∧
        (b.findNext Driver.transport).2 =
          { b with cursor := { b.cursor with exhausted := true } }) ∧
    (∀ b : Bus ((Network × Driver) × List Call), b.InStep →
      ∀ (primitive : Primitive) (missing : Capability),
        ((b.perform recorded primitive).1 = .error (.capabilityUnsupported missing) ↔
          primitive.required = some missing ∧
            b.line.1.2.capabilities.supports missing = false) ∧
        ((b.perform recorded primitive).1 = .error (.capabilityUnsupported missing) →
          (b.perform recorded primitive).2 = b)) ∧
    ∀ (history : List Site.Move), ∀ a ∈ (Site.after history).adapters,
      (a.onWire (Site.after history).net).arbiter.resource.InStep := by
  refine ⟨fun primitive s e h => Driver.perform_of_error h,
    fun lastDiscrepancy command skipReset lent e h => Driver.searchStep_of_error h,
    fun lent e h => Driver.transferBlock_of_error h, fun b =>
    ⟨fun primitive e h port => Bus.perform_of_error h port,
      fun block => ⟨Bus.perform_transfer_read block b, fun e h => Bus.transferBlock_of_error h⟩,
      fun a e h => Bus.select_of_error h, fun e h => Bus.findNext_of_failed h⟩,
    fun b h primitive missing => ?_, Site.inStep_after⟩
  rw [← h.capabilities]
  refine ⟨⟨Bus.perform_of_unsupported h, fun ⟨required, lacking⟩ => ?_⟩, fun unsupported => ?_⟩
  · rw [b.perform_of_lacking recorded required lacking]
  · obtain ⟨required, lacking⟩ := Bus.perform_of_unsupported h unsupported
    rw [b.perform_of_lacking recorded required lacking]

/-- A session on a driver that has no port and no hyperdrive: every request fails, and a
block of the caller and a seed stay what they are. -/
theorem failures_change_nothing_of_detached :
    let b : Bus (Network × Driver) :=
      { line := ({ devices := [⟨⟨1⟩, false, []⟩] }, {}), capabilities := ({} : Driver).capabilities,
        port := none }
    let recording := b.map fun line => (line, ([] : List Call))
    ((Driver.perform .reset b.line).1 = .error .portNotSelected ∧
      (Driver.perform .reset b.line).2 = b.line) ∧
    ((Driver.searchStep 64 .normal false (⟨5⟩, b.line)).1 = .error .portNotSelected ∧
      (Driver.searchStep 64 .normal false (⟨5⟩, b.line)).2 = (⟨5⟩, b.line)) ∧
    ((Driver.transferBlock ([1, 2], b.line)).1 = .error .portNotSelected ∧
      (Driver.transferBlock ([1, 2], b.line)).2 = ([1, 2], b.line)) ∧
    ((b.perform Driver.transport (.startPower .now)).1 = .error .portNotSelected ∧
      (b.perform Driver.transport (.startPower .now)).2 = b) ∧
    ((Bus.transferBlock ([1, 2], b)).1 = .error .portNotSelected ∧
      (Bus.transferBlock ([1, 2], b)).2 = ([1, 2], b)) ∧
    ((b.select Driver.transport ⟨1⟩).1 = .error .portNotSelected ∧
      (b.select Driver.transport ⟨1⟩).2 = b) ∧
    ((b.findNext Driver.transport).1 = .failed .portNotSelected ∧
      (b.findNext Driver.transport).2 =
        { b with cursor := { b.cursor with exhausted := true } }) ∧
    (recording.perform recorded (.setSpeed .hyperdrive)).2 = recording := by
  intro b recording
  obtain ⟨hdriver, hsearch, htransfer, hsession, hcalls, -⟩ := failures_change_nothing
  obtain ⟨hperform, hblock, hselect, hfindNext⟩ := hsession b
  have hreset : (Driver.perform .reset b.line).1 = .error .portNotSelected := rfl
  have hpass : (Driver.searchStep 64 .normal false (⟨5⟩, b.line)).1 = .error .portNotSelected :=
    rfl
  have hsend : (Driver.transferBlock ([1, 2], b.line)).1 = .error .portNotSelected := rfl
  have hpower : (b.perform Driver.transport (.startPower .now)).1 = .error .portNotSelected := rfl
  have hhanded : (Bus.transferBlock ([1, 2], b)).1 = .error .portNotSelected := rfl
  have haddress : (b.select Driver.transport ⟨1⟩).1 = .error .portNotSelected := rfl
  have hfound : (b.findNext Driver.transport).1 = .failed .portNotSelected := rfl
  have hspeed : (recording.perform recorded (.setSpeed .hyperdrive)).1 =
      .error (.capabilityUnsupported .hyperdrive) := rfl
  exact ⟨⟨hreset, hdriver _ _ _ hreset⟩, ⟨hpass, hsearch _ _ _ _ _ hpass⟩,
    ⟨hsend, htransfer _ _ hsend⟩, ⟨hpower, hperform _ _ hpower nofun⟩,
    ⟨hhanded, (hblock [1, 2]).2 _ hhanded⟩, ⟨haddress, hselect _ _ haddress⟩,
    ⟨hfound, (hfindNext _ hfound).2⟩, (hcalls recording ⟨rfl, rfl⟩ _ _).2 hspeed⟩

end BusMaster
