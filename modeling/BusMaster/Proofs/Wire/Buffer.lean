import BusMaster.Wire.Driver

/-!
# Primitives in a buffer of the caller

A search pass and a block work in a buffer that the caller lends for the call, and what
they answer is read out of it afterwards. Both ask for a port before they write.

* `Driver.perform_search_read`, `Driver.perform_transfer_read`: what is read out;
* `Driver.searchStep_attached`, `Driver.transferBlock_attached`: what a driver with a port
  selected leaves in the buffer;
* `Driver.searchStep_answers_or_stays`, `Driver.transferBlock_answers_or_stays`: what
  fails has left the buffer, the wire and the driver as they were.
-/

namespace BusMaster

/-- If work comes to an answer or leaves all as it was, it leaves all as it was when it
fails. -/
theorem stays_of_error {α β : Type} {outcome : Except BusError α × β} {before : β} {e : BusError}
    (h : (∃ answer, outcome.1 = .ok answer) ∨ outcome.2 = before) (failed : outcome.1 = .error e) :
    outcome.2 = before := by
  rcases h with ⟨answer, hok⟩ | hstays
  · rw [failed] at hok
    cases hok
  · exact hstays

/-- Work in a lent buffer that fails and does nothing else, or comes to an answer: the same
can be said of what is read out of it. -/
theorem read_answers_or_stays {α β γ σ : Type} {work : Except BusError α × β × σ} {lent : β × σ}
    {e : BusError} (read : α → γ)
    (h : (∃ answer, work.1 = .ok answer) ∨ work = (.error e, lent)) :
    (∃ answer, work.1.map read = .ok answer) ∨
      (work.1.map read, work.2.2) = (.error e, lent.2) := by
  rcases h with ⟨answer, hok⟩ | hstays
  · exact .inl ⟨read answer, congrArg (Except.map read) hok⟩
  · rw [hstays]
    exact .inr rfl

namespace Driver

variable {s : Network × Driver}

/-! ## What is read out -/

theorem perform_search_read (pass : SearchPass) (s : Network × Driver) :
    let step := searchStep pass.lastDiscrepancy pass.command pass.skipReset (pass.seed, s)
    perform (.search pass) s =
      (step.1.map fun lastDiscrepancy => { lastDiscrepancy, address := step.2.1 }, step.2.2) :=
  rfl

theorem perform_transfer_read (block : List UInt8) (s : Network × Driver) :
    let sent := transferBlock (block, s)
    perform (.transfer block) s = (sent.1.map fun () => sent.2.1, sent.2.2) :=
  rfl

/-! ## With a port -/

/-- The pass leaves in the buffer the address of its answer. -/
theorem searchStep_attached (attached : s.2.selected.isSome = true) (pass : SearchPass) :
    let answer := pass.answer
      (if pass.skipReset || s.1.resetResult.isPresent then s.1.participants pass.command else [])
    searchStep pass.lastDiscrepancy pass.command pass.skipReset (pass.seed, s) =
      (.ok answer.lastDiscrepancy, answer.address,
        s.1.log (.search pass.command.opcode pass.lastDiscrepancy pass.skipReset),
        { s.2 with phase := .idle }) := by
  obtain ⟨net, drv⟩ := s
  rw [searchStep, Option.isNone_eq_false_iff.mpr attached, if_neg Bool.false_ne_true]

/-- A block is replaced with what is read back. -/
theorem transferBlock_attached (attached : s.2.selected.isSome = true) (block : List UInt8) :
    transferBlock (block, s) = (.ok (), exchangeAll block (s.1.log (.block block), s.2)) := by
  obtain ⟨net, drv⟩ := s
  rw [transferBlock, Option.isNone_eq_false_iff.mpr attached, if_neg Bool.false_ne_true]

theorem performAttached_search (attached : s.2.selected.isSome = true) (pass : SearchPass) :
    performAttached (.search pass) s =
      (.ok (pass.answer
          (if pass.skipReset || s.1.resetResult.isPresent then s.1.participants pass.command
          else [])),
        s.1.log (.search pass.command.opcode pass.lastDiscrepancy pass.skipReset),
        { s.2 with phase := .idle }) := by
  rw [performAttached, searchStep_attached attached]
  rfl

theorem performAttached_transfer (attached : s.2.selected.isSome = true) (block : List UInt8) :
    performAttached (.transfer block) s =
      (.ok (exchangeAll block (s.1.log (.block block), s.2)).1,
        (exchangeAll block (s.1.log (.block block), s.2)).2) := by
  rw [performAttached, transferBlock_attached attached]
  rfl

/-- A primitive of a driver with a port selected. -/
theorem perform_attached (attached : s.2.selected.isSome = true) (primitive : Primitive) :
    perform primitive s = performAttached primitive s := by
  simp [perform, Option.isNone_eq_false_iff.mpr attached]

/-! ## Without a port -/

/-- A pass asks for a port before it writes. -/
theorem searchStep_answers_or_stays (lastDiscrepancy : Nat) (command : SearchCommand)
    (skipReset : Bool) (lent : Address × Network × Driver) :
    (∃ found, (searchStep lastDiscrepancy command skipReset lent).1 = .ok found) ∨
      searchStep lastDiscrepancy command skipReset lent = (.error .portNotSelected, lent) := by
  obtain ⟨buffer, net, drv⟩ := lent
  rw [searchStep]
  split
  · exact .inr rfl
  · exact .inl ⟨_, rfl⟩

theorem transferBlock_answers_or_stays (lent : List UInt8 × Network × Driver) :
    (∃ sent, (transferBlock lent).1 = .ok sent) ∨
      transferBlock lent = (.error .portNotSelected, lent) := by
  obtain ⟨buffer, net, drv⟩ := lent
  rw [transferBlock]
  split
  · exact .inr rfl
  · exact .inl ⟨_, rfl⟩

theorem perform_search_answers_or_stays (pass : SearchPass) (s : Network × Driver) :
    (∃ answer, (perform (.search pass) s).1 = .ok answer) ∨
      perform (.search pass) s = (.error .portNotSelected, s) := by
  rw [perform_search_read]
  exact read_answers_or_stays _ (searchStep_answers_or_stays ..)

theorem perform_transfer_answers_or_stays (block : List UInt8) (s : Network × Driver) :
    (∃ replies, (perform (.transfer block) s).1 = .ok replies) ∨
      perform (.transfer block) s = (.error .portNotSelected, s) := by
  rw [perform_transfer_read]
  exact read_answers_or_stays _ (transferBlock_answers_or_stays (block, s))

theorem perform_search_detached (detached : s.2.selected = none) (pass : SearchPass) :
    perform (.search pass) s = (.error .portNotSelected, s) := by
  obtain ⟨net, drv⟩ := s
  rw [perform_search_read, searchStep, if_pos (Option.isNone_iff_eq_none.mpr detached)]
  rfl

/-! ## Failures -/

variable {e : BusError}

theorem searchStep_of_error {lastDiscrepancy : Nat} {command : SearchCommand} {skipReset : Bool}
    {lent : Address × Network × Driver}
    (h : (searchStep lastDiscrepancy command skipReset lent).1 = .error e) :
    (searchStep lastDiscrepancy command skipReset lent).2 = lent :=
  stays_of_error ((searchStep_answers_or_stays ..).imp_right (congrArg Prod.snd)) h

theorem transferBlock_of_error {lent : List UInt8 × Network × Driver}
    (h : (transferBlock lent).1 = .error e) : (transferBlock lent).2 = lent :=
  stays_of_error ((transferBlock_answers_or_stays lent).imp_right (congrArg Prod.snd)) h

end Driver

end BusMaster
