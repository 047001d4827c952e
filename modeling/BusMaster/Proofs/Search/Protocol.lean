import BusMaster.Proofs.Record
import BusMaster.Proofs.Search.Enumeration
import BusMaster.Transport.Record
import BusMaster.Transport.Script

/-!
# The cursor against any transport

A cursor is moved by the answers of a transport that may say anything: a discrepancy
of any size, any address, an error at any time. What is passed on to the transport and
what is reported depends on nothing but the options of the enumeration and the answer to
the latest pass.

* `SearchCursor.Takes`: what an answer makes of a request and of its cursor;
* `Search.step_takes`, `Search.step_of_exhausted`: the two kinds of step;
* `Inquiry`: the requests of an enumeration, pulls from a listing included, and the checks
  of single addresses;
* `Bus.Sound`, `Inquiry.run_sound`: what each of them keeps;
* `Bus.cursor_protocol`: all together.
-/

namespace BusMaster

/-! ## One pass -/

/-- What the answer to a pass makes of the request and of its cursor. -/
inductive SearchCursor.Takes (c : SearchCursor) :
    Except BusError SearchAnswer → Found → SearchCursor → Prop where
  /-- An error leaves the cursor where it was, with nothing to go on with. -/
  | failed (e : BusError) : Takes c (.error e) (.failed e) { c with exhausted := true }
  /-- Nobody answered: the enumeration is over, and the address is not looked at. -/
  | silent {answer : SearchAnswer} (beyond : addressBits < answer.lastDiscrepancy) :
    Takes c (.ok answer) .finished { alarmOnly := c.alarmOnly, skipReset := c.skipReset }
  /-- The discrepancy that was given: this address is the last. -/
  | last {answer : SearchAnswer} (same : answer.lastDiscrepancy = c.lastDiscrepancy) :
    Takes c (.ok answer) (.device answer.address)
      { c with current := answer.address, exhausted := true }
  /-- Another branch point is left. -/
  | branch {answer : SearchAnswer} (le : answer.lastDiscrepancy ≤ addressBits)
    (ne : answer.lastDiscrepancy ≠ c.lastDiscrepancy) :
    Takes c (.ok answer) (.device answer.address)
      { c with
        lastDiscrepancy := answer.lastDiscrepancy
        current := answer.address
        exhausted := false }

namespace SearchCursor.Takes

variable {c c' : SearchCursor} {answer : Except BusError SearchAnswer} {found : Found}

theorem restart_eq (h : c.Takes answer found c') : c'.restart = c.restart := by
  cases h <;> rfl

theorem le_64 (h : c.Takes answer found c') (hc : c.lastDiscrepancy ≤ addressBits) :
    c'.lastDiscrepancy ≤ addressBits := by
  cases h with
  | failed | last => exact hc
  | silent => exact Nat.zero_le _
  | branch le => exact le

end SearchCursor.Takes

namespace Search

variable {σ : Type} {c : SearchCursor}

theorem step_of_exhausted (t : Transport σ) (done : c.exhausted = true) (s : σ) :
    step t c s = (.finished, c.restart, s) := by
  rw [step, if_pos done]

/-- Going on with an enumeration that is over ends it, whatever the filter. -/
theorem findNext_of_exhausted (t : Transport σ) (filter : FamilyFilter) (limit : Nat)
    (done : c.exhausted = true) (s : σ) :
    findNext t filter (limit + 1) c s = (.finished, c.restart, s) := by
  rw [findNext, step_of_exhausted t done]

/-- A pass is what the cursor says, and its answer is taken. -/
theorem step_takes (t : Transport σ) (more : c.exhausted = false) (s : σ) :
    c.Takes (t.perform (.search c.pass) s).1 (step t c s).1 (step t c s).2.1 ∧
      (step t c s).2.2 = (t.perform (.search c.pass) s).2 := by
  rw [step, if_neg ((Bool.not_eq_true _).mpr more)]
  generalize t.perform (.search c.pass) s = r
  obtain ⟨e | answer, s'⟩ := r
  · exact ⟨.failed e, rfl⟩
  dsimp only
  by_cases hbeyond : addressBits < answer.lastDiscrepancy
  · rw [if_pos hbeyond]
    exact ⟨.silent hbeyond, rfl⟩
  rw [if_neg hbeyond]
  by_cases hsame : answer.lastDiscrepancy = c.lastDiscrepancy
  · have hadvance : c.advance answer = { c with current := answer.address, exhausted := true } := by
      rw [SearchCursor.advance, hsame, decide_eq_true rfl]
    exact ⟨hadvance ▸ .last hsame, rfl⟩
  · have hadvance : c.advance answer = { c with
        lastDiscrepancy := answer.lastDiscrepancy
        current := answer.address
        exhausted := false } := by
      rw [SearchCursor.advance, decide_eq_false hsame]
    exact ⟨hadvance ▸ .branch (Nat.not_lt.mp hbeyond) hsame, rfl⟩

end Search

/-! ## Inquiries -/

/-- What can be asked of the enumeration on a bus, and of single addresses in between. -/
inductive Inquiry where
  | first (alarmOnly skipReset : Bool)
  | next
  | pull (devices : Devices)
  | isPresent (a : Address)
  | isAlarming (a : Address)
deriving DecidableEq, Repr

/-- What an inquiry is to the enumeration. -/
inductive Inquiry.Role where
  | begins (alarmOnly skipReset : Bool)
  | goesOn
  /-- A check makes its pass apart from the enumeration, and a pull from a listing that is
  over makes none. -/
  | apart
deriving DecidableEq, Repr

namespace Inquiry

def role : Inquiry → Role
  | first alarmOnly skipReset => .begins alarmOnly skipReset
  | next => .goesOn
  | pull devices =>
    if devices.done then .apart
    else if devices.started then .goesOn
    else .begins devices.alarmOnly devices.skipReset
  | isPresent _ | isAlarming _ => .apart

/-- The cursor with which the enumeration is gone about. -/
def Role.cursor? (c : SearchCursor) : Role → Option SearchCursor
  | begins alarmOnly skipReset => some { alarmOnly, skipReset }
  | goesOn => some c
  | apart => none

/-- The options, alarms only and without a reset, of an enumeration that the inquiry
begins. -/
def options? (inquiry : Inquiry) : Option (Bool × Bool) :=
  match inquiry.role with
  | .begins alarmOnly skipReset => some (alarmOnly, skipReset)
  | .goesOn | .apart => none

/-- The options of the enumeration begun last. -/
def optionsOf (inquiries : List Inquiry) : Bool × Bool :=
  latest options? (false, false) inquiries

/-- The answer, if it is one about the enumeration, and the bus after it. -/
def run {σ : Type} (t : Transport σ) (b : Bus σ) : Inquiry → Option Found × Bus σ
  | first alarmOnly skipReset =>
    let (found, b) := b.findFirst t alarmOnly skipReset
    (some found, b)
  | next =>
    let (found, b) := b.findNext t
    (some found, b)
  | pull devices =>
    let (found, _, b) := devices.next t b
    (some found, b)
  | isPresent a => (none, (b.isPresent t a).2)
  | isAlarming a => (none, (b.isAlarming t a).2)

variable {σ : Type} {t : Transport σ} {b : Bus σ} {c : SearchCursor} {inquiry : Inquiry}

/-- What has to do with the enumeration is a request on the cursor that it is gone about
with. -/
theorem run_of_some (h : inquiry.role.cursor? b.cursor = some c) :
    inquiry.run t b =
      (some ({ b with cursor := c }.findNext t).1, ({ b with cursor := c }.findNext t).2) := by
  cases inquiry with
  | first | next =>
    cases h
    rfl
  | pull devices =>
    obtain ⟨_, _, _ | _, _ | _⟩ := devices <;> cases h <;> rfl
  | isPresent | isAlarming => cases h

/-- What has nothing to do with the enumeration leaves it where it is. -/
theorem run_of_none (h : inquiry.role.cursor? b.cursor = none) :
    (inquiry.run t b).2.cursor = b.cursor ∧ (inquiry.run t b).2.filter = b.filter := by
  cases inquiry with
  | first | next => cases h
  | pull devices =>
    obtain ⟨_, _, _ | _, _ | _⟩ := devices <;> cases h <;> exact ⟨rfl, rfl⟩
  | isPresent | isAlarming => exact ⟨rfl, rfl⟩

end Inquiry

/-! ## What is kept -/

namespace Bus

variable {σ : Type} {t : Transport σ} {b : Bus σ} {options : Bool × Bool}

/-- The bus after the inquiries. -/
def inquired (t : Transport σ) (b : Bus σ) (inquiries : List Inquiry) : Bus σ :=
  inquiries.foldl (fun b inquiry => (inquiry.run t b).2) b

theorem inquired_snoc (t : Transport σ) (b : Bus σ) (inquiries : List Inquiry)
    (inquiry : Inquiry) :
    b.inquired t (inquiries ++ [inquiry]) = (inquiry.run t (b.inquired t inquiries)).2 := by
  rw [inquired, List.foldl_append]
  rfl

/-- The cursor is between the first position and the last, with the options of the
enumeration begun last, and the filter lets every address through. -/
structure Sound (options : Bool × Bool) (b : Bus σ) : Prop where
  le_64 : b.cursor.lastDiscrepancy ≤ addressBits
  restart : b.cursor.restart = { alarmOnly := options.1, skipReset := options.2 }
  all : ∀ a, b.filter.accepts a = true

/-- Going on with an enumeration that is over asks the transport nothing. -/
theorem findNext_of_exhausted (done : b.cursor.exhausted = true)
    (passes : 0 < t.passLimit b.line) :
    b.findNext t = (.finished, { b with cursor := b.cursor.restart }) := by
  obtain ⟨limit, hlimit⟩ := Nat.exists_eq_add_one.mpr passes
  rw [findNext, hlimit, Search.findNext_of_exhausted t _ _ done]

/-- Where the filter lets every address through, a request is one step. -/
theorem findNext_eq_step (all : ∀ a, b.filter.accepts a = true)
    (passes : 0 < t.passLimit b.line) :
    b.findNext t = ((Search.step t b.cursor b.line).1,
      { b with
        cursor := (Search.step t b.cursor b.line).2.1
        line := (Search.step t b.cursor b.line).2.2 }) := by
  obtain ⟨limit, hlimit⟩ := Nat.exists_eq_add_one.mpr passes
  rw [findNext, hlimit, Search.findNext_of_accepts t all]

theorem Sound.findNext (h : b.Sound options) (passes : 0 < t.passLimit b.line) :
    (b.findNext t).2.Sound options := by
  rw [findNext_eq_step h.all passes]
  cases hx : b.cursor.exhausted with
  | true =>
    rw [Search.step_of_exhausted t hx]
    exact ⟨Nat.zero_le _, h.restart, h.all⟩
  | false =>
    obtain ⟨htakes, -⟩ := Search.step_takes t hx b.line
    exact ⟨htakes.le_64 h.le_64, htakes.restart_eq.trans h.restart, h.all⟩

end Bus

namespace Inquiry

variable {σ : Type} {t : Transport σ} {b : Bus σ} {c : SearchCursor} {inquiry : Inquiry}
  {options : Bool × Bool}

/-- The enumeration is gone about from a sound cursor. -/
theorem sound_of_some (h : b.Sound options) (hc : inquiry.role.cursor? b.cursor = some c) :
    { b with cursor := c }.Sound (latest Inquiry.options? options [inquiry]) := by
  rw [latest_singleton, options?]
  cases hrole : inquiry.role with
  | begins alarmOnly skipReset =>
    rw [hrole] at hc
    cases hc
    exact ⟨Nat.zero_le _, rfl, h.all⟩
  | goesOn =>
    rw [hrole] at hc
    cases hc
    exact ⟨h.le_64, h.restart, h.all⟩
  | apart =>
    rw [hrole] at hc
    cases hc

theorem options?_of_none (hc : inquiry.role.cursor? c = none) : inquiry.options? = none := by
  rw [options?]
  cases hrole : inquiry.role with
  | begins =>
    rw [hrole] at hc
    cases hc
  | goesOn | apart => rfl

theorem run_sound (passes : ∀ s, 0 < t.passLimit s) (h : b.Sound options) (inquiry : Inquiry) :
    (inquiry.run t b).2.Sound (latest Inquiry.options? options [inquiry]) := by
  cases hc : inquiry.role.cursor? b.cursor with
  | none =>
    obtain ⟨hcursor, hfilter⟩ := run_of_none (t := t) hc
    rw [latest_singleton, options?_of_none hc]
    exact ⟨hcursor ▸ h.le_64, hcursor ▸ h.restart, hfilter ▸ h.all⟩
  | some c =>
    rw [run_of_some hc]
    exact (sound_of_some h hc).findNext (passes _)

end Inquiry

namespace Bus

variable {σ : Type} {t : Transport σ} {b₀ : Bus σ}

theorem sound_inquired (passes : ∀ s, 0 < t.passLimit s) (fresh : b₀.cursor = {})
    (all : ∀ a, b₀.filter.accepts a = true) (inquiries : List Inquiry) :
    (b₀.inquired t inquiries).Sound (Inquiry.optionsOf inquiries) := by
  induction inquiries using List.reverseRecOn with
  | nil =>
    refine ⟨?_, ?_, all⟩
    · show b₀.cursor.lastDiscrepancy ≤ addressBits
      rw [fresh]
      exact Nat.zero_le _
    · show b₀.cursor.restart = _
      rw [fresh]
      rfl
  | append_singleton inquiries inquiry ih =>
    rw [inquired_snoc, Inquiry.optionsOf, latest_append]
    exact inquiry.run_sound passes ih

/-- What has nothing to do with the enumeration leaves it where it is, however often. -/
theorem inquired_apart {b : Bus σ} {checks : List Inquiry}
    (h : ∀ check ∈ checks, check.role = .apart) :
    (b.inquired t checks).cursor = b.cursor ∧ (b.inquired t checks).filter = b.filter := by
  induction checks using List.reverseRecOn with
  | nil => exact ⟨rfl, rfl⟩
  | append_singleton checks check ih =>
    rw [List.forall_mem_append, List.forall_mem_singleton] at h
    obtain ⟨hcursor, hfilter⟩ := ih h.1
    have hnone : check.role.cursor? (b.inquired t checks).cursor = none := by
      rw [h.2]
      rfl
    obtain ⟨hcursor', hfilter'⟩ := Inquiry.run_of_none (t := t) hnone
    rw [inquired_snoc]
    exact ⟨hcursor'.trans hcursor, hfilter'.trans hfilter⟩

/-- A request from a sound cursor that is not exhausted makes the pass that the cursor
says, and takes the answer. -/
theorem Sound.findNext_recorded {t : Transport σ} {b : Bus (σ × List Call)} {options : Bool × Bool}
    (h : b.Sound options) (passes : ∀ s, 0 < t.passLimit s) (more : b.cursor.exhausted = false) :
    let pass := ⟨b.cursor.current, b.cursor.lastDiscrepancy, .ofAlarmOnly options.1, options.2⟩
    ∃ answer s found c', t.perform (.search pass) b.line.1 = (answer, s) ∧
      b.cursor.Takes answer found c' ∧ b.findNext t.recorded = (found, { b with
        cursor := c'
        line := (s, b.line.2 ++ [.performed (.search pass)]) }) := by
  have hoptions : b.cursor.alarmOnly = options.1 ∧ b.cursor.skipReset = options.2 := by
    simpa [SearchCursor.restart] using h.restart
  rw [← hoptions.1, ← hoptions.2]
  obtain ⟨htakes, hline⟩ := Search.step_takes t.recorded more b.line
  rw [findNext_eq_step h.all (passes _), hline]
  exact ⟨_, _, _, _, rfl, htakes, rfl⟩

/-- A part of an enumeration that is not over makes the pass that the cursor and the options
say. -/
theorem Sound.run_recorded {t : Transport σ} {b : Bus (σ × List Call)} {options : Bool × Bool}
    {inquiry : Inquiry} {c : SearchCursor} (h : b.Sound options)
    (passes : ∀ s, 0 < t.passLimit s) (hc : inquiry.role.cursor? b.cursor = some c)
    (more : c.exhausted = false) :
    let options' := latest Inquiry.options? options [inquiry]
    let pass := ⟨c.current, c.lastDiscrepancy, .ofAlarmOnly options'.1, options'.2⟩
    ∃ answer s found c', t.perform (.search pass) b.line.1 = (answer, s) ∧
      c.Takes answer found c' ∧ inquiry.run t.recorded b = (some found, { b with
        cursor := c'
        line := (s, b.line.2 ++ [.performed (.search pass)]) }) := by
  obtain ⟨answer, s, found, c', hanswer, htakes, hfound⟩ :=
    (Inquiry.sound_of_some h hc).findNext_recorded passes more
  rw [Inquiry.run_of_some hc, hfound]
  exact ⟨answer, s, found, c', hanswer, htakes, rfl⟩

/-- Going on with an enumeration that is over ends it, checks in between or not. -/
theorem Sound.run_of_exhausted {b : Bus σ} {options : Bool × Bool} {checks : List Inquiry}
    {further : Inquiry} (h : b.Sound options) (passes : ∀ s, 0 < t.passLimit s)
    (done : b.cursor.exhausted = true) (hchecks : ∀ check ∈ checks, check.role = .apart)
    (hgoesOn : further.role = .goesOn) :
    further.run t (b.inquired t checks) = (some .finished, { b.inquired t checks with
      cursor := { alarmOnly := options.1, skipReset := options.2 } }) := by
  have hcursor : (b.inquired t checks).cursor = b.cursor := (inquired_apart hchecks).1
  have hsome : further.role.cursor? (b.inquired t checks).cursor =
      some (b.inquired t checks).cursor := by
    rw [hgoesOn]
    rfl
  rw [Inquiry.run_of_some hsome, findNext_of_exhausted (hcursor ▸ done) (passes _), hcursor,
    h.restart]

/-- What the cursor asks of the transport, and what it makes of the answers, over any
transport and after any inquiries on a bus that is new and whose filter lets every address
through. A request may take a pass.

The last discrepancy stays within the address. The pass of an enumeration is the one that
its cursor and its options say, and is the only call of the request; the answer is taken.
Once the enumeration is marked as exhausted, going on with it ends it without a call. -/
theorem cursor_protocol (t : Transport σ) (passes : ∀ s, 0 < t.passLimit s)
    (b₀ : Bus (σ × List Call)) (fresh : b₀.cursor = {})
    (all : ∀ a, b₀.filter.accepts a = true) (before : List Inquiry) (inquiry : Inquiry) :
    let b := b₀.inquired t.recorded before
    let b' := b₀.inquired t.recorded (before ++ [inquiry])
    let options := Inquiry.optionsOf (before ++ [inquiry])
    b.cursor.lastDiscrepancy ≤ addressBits ∧
    (inquiry.role = .apart → b'.cursor = b.cursor) ∧
    (∀ c, inquiry.role.cursor? b.cursor = some c → c.exhausted = false →
      let pass := ⟨c.current, c.lastDiscrepancy, .ofAlarmOnly options.1, options.2⟩
      ∃ answer s found, t.perform (.search pass) b.line.1 = (answer, s) ∧
        c.Takes answer found b'.cursor ∧
        inquiry.run t.recorded b = (some found, { b with
          cursor := b'.cursor
          line := (s, b.line.2 ++ [.performed (.search pass)]) })) ∧
    (b'.cursor.exhausted = true → ∀ checks : List Inquiry,
      (∀ check ∈ checks, check.role = .apart) → ∀ further : Inquiry, further.role = .goesOn →
        let later := b₀.inquired t.recorded (before ++ [inquiry] ++ checks)
        further.run t.recorded later = (some .finished, { later with
          cursor := { alarmOnly := options.1, skipReset := options.2 } })) := by
  have hpasses : ∀ s, 0 < t.recorded.passLimit s := fun s => passes s.1
  have hsound := sound_inquired (t := t.recorded) hpasses fresh all
  intro b b' options
  have hstep : b' = (inquiry.run t.recorded b).2 := inquired_snoc _ _ _ _
  refine ⟨(hsound before).le_64, fun hapart => ?_, fun c hc more => ?_,
    fun done checks hchecks further hgoesOn => ?_⟩
  · rw [hstep]
    refine (Inquiry.run_of_none (t := t.recorded) ?_).1
    rw [hapart]
    rfl
  · have hoptions : options = latest Inquiry.options? (Inquiry.optionsOf before) [inquiry] :=
      latest_append _ _ _ _
    obtain ⟨answer, s, found, c', hanswer, htakes, hrun⟩ :=
      (hsound before).run_recorded passes hc more
    rw [hrun] at hstep
    rw [hstep, hoptions]
    exact ⟨answer, s, found, hanswer, htakes, hrun⟩
  · -- The checks leave the cursor exhausted, so going on restarts it.
    have hlater : b₀.inquired t.recorded (before ++ [inquiry] ++ checks) =
        b'.inquired t.recorded checks := List.foldl_append
    rw [hlater]
    exact (hsound (before ++ [inquiry])).run_of_exhausted hpasses done hchecks hgoesOn

/-- An alarm search is given the same discrepancy twice. A check in between meets an
answer beyond the address, and a check after it a failure. -/
theorem cursor_protocol_of_script :
    let one := Address.ofBytes [0x28, 1, 0, 0, 0, 0, 0, 0]
    let two := Address.ofBytes [0x10, 2, 0, 0, 0, 0, 0, 0]
    let script : Script :=
      { search := [.ok ⟨9, one⟩, .ok ⟨200, two⟩, .ok ⟨9, two⟩, .error (.io "unplugged")] }
    let b₀ : Bus (Script × List Call) :=
      { line := (script, []), capabilities := {}, port := none }
    let b := b₀.inquired Script.transport.recorded [.first true false, .isPresent two]
    let b' := b₀.inquired Script.transport.recorded [.first true false, .isPresent two, .next]
    let later := b₀.inquired Script.transport.recorded
      [.first true false, .isPresent two, .next, .isAlarming one]
    (b.cursor = { lastDiscrepancy := 9, current := one, alarmOnly := true } ∧
      b'.cursor.exhausted = true) ∧
    (∃ s, Inquiry.next.run Script.transport.recorded b = (some (.device two), { b with
      cursor := b'.cursor
      line := (s, b.line.2 ++ [.performed (.search ⟨one, 9, .alarm, false⟩)]) })) ∧
    Inquiry.next.run Script.transport.recorded later =
      (some .finished, { later with cursor := { alarmOnly := true } }) := by
  intro one two script b₀ b b' later
  obtain ⟨-, -, hpass, hover⟩ := cursor_protocol Script.transport (fun s => Nat.succ_pos _) b₀ rfl
    (fun _ => rfl) [.first true false, .isPresent two] .next
  obtain ⟨answer, s, found, hanswer, htakes, hrun⟩ := hpass b.cursor rfl rfl
  have hlast : answer = .ok ⟨9, two⟩ := (congrArg Prod.fst hanswer).symm
  have hfound : found = .device two := by
    subst hlast
    cases htakes
    rfl
  refine ⟨⟨rfl, rfl⟩, ⟨s, hfound ▸ hrun⟩, ?_⟩
  exact hover rfl [.isAlarming one] (List.forall_mem_singleton.mpr rfl) .next rfl

end Bus

end BusMaster
