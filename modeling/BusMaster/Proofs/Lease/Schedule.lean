import BusMaster.Lease.Arbiter
import BusMaster.Lease.Wait
import Mathlib.Data.List.Induction

/-!
# A bounded wait follows its schedule

A party waits for the session of an arbiter while others do as they like. What it meets, round by
round, is its schedule: nothing relates one round to the next, nor the readings of token and clock
to anything else.

* `Round`, `Round.Ends`, `Round.Pauses`: what becomes of a wait in one round, by the rules;
* `Vigil`, `waitAlong`: a wait along a schedule, with a log of what its party does;
* `acquireBounded_of_ends`, `acquireBounded_of_pauses`: what the party does in one round;
* `acquireBounded_of_pausing`: what it does in some rounds with pauses;
* `EndsAt.waitAlong_eq`, `waitAlong_of_no_end`: the wait up to its end, and without one;
* `bounded_wait_follows_schedule`: all together.
-/

namespace BusMaster.Lease

/-! ## The rules -/

/-- A round of a wait, as its party meets it. -/
structure Round (ρ : Type) where
  /-- The token has fired when the round begins. -/
  fired : Bool
  /-- What an attempt finds. -/
  arbiter : Arbiter ρ
  /-- The time once the attempt has failed. -/
  now : Nat

/-- What ends a wait. -/
inductive Ending where
  | cancelled
  | granted
  | expired
deriving DecidableEq, Repr

/-- What the party does. -/
inductive Deed where
  | attempted (granted : Bool)
  | paused (length : Nat)
deriving DecidableEq, Repr

namespace Ending

def waited : Ending → Waited
  | granted => .acquired
  | cancelled | expired => .gaveUp

/-- What the party does in the last round. -/
def deeds : Ending → List Deed
  | cancelled => []
  | granted => [.attempted true]
  | expired => [.attempted false]

end Ending

namespace Round

variable {ρ : Type} {access : ExclusiveAccess ρ} {interval : Nat} {bounds : Bounds} {r : Round ρ}

/-- A token was given, and has fired. -/
def Cancels (bounds : Bounds) (r : Round ρ) : Prop :=
  bounds.token = true ∧ r.fired = true

/-- The lock is free, and the resource opens. -/
def Grants (access : ExclusiveAccess ρ) (r : Round ρ) : Prop :=
  r.arbiter.isHeld = false ∧ (access.tryBegin r.arbiter.resource).1 = true

/-- The token comes first, then the attempt, and the deadline last. -/
inductive Ends (access : ExclusiveAccess ρ) (bounds : Bounds) (r : Round ρ) : Ending → Prop where
  | cancelled (cancels : r.Cancels bounds) : Ends access bounds r .cancelled
  | granted (uncancelled : ¬r.Cancels bounds) (grants : r.Grants access) :
    Ends access bounds r .granted
  | expired {deadline : Nat} (uncancelled : ¬r.Cancels bounds) (refused : ¬r.Grants access)
    (bounded : bounds.deadline = some deadline) (late : deadline ≤ r.now) :
    Ends access bounds r .expired

/-- A round without an end, with a pause in it. Where there is a deadline some time is left before
it. -/
structure Pauses (access : ExclusiveAccess ρ) (interval : Nat) (bounds : Bounds) (r : Round ρ)
    (length : Nat) : Prop where
  uncancelled : ¬r.Cancels bounds
  refused : ¬r.Grants access
  unbounded : bounds.deadline = none → length = interval
  bounded : ∀ deadline, bounds.deadline = some deadline →
    ∃ left, r.now + left = deadline ∧ 0 < left ∧ length = min interval left

/-- The resource after the attempt. -/
def tried (access : ExclusiveAccess ρ) (r : Round ρ) : ρ :=
  if r.arbiter.isHeld then r.arbiter.resource else (access.tryBegin r.arbiter.resource).2

/-- The arbiter after the last round: with a session of the party if it was granted, and else with
no other than before. -/
def left (access : ExclusiveAccess ρ) (r : Round ρ) : Ending → Arbiter ρ
  | .cancelled => r.arbiter
  | .granted => { r.arbiter with resource := r.tried access, session := some {} }
  | .expired => { r.arbiter with resource := r.tried access }

theorem Pauses.not_ends {length : Nat} (h : r.Pauses access interval bounds length)
    (ending : Ending) : ¬r.Ends access bounds ending := by
  rintro (cancels | ⟨-, grants⟩ | ⟨-, -, bounded, late⟩)
  · exact h.uncancelled cancels
  · exact h.refused grants
  · obtain ⟨left, rfl, some_left, -⟩ := h.bounded _ bounded
    omega

/-- A round has an end, or else a pause. -/
theorem ends_or_pauses (access : ExclusiveAccess ρ) (interval : Nat) (bounds : Bounds)
    (r : Round ρ) :
    (∃ ending, r.Ends access bounds ending) ∨ ∃ length, r.Pauses access interval bounds length := by
  by_cases cancels : r.Cancels bounds
  · exact .inl ⟨_, .cancelled cancels⟩
  by_cases grants : r.Grants access
  · exact .inl ⟨_, .granted cancels grants⟩
  cases bounded : bounds.deadline with
  | none => exact .inr ⟨interval, cancels, grants, fun _ => rfl, by rw [bounded]; nofun⟩
  | some deadline =>
    by_cases late : deadline ≤ r.now
    · exact .inl ⟨_, .expired cancels grants bounded late⟩
    · refine .inr ⟨min interval (deadline - r.now), cancels, grants, by rw [bounded]; nofun, ?_⟩
      intro deadline' bounded'
      obtain rfl : deadline = deadline' := Option.some.inj (bounded.symm.trans bounded')
      exact ⟨deadline - r.now, by omega, by omega, rfl⟩

/-- An attempt in a round that grants it. -/
theorem Grants.tryAcquire (h : r.Grants access) :
    r.arbiter.tryAcquire access = (true, r.left access .granted) := by
  obtain ⟨free, opens⟩ := h
  rw [left, tried, Arbiter.tryAcquire, free]
  generalize access.tryBegin r.arbiter.resource = answer at opens
  obtain ⟨_, resource⟩ := answer
  cases opens
  rfl

/-- An attempt in a round that does not grant it gives nobody a session. -/
theorem tryAcquire_of_not_grants (h : ¬r.Grants access) :
    r.arbiter.tryAcquire access = (false, r.left access .expired) := by
  rw [left, tried, Arbiter.tryAcquire]
  cases held : r.arbiter.isHeld with
  | true => rfl
  | false =>
    have refused : (access.tryBegin r.arbiter.resource).1 = false :=
      (Bool.not_eq_true _).mp fun opens => h ⟨held, opens⟩
    have session : r.arbiter.session = none := by
      simpa [Arbiter.isHeld] using held
    generalize access.tryBegin r.arbiter.resource = answer at refused
    obtain ⟨_, resource⟩ := answer
    cases refused
    rw [session]
    rfl

/-- The length of a pause, in the terms of the wait. -/
theorem Pauses.pauseLength {length : Nat} (h : r.Pauses access interval bounds length) :
    pauseLength interval bounds.deadline r.now = some length := by
  cases bounded : bounds.deadline with
  | none => rw [h.unbounded bounded, Lease.pauseLength]
  | some deadline =>
    obtain ⟨left, rfl, some_left, rfl⟩ := h.bounded deadline bounded
    rw [Lease.pauseLength, if_pos (Nat.lt_add_of_pos_right some_left), Nat.add_sub_cancel_left]

end Round

/-! ## The wait -/

/-- A wait under way. -/
structure Vigil (ρ : Type) where
  round : Nat
  /-- As found in this round, or as left by the attempt. -/
  arbiter : Arbiter ρ
  log : List Deed

variable {ρ : Type} {access : ExclusiveAccess ρ} {interval : Nat} {bounds : Bounds}
  {schedule : Nat → Round ρ} {n : Nat}

/-- A round begins. -/
def arrive (schedule : Nat → Round ρ) (round : Nat) (log : List Deed) : Vigil ρ :=
  { round, arbiter := (schedule round).arbiter, log }

/-- After a pause the next round of the schedule begins. -/
def surroundings (schedule : Nat → Round ρ) : Surroundings (Vigil ρ) where
  fired v := (schedule v.round).fired
  now v := (schedule v.round).now
  pause length v := arrive schedule (v.round + 1) (v.log ++ [.paused length])

def attempt (access : ExclusiveAccess ρ) (v : Vigil ρ) : Bool × Vigil ρ :=
  let (granted, arbiter) := v.arbiter.tryAcquire access
  (granted, { v with arbiter, log := v.log ++ [.attempted granted] })

theorem attempt_of_grants {k : Nat} (log : List Deed) (h : (schedule k).Grants access) :
    attempt access (arrive schedule k log) =
      (true, ⟨k, (schedule k).left access .granted, log ++ [.attempted true]⟩) := by
  rw [attempt, arrive, h.tryAcquire]

theorem attempt_of_not_grants {k : Nat} (log : List Deed) (h : ¬(schedule k).Grants access) :
    attempt access (arrive schedule k log) =
      (false, ⟨k, (schedule k).left access .expired, log ++ [.attempted false]⟩) := by
  rw [attempt, arrive, Round.tryAcquire_of_not_grants h]

theorem cancels_iff {k : Nat} {log : List Deed} :
    (bounds.token && (surroundings schedule).fired (arrive schedule k log)) = true ↔
      (schedule k).Cancels bounds :=
  Bool.and_eq_true_iff

/-- A round with an end. -/
theorem acquireBounded_of_ends {k : Nat} {ending : Ending} (log : List Deed)
    (h : (schedule k).Ends access bounds ending) :
    acquireBounded (surroundings schedule) interval bounds (attempt access) (n + 1)
        (arrive schedule k log) =
      (ending.waited, ⟨k, (schedule k).left access ending, log ++ ending.deeds⟩) := by
  rw [acquireBounded]
  cases h with
  | cancelled cancels =>
    rw [if_pos (cancels_iff.mpr cancels)]
    exact congrArg (fun log => (Waited.gaveUp, Vigil.mk k _ log)) (List.append_nil log).symm
  | granted uncancelled grants =>
    rw [if_neg (mt cancels_iff.mp uncancelled), attempt_of_grants log grants]
    rfl
  | expired uncancelled refused bounded late =>
    rw [if_neg (mt cancels_iff.mp uncancelled), attempt_of_not_grants log refused]
    have hlength : pauseLength interval bounds.deadline (schedule k).now = none := by
      rw [bounded, pauseLength, if_neg (Nat.not_lt.mpr late)]
    dsimp only [surroundings]
    rw [hlength]
    rfl

/-- A round with a pause. -/
theorem acquireBounded_of_pauses {k length : Nat} (log : List Deed)
    (h : (schedule k).Pauses access interval bounds length) :
    acquireBounded (surroundings schedule) interval bounds (attempt access) (n + 1)
        (arrive schedule k log) =
      acquireBounded (surroundings schedule) interval bounds (attempt access) n
        (arrive schedule (k + 1) (log ++ [.attempted false, .paused length])) := by
  rw [acquireBounded, if_neg (mt cancels_iff.mp h.uncancelled),
    attempt_of_not_grants log h.refused]
  have hlength : pauseLength interval bounds.deadline ((surroundings schedule).now
      ⟨k, (schedule k).left access .expired, log ++ [.attempted false]⟩) = some length :=
    h.pauseLength
  have hpause : (surroundings schedule).pause length
      ⟨k, (schedule k).left access .expired, log ++ [.attempted false]⟩ =
        arrive schedule (k + 1) (log ++ [.attempted false, .paused length]) :=
    congrArg (arrive schedule (k + 1)) (List.append_assoc log _ _)
  dsimp only
  rw [hlength, ← hpause]

/-- The first rounds have pauses of these lengths. -/
def Pausing (access : ExclusiveAccess ρ) (interval : Nat) (bounds : Bounds)
    (schedule : Nat → Round ρ) (lengths : List Nat) : Prop :=
  ∀ k length, lengths[k]? = some length → (schedule k).Pauses access interval bounds length

/-- What the party does in rounds with such pauses. -/
def pausingDeeds (lengths : List Nat) : List Deed :=
  lengths.flatMap fun length => [.attempted false, .paused length]

theorem pausing_snoc {lengths : List Nat} {length : Nat} :
    Pausing access interval bounds schedule (lengths ++ [length]) ↔
      Pausing access interval bounds schedule lengths ∧
        (schedule lengths.length).Pauses access interval bounds length := by
  constructor
  · intro h
    refine ⟨fun k length' hk => h k length' ?_, h _ _ List.getElem?_concat_length⟩
    rw [List.getElem?_append_left (List.getElem?_eq_some_iff.mp hk).1, hk]
  · rintro ⟨hbefore, hlast⟩ k length' hk
    rcases Nat.lt_trichotomy k lengths.length with hlt | rfl | hgt
    · exact hbefore k length' (by rwa [List.getElem?_append_left hlt] at hk)
    · rw [List.getElem?_concat_length] at hk
      exact Option.some.inj hk ▸ hlast
    · rw [List.getElem?_eq_none (by rw [List.length_append]; exact hgt)] at hk
      cases hk

/-- Some rounds with pauses, one round after the other. -/
theorem acquireBounded_of_pausing {lengths : List Nat}
    (h : Pausing access interval bounds schedule lengths) :
    acquireBounded (surroundings schedule) interval bounds (attempt access) (lengths.length + n)
        (arrive schedule 0 []) =
      acquireBounded (surroundings schedule) interval bounds (attempt access) n
        (arrive schedule lengths.length (pausingDeeds lengths)) := by
  induction lengths using List.reverseRecOn generalizing n with
  | nil => rw [List.length_nil, Nat.zero_add, pausingDeeds, List.flatMap_nil]
  | append_singleton lengths length ih =>
    obtain ⟨hbefore, hlast⟩ := pausing_snoc.mp h
    -- To the rounds before it the last pause is one of the rounds left over.
    have hrounds : (lengths ++ [length]).length + n = lengths.length + (n + 1) := by
      rw [List.length_append, List.length_singleton]
      omega
    rw [hrounds, ih hbefore, acquireBounded_of_pauses _ hlast, pausingDeeds, pausingDeeds,
      List.flatMap_append, List.flatMap_singleton, List.length_append, List.length_singleton]

/-- The wait ends in this round, and in none before it. -/
structure EndsAt (access : ExclusiveAccess ρ) (bounds : Bounds) (schedule : Nat → Round ρ)
    (k : Nat) (ending : Ending) : Prop where
  ends : (schedule k).Ends access bounds ending
  first : ∀ j < k, ∀ earlier, ¬(schedule j).Ends access bounds earlier

theorem Pausing.of_no_end (interval : Nat) {k : Nat}
    (h : ∀ j < k, ∀ ending, ¬(schedule j).Ends access bounds ending) :
    ∃ lengths, lengths.length = k ∧ Pausing access interval bounds schedule lengths := by
  induction k with
  | zero => exact ⟨[], rfl, nofun⟩
  | succ k ih =>
    obtain ⟨lengths, rfl, hbefore⟩ := ih fun j hj => h j (Nat.lt_succ_of_lt hj)
    rcases (schedule lengths.length).ends_or_pauses access interval bounds with
      ⟨ending, hends⟩ | ⟨length, hpauses⟩
    · exact absurd hends (h _ (Nat.lt_succ_self _) ending)
    · exact ⟨lengths ++ [length], List.length_append, pausing_snoc.mpr ⟨hbefore, hpauses⟩⟩

/-- Some rounds either have no end, or one is the first that has. -/
theorem no_end_or_endsAt (access : ExclusiveAccess ρ) (bounds : Bounds)
    (schedule : Nat → Round ρ) (n : Nat) :
    (∀ k < n, ∀ ending, ¬(schedule k).Ends access bounds ending) ∨
      ∃ k < n, ∃ ending, EndsAt access bounds schedule k ending := by
  induction n with
  | zero => exact .inl nofun
  | succ n ih =>
    rcases ih with hbefore | ⟨k, hk, ending, hends⟩
    · by_cases hlast : ∃ ending, (schedule n).Ends access bounds ending
      · obtain ⟨ending, hends⟩ := hlast
        exact .inr ⟨n, Nat.lt_succ_self n, ending, hends, hbefore⟩
      · refine .inl fun k hk => ?_
        rcases Nat.lt_succ_iff_lt_or_eq.mp hk with hlt | rfl
        · exact hbefore k hlt
        · exact not_exists.mp hlast
    · exact .inr ⟨k, Nat.lt_succ_of_lt hk, ending, hends⟩

/-- A wait along the schedule, after some rounds. -/
def waitAlong (access : ExclusiveAccess ρ) (schedule : Nat → Round ρ) (interval : Nat)
    (bounds : Bounds) (rounds : Nat) : Waited × Vigil ρ :=
  acquireBounded (surroundings schedule) interval bounds (attempt access) rounds
    (arrive schedule 0 [])

/-- Rounds without an end. -/
theorem waitAlong_of_no_end (interval : Nat)
    (h : ∀ k < n, ∀ ending, ¬(schedule k).Ends access bounds ending) :
    ∃ lengths, lengths.length = n ∧ Pausing access interval bounds schedule lengths ∧
      waitAlong access schedule interval bounds n =
        (.waiting, arrive schedule n (pausingDeeds lengths)) := by
  obtain ⟨lengths, rfl, hpausing⟩ := Pausing.of_no_end interval h
  exact ⟨lengths, rfl, hpausing, acquireBounded_of_pausing (n := 0) hpausing⟩

/-- Rounds up to the end of the wait. -/
theorem EndsAt.waitAlong_eq {k : Nat} {ending : Ending} (interval : Nat)
    (h : EndsAt access bounds schedule k ending) (hk : k < n) :
    ∃ lengths, lengths.length = k ∧ Pausing access interval bounds schedule lengths ∧
      waitAlong access schedule interval bounds n = (ending.waited,
        ⟨k, (schedule k).left access ending, pausingDeeds lengths ++ ending.deeds⟩) := by
  obtain ⟨lengths, rfl, hpausing⟩ := Pausing.of_no_end interval h.first
  obtain ⟨more, rfl⟩ := Nat.exists_eq_add_of_lt hk
  refine ⟨lengths, rfl, hpausing, ?_⟩
  rw [waitAlong, Nat.add_assoc, acquireBounded_of_pausing hpausing, acquireBounded_of_ends _ h.ends]

theorem EndsAt.waited_eq {k : Nat} {ending : Ending} (interval : Nat)
    (h : EndsAt access bounds schedule k ending) (hk : k < n) :
    (waitAlong access schedule interval bounds n).1 = ending.waited := by
  obtain ⟨_, -, -, hwait⟩ := h.waitAlong_eq interval hk
  rw [hwait]

theorem waited_eq_waiting_iff (interval : Nat) :
    (waitAlong access schedule interval bounds n).1 = .waiting ↔
      ∀ k < n, ∀ ending, ¬(schedule k).Ends access bounds ending := by
  constructor
  · intro hwaited
    refine (no_end_or_endsAt access bounds schedule n).resolve_right ?_
    rintro ⟨k, hk, ending, hends⟩
    rw [hends.waited_eq interval hk] at hwaited
    cases ending <;> cases hwaited
  · intro hnone
    obtain ⟨_, -, -, hwait⟩ := waitAlong_of_no_end interval hnone
    rw [hwait]

/-- A wait that is over ended in some round. -/
theorem exists_endsAt_of_waited (interval : Nat)
    (h : (waitAlong access schedule interval bounds n).1 ≠ .waiting) :
    ∃ k < n, ∃ ending, EndsAt access bounds schedule k ending ∧
      (waitAlong access schedule interval bounds n).1 = ending.waited := by
  rcases no_end_or_endsAt access bounds schedule n with hnone | ⟨k, hk, ending, hends⟩
  · exact absurd ((waited_eq_waiting_iff interval).mpr hnone) h
  · exact ⟨k, hk, ending, hends, hends.waited_eq interval hk⟩

theorem waited_eq_acquired_iff (interval : Nat) :
    (waitAlong access schedule interval bounds n).1 = .acquired ↔
      ∃ k < n, EndsAt access bounds schedule k .granted := by
  refine ⟨fun hwaited => ?_, fun ⟨k, hk, hends⟩ => hends.waited_eq interval hk⟩
  obtain ⟨k, hk, ending, hends, heq⟩ := exists_endsAt_of_waited interval (by rw [hwaited]; nofun)
  rw [hwaited] at heq
  cases ending with
  | granted => exact ⟨k, hk, hends⟩
  | cancelled | expired => cases heq

theorem waited_eq_gaveUp_iff (interval : Nat) :
    (waitAlong access schedule interval bounds n).1 = .gaveUp ↔
      ∃ k < n, EndsAt access bounds schedule k .cancelled ∨
        EndsAt access bounds schedule k .expired := by
  refine ⟨fun hwaited => ?_, fun ⟨k, hk, hends⟩ =>
    hends.elim (fun h => h.waited_eq interval hk) fun h => h.waited_eq interval hk⟩
  obtain ⟨k, hk, ending, hends, heq⟩ := exists_endsAt_of_waited interval (by rw [hwaited]; nofun)
  rw [hwaited] at heq
  cases ending with
  | granted => cases heq
  | cancelled => exact ⟨k, hk, .inl hends⟩
  | expired => exact ⟨k, hk, .inr hends⟩

/-- An end of the first round. -/
theorem waitAlong_of_ends {ending : Ending} (interval : Nat)
    (h : (schedule 0).Ends access bounds ending) (hn : 0 < n) :
    waitAlong access schedule interval bounds n =
      (ending.waited, ⟨0, (schedule 0).left access ending, ending.deeds⟩) := by
  obtain ⟨more, rfl⟩ := Nat.exists_eq_add_one.mpr hn
  exact acquireBounded_of_ends [] h

/-- By induction on the rounds. -/
theorem acquireBounded_unbounded {ω : Type} (around : Surroundings ω) (interval : Nat)
    (attempt : ω → Bool × ω) (rounds : Nat) (w : ω) :
    acquireBounded around interval {} attempt rounds w =
      acquireBlocking around interval attempt rounds w := by
  induction rounds generalizing w with
  | zero => rfl
  | succ rounds ih =>
    rw [acquireBounded, acquireBlocking, if_neg (by rw [Bool.false_and]; decide)]
    obtain ⟨_ | _, w'⟩ := attempt w
    · exact ih _
    · rfl

/-- What a bounded wait comes to within some rounds of any schedule.

It is acquired exactly if the first round with an end grants it, is given up exactly if the token
or the deadline ends that round, and goes on exactly if no round has an end. Up to the end there
is one attempt and one pause in each round, each pause within the time that is left. In the last
round there is none with a token that has fired, and else one, and no pause.

So with a token that has fired at first nothing is attempted, and with a deadline that has passed
the party attempts once. With neither the wait is the one without bound. -/
theorem bounded_wait_follows_schedule (access : ExclusiveAccess ρ) (schedule : Nat → Round ρ)
    (interval : Nat) (bounds : Bounds) (rounds : Nat) :
    let wait := waitAlong access schedule interval bounds rounds
    (wait.1 = .acquired ↔ ∃ k < rounds, EndsAt access bounds schedule k .granted) ∧
    (wait.1 = .gaveUp ↔ ∃ k < rounds, EndsAt access bounds schedule k .cancelled ∨
      EndsAt access bounds schedule k .expired) ∧
    (wait.1 = .waiting ↔ ∀ k < rounds, ∀ ending, ¬(schedule k).Ends access bounds ending) ∧
    (∀ k < rounds, ∀ ending, EndsAt access bounds schedule k ending →
      ∃ lengths, lengths.length = k ∧ Pausing access interval bounds schedule lengths ∧
        wait.2 =
          ⟨k, (schedule k).left access ending, pausingDeeds lengths ++ ending.deeds⟩) ∧
    (wait.1 = .waiting →
      ∃ lengths, lengths.length = rounds ∧ Pausing access interval bounds schedule lengths ∧
        wait.2 = arrive schedule rounds (pausingDeeds lengths)) ∧
    (0 < rounds → (schedule 0).Cancels bounds → wait = (.gaveUp, arrive schedule 0 [])) ∧
    (0 < rounds → ¬(schedule 0).Cancels bounds →
      ∀ deadline, bounds.deadline = some deadline → deadline ≤ (schedule 0).now →
        ∃ granted, (granted = true ↔ (schedule 0).Grants access) ∧
          wait.1 = (if granted then .acquired else .gaveUp) ∧
          wait.2.log = [.attempted granted]) ∧
    waitAlong access schedule interval {} rounds =
      acquireBlocking (surroundings schedule) interval (attempt access) rounds
        (arrive schedule 0 []) := by
  intro wait
  refine ⟨waited_eq_acquired_iff interval, waited_eq_gaveUp_iff interval,
    waited_eq_waiting_iff interval, fun k hk ending hends => ?_, fun hwaited => ?_,
    fun hrounds cancels => waitAlong_of_ends interval (.cancelled cancels) hrounds,
    fun hrounds uncancelled deadline bounded late => ?_, acquireBounded_unbounded _ _ _ _ _⟩
  · obtain ⟨lengths, hlengths, hpausing, hwait⟩ := hends.waitAlong_eq interval hk
    exact ⟨lengths, hlengths, hpausing, congrArg Prod.snd hwait⟩
  · obtain ⟨lengths, hlengths, hpausing, hwait⟩ :=
      waitAlong_of_no_end interval ((waited_eq_waiting_iff interval).mp hwaited)
    exact ⟨lengths, hlengths, hpausing, congrArg Prod.snd hwait⟩
  · by_cases grants : (schedule 0).Grants access
    · have hwait := waitAlong_of_ends interval (.granted uncancelled grants) hrounds
      exact ⟨true, iff_of_true rfl grants, congrArg Prod.fst hwait, congrArg (·.2.log) hwait⟩
    · have hwait := waitAlong_of_ends interval (.expired uncancelled grants bounded late) hrounds
      exact ⟨false, iff_of_false nofun grants, congrArg Prod.fst hwait, congrArg (·.2.log) hwait⟩

/-- A door that is locked at first, then does not open, and opens once the deadline has passed.
With a token that has fired nobody tries it. -/
theorem bounded_wait_follows_schedule_of_door :
    let door : ExclusiveAccess Bool := { tryBegin := fun opens => (opens, opens), finish := id }
    let schedule : Nat → Round Bool
      | 0 => { fired := false, arbiter := { resource := true, session := some {} }, now := 10 }
      | 1 => { fired := false, arbiter := { resource := false }, now := 45 }
      | _ => { fired := false, arbiter := { resource := true }, now := 60 }
    let fired : Nat → Round Bool := fun k => { schedule k with fired := true }
    let bounds : Bounds := { deadline := some 50, token := true }
    let wait := waitAlong door schedule 20 bounds 5
    (EndsAt door bounds schedule 2 .granted ∧ wait.1 = .acquired ∧
      wait.2 = ⟨2, { resource := true, session := some {} },
        [.attempted false, .paused 20, .attempted false, .paused 5, .attempted true]⟩) ∧
    ((fired 0).Cancels bounds ∧
      waitAlong door fired 20 bounds 5 = (.gaveUp, arrive fired 0 [])) := by
  intro door schedule fired bounds wait
  have hends : EndsAt door bounds schedule 2 .granted := by
    refine ⟨.granted (by rintro ⟨-, ⟨⟩⟩) ⟨rfl, rfl⟩, fun j hj => ?_⟩
    match j, hj with
    | 0, _ =>
      have pauses : (schedule 0).Pauses door 20 bounds 20 :=
        ⟨by rintro ⟨-, ⟨⟩⟩, by rintro ⟨⟨⟩, -⟩, nofun, by
          rintro _ ⟨⟩
          exact ⟨40, rfl, by decide, rfl⟩⟩
      exact pauses.not_ends
    | 1, _ =>
      have pauses : (schedule 1).Pauses door 20 bounds 5 :=
        ⟨by rintro ⟨-, ⟨⟩⟩, by rintro ⟨-, ⟨⟩⟩, nofun, by
          rintro _ ⟨⟩
          exact ⟨5, rfl, by decide, rfl⟩⟩
      exact pauses.not_ends
  obtain ⟨hacquired, -⟩ := bounded_wait_follows_schedule door schedule 20 bounds 5
  obtain ⟨-, -, -, -, -, hcancelled, -⟩ := bounded_wait_follows_schedule door fired 20 bounds 5
  exact ⟨⟨hends, hacquired.mpr ⟨2, by decide, hends⟩, rfl⟩, ⟨rfl, rfl⟩,
    hcancelled (by decide) ⟨rfl, rfl⟩⟩

end BusMaster.Lease
