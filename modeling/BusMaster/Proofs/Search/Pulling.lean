import BusMaster.Proofs.Search.Filtering
import BusMaster.Proofs.Search.Protocol

/-!
# Pulling is walking up to the end

A walk by hand begins anew when it goes on past its end. A listing makes the requests
of such a walk, one for each pull, and stops with the first answer that nothing comes
after: from there on a pull asks the transport nothing and leaves the bus alone.

* `Search.Settles`, `Search.findNext_settles`: where a request leaves the cursor;
* `Bus.walked`, `Devices.pulled`: some requests of a walk by hand, and some pulls;
* `Bus.findNext_of_walked_finished`, `Bus.findNext_of_walked_failed`: what going on with a
  walk that is over comes to;
* `Devices.pulled_eq_walked`: pull by pull the same, up to the last answer;
* `Devices.pulled_of_last`: the pulls after it;
* `Devices.pulls_are_walk_up_to_end`: all together.
-/

namespace BusMaster

open Devices (isLast)

namespace Search

variable {σ : Type} {t : Transport σ} {c : SearchCursor}

/-- A request keeps the options. At the end of the enumeration it leaves the cursor before
the first pass, and after a failure with nothing to go on with. -/
structure Settles (c : SearchCursor) (r : Found × SearchCursor × σ) : Prop where
  options : r.2.1.restart = c.restart
  finished : r.1 = .finished → r.2.1 = c.restart
  failed : ∀ e, r.1 = .failed e → r.2.1.exhausted = true

theorem step_settles (t : Transport σ) (c : SearchCursor) (s : σ) : Settles c (step t c s) := by
  cases hx : c.exhausted with
  | true =>
    rw [step_of_exhausted t hx]
    exact ⟨rfl, fun _ => rfl, nofun⟩
  | false =>
    obtain ⟨htakes, -⟩ := step_takes t hx s
    generalize step t c s = r at htakes
    obtain ⟨found, c', s'⟩ := r
    generalize (t.perform (.search c.pass) s).1 = answer at htakes
    cases htakes with
    | failed => exact ⟨rfl, nofun, fun _ _ => rfl⟩
    | silent => exact ⟨rfl, fun _ => rfl, nofun⟩
    | last | branch => exact ⟨rfl, nofun, nofun⟩

/-- By induction on the passes that the request may take. -/
theorem findNext_settles (t : Transport σ) (filter : FamilyFilter) (limit : Nat)
    (c : SearchCursor) (s : σ) : Settles c (findNext t filter limit c s) := by
  induction limit generalizing c s with
  | zero => exact ⟨rfl, nofun, nofun⟩
  | succ limit ih =>
    have hstep := step_settles t c s
    rcases step_cases t c s with stops | ⟨a, c', s', answer⟩
    · rw [findNext_of_isLast stops]
      exact hstep
    · rw [answer] at hstep
      cases hf : filter.accepts a with
      | true =>
        rw [findNext_of_accepted answer hf]
        exact hstep
      | false =>
        have hrest := ih c' s'
        rw [findNext_of_hidden answer hf]
        exact ⟨hrest.options.trans hstep.options,
          fun h => (hrest.finished h).trans hstep.options, hrest.failed⟩

end Search

namespace Bus

variable {σ : Type} {t : Transport σ} {alarmOnly skipReset : Bool} {b : Bus σ} {n : Nat}
  {before : List Found} {last : Found}

/-- The answers to `n` requests of a walk by hand, `findFirst` and then `findNext` whatever
the answers are, and the bus after them. -/
def walked (t : Transport σ) (alarmOnly skipReset : Bool) (b : Bus σ) : Nat → List Found × Bus σ
  | 0 => ([], b)
  | n + 1 =>
    let (answers, b) := b.walked t alarmOnly skipReset n
    let (answer, b) := if n = 0 then b.findFirst t alarmOnly skipReset else b.findNext t
    (answers ++ [answer], b)

/-- The cursor after a request of the walk: the options are those of the walk. -/
theorem walked_settles (t : Transport σ) (alarmOnly skipReset : Bool) (b : Bus σ) (n : Nat) :
    ∃ answer, (b.walked t alarmOnly skipReset (n + 1)).1 =
        (b.walked t alarmOnly skipReset n).1 ++ [answer] ∧
      Search.Settles { alarmOnly, skipReset } (answer,
        (b.walked t alarmOnly skipReset (n + 1)).2.cursor,
        (b.walked t alarmOnly skipReset (n + 1)).2.line) := by
  induction n with
  | zero => exact ⟨_, rfl, Search.findNext_settles t b.filter (t.passLimit b.line) _ b.line⟩
  | succ n ih =>
    obtain ⟨_, -, hbefore⟩ := ih
    generalize hw : b.walked t alarmOnly skipReset (n + 1) = w at hbefore
    obtain ⟨answers, b'⟩ := w
    rw [walked, hw]
    have h := Search.findNext_settles t b'.filter (t.passLimit b'.line) b'.cursor b'.line
    exact ⟨_, rfl, h.options.trans hbefore.options,
      fun hf => (h.finished hf).trans hbefore.options, h.failed⟩

theorem settles_of_walked (h : (b.walked t alarmOnly skipReset n).1 = before ++ [last]) :
    Search.Settles { alarmOnly, skipReset } (last, (b.walked t alarmOnly skipReset n).2.cursor,
      (b.walked t alarmOnly skipReset n).2.line) := by
  cases n with
  | zero => exact absurd h.symm (List.append_ne_nil_of_right_ne_nil before (List.cons_ne_nil _ _))
  | succ n =>
    obtain ⟨answer, hanswers, hsettles⟩ := b.walked_settles t alarmOnly skipReset n
    obtain ⟨-, heq⟩ := List.append_inj' (h.symm.trans hanswers) rfl
    cases heq
    exact hsettles

/-- A walk that goes on past its end begins anew. -/
theorem findNext_of_walked_finished
    (h : (b.walked t alarmOnly skipReset n).1 = before ++ [.finished]) :
    (b.walked t alarmOnly skipReset n).2.findNext t =
      (b.walked t alarmOnly skipReset n).2.findFirst t alarmOnly skipReset := by
  have hcursor : (b.walked t alarmOnly skipReset n).2.cursor = { alarmOnly, skipReset } :=
    (settles_of_walked h).finished rfl
  rw [findFirst_eq_findNext, ← hcursor]

/-- A walk that goes on after a failure comes to its end. -/
theorem findNext_of_walked_failed {e : BusError}
    (h : (b.walked t alarmOnly skipReset n).1 = before ++ [.failed e])
    (passes : 0 < t.passLimit (b.walked t alarmOnly skipReset n).2.line) :
    (b.walked t alarmOnly skipReset n).2.findNext t = (.finished,
      { (b.walked t alarmOnly skipReset n).2 with cursor := { alarmOnly, skipReset } }) := by
  have hoptions : (b.walked t alarmOnly skipReset n).2.cursor.restart =
      { alarmOnly, skipReset } := (settles_of_walked h).options
  rw [findNext_of_exhausted ((settles_of_walked h).failed e rfl) passes, hoptions]

end Bus

namespace Devices

variable {σ : Type} {t : Transport σ} {alarmOnly skipReset : Bool} {b : Bus σ} {n : Nat}
  {before : List Found} {last : Found}

/-- The answers to `n` pulls, and the listing and the bus after them. -/
def pulled (t : Transport σ) (d : Devices) (b : Bus σ) : Nat → List Found × Devices × Bus σ
  | 0 => ([], d, b)
  | n + 1 =>
    let (answers, d, b) := d.pulled t b n
    let (answer, d, b) := d.next t b
    (answers ++ [answer], d, b)

/-- The listing after `n` pulls of which none gave a last answer. -/
def underway (alarmOnly skipReset : Bool) (n : Nat) : Devices :=
  { alarmOnly, skipReset, started := decide (n ≠ 0) }

/-- While the walk by hand has not come to a last answer, a pull makes its next request. -/
theorem pulled_succ (h : pulled t { alarmOnly, skipReset } b n =
      ((b.walked t alarmOnly skipReset n).1, underway alarmOnly skipReset n,
        (b.walked t alarmOnly skipReset n).2)) :
    ∃ answer, (b.walked t alarmOnly skipReset (n + 1)).1 =
        (b.walked t alarmOnly skipReset n).1 ++ [answer] ∧
      pulled t { alarmOnly, skipReset } b (n + 1) =
        ((b.walked t alarmOnly skipReset (n + 1)).1,
          { underway alarmOnly skipReset (n + 1) with done := isLast answer },
          (b.walked t alarmOnly skipReset (n + 1)).2) := by
  rw [pulled, h, Bus.walked]
  cases n with
  | zero => exact ⟨_, rfl, rfl⟩
  | succ n => exact ⟨_, rfl, rfl⟩

theorem pulled_of_going (h : ∀ answer ∈ (b.walked t alarmOnly skipReset n).1,
    isLast answer = false) : pulled t { alarmOnly, skipReset } b n =
      ((b.walked t alarmOnly skipReset n).1, underway alarmOnly skipReset n,
        (b.walked t alarmOnly skipReset n).2) := by
  induction n with
  | zero => rfl
  | succ n ih =>
    obtain ⟨answer, hanswers, -⟩ := b.walked_settles t alarmOnly skipReset n
    rw [hanswers, List.forall_mem_append, List.forall_mem_singleton] at h
    obtain ⟨answer', hanswers', hpulled⟩ := pulled_succ (ih h.1)
    obtain rfl : answer' = answer := by simpa using hanswers'.symm.trans hanswers
    rw [hpulled, h.2]
    rfl

/-- Pulls up to the first last answer of the walk by hand. -/
theorem pulled_eq_walked (h : ∀ answer ∈ (b.walked t alarmOnly skipReset n).1.dropLast,
    isLast answer = false) : ∃ d, pulled t { alarmOnly, skipReset } b n =
      ((b.walked t alarmOnly skipReset n).1, d, (b.walked t alarmOnly skipReset n).2) ∧
    ∀ last ∈ (b.walked t alarmOnly skipReset n).1.getLast?, d.done = isLast last := by
  cases n with
  | zero => exact ⟨_, rfl, nofun⟩
  | succ n =>
    obtain ⟨answer, hanswers, -⟩ := b.walked_settles t alarmOnly skipReset n
    rw [hanswers, List.dropLast_concat] at h
    obtain ⟨answer', hanswers', hpulled⟩ := pulled_succ (pulled_of_going h)
    refine ⟨_, hpulled, fun last hlast => ?_⟩
    rw [hanswers', List.getLast?_concat] at hlast
    rw [Option.some.inj hlast]

/-- A pull from a listing that is over asks the transport nothing. -/
theorem pulled_past_end {d d' : Devices} {b b' : Bus σ} {answers : List Found} {n : Nat}
    (h : d.pulled t b n = (answers, d', b')) (done : d'.done = true) (more : Nat) :
    d.pulled t b (n + more) = (answers ++ List.replicate more .finished, d', b') := by
  induction more with
  | zero => simpa using h
  | succ more ih =>
    have hnext : d'.next t b' = (.finished, d', b') := if_pos done
    rw [← Nat.add_assoc, pulled, ih]
    dsimp only
    rw [hnext, List.replicate_succ', List.append_assoc]

/-- Pulls past the first last answer of the walk by hand. -/
theorem pulled_of_last (hanswers : (b.walked t alarmOnly skipReset n).1 = before ++ [last])
    (hlast : isLast last = true) (hbefore : ∀ answer ∈ before, isLast answer = false)
    (more : Nat) : ∃ d, pulled t { alarmOnly, skipReset } b (n + more) =
      (before ++ last :: List.replicate more .finished, d,
        (b.walked t alarmOnly skipReset n).2) := by
  have hgoing : ∀ answer ∈ (b.walked t alarmOnly skipReset n).1.dropLast,
      isLast answer = false := by
    rwa [hanswers, List.dropLast_concat]
  obtain ⟨d, hpulled, hdone⟩ := pulled_eq_walked hgoing
  rw [hanswers] at hpulled hdone
  have hover : d.done = true := (hdone last List.getLast?_concat).trans hlast
  rw [pulled_past_end hpulled hover, List.append_assoc]
  exact ⟨d, rfl⟩

/-- A listing makes the requests of a walk by hand, pull by pull, up to the first answer
that says that the enumeration is over or has failed: it gives the same answers, with the
same calls and the same cursor and all else of the bus. Every later pull answers that the
enumeration is over and leaves the bus, its calls included, as it is. A listing that is
not pulled from does nothing.

A walk by hand that goes on after its end begins anew, and after a failure it comes to its
end first. -/
theorem pulls_are_walk_up_to_end (t : Transport σ) (alarmOnly skipReset : Bool)
    (b : Bus (σ × List Call)) :
    let pulled := pulled t.recorded { alarmOnly, skipReset } b
    let walked := b.walked t.recorded alarmOnly skipReset
    (pulled 0).2.2 = b ∧
    (∀ n, (∀ answer ∈ (walked n).1.dropLast, isLast answer = false) →
      (pulled n).1 = (walked n).1 ∧ (pulled n).2.2 = (walked n).2) ∧
    ∀ n before last, (walked n).1 = before ++ [last] → isLast last = true →
      (∀ answer ∈ before, isLast answer = false) →
        (∀ more, (pulled (n + more)).1 = before ++ last :: List.replicate more .finished ∧
          (pulled (n + more)).2.2 = (walked n).2) ∧
        (last = .finished → (walked n).2.findNext t.recorded =
          (walked n).2.findFirst t.recorded alarmOnly skipReset) ∧
        ∀ e, last = .failed e → 0 < t.passLimit (walked n).2.line.1 →
          (walked n).2.findNext t.recorded =
            (.finished, { (walked n).2 with cursor := { alarmOnly, skipReset } }) := by
  intro pulled walked
  refine ⟨rfl, fun n h => ?_, fun n before last hanswers hlast hbefore => ?_⟩
  · obtain ⟨d, hpulled, -⟩ := pulled_eq_walked h
    exact ⟨congrArg Prod.fst hpulled, congrArg (·.2.2) hpulled⟩
  refine ⟨fun more => ?_, ?_, ?_⟩
  · obtain ⟨d, hpulled⟩ := pulled_of_last hanswers hlast hbefore more
    exact ⟨congrArg Prod.fst hpulled, congrArg (·.2.2) hpulled⟩
  · rintro rfl
    exact Bus.findNext_of_walked_finished hanswers
  · rintro e rfl passes
    exact Bus.findNext_of_walked_failed hanswers passes

/-- A listing that passes over a hidden address and comes to its end, and one that fails. -/
theorem pulls_are_walk_up_to_end_of_script :
    let t := Script.transport.recorded
    let b : Bus (Script × List Call) :=
      { line := ({ search := [.ok ⟨7, some ⟨0x210⟩⟩, .ok ⟨7, some ⟨0x128⟩⟩] }, [])
        filter := .excluding [0x10]
        capabilities := {}
        port := none }
    let failing := { b with line := ({ search := [.error (.io "unplugged")] }, []) }
    let walked := b.walked t true false
    let pulled := Devices.pulled t { alarmOnly := true } b
    let failed := failing.walked t true false
    let pulled' := Devices.pulled t { alarmOnly := true } failing
    (((walked 2).1 = [.device ⟨0x128⟩, .finished] ∧ (walked 2).2.line.2.length = 2) ∧
      ((pulled 5).1 = [.device ⟨0x128⟩, .finished, .finished, .finished, .finished] ∧
        (pulled 5).2.2 = (walked 2).2) ∧
      (walked 2).2.findNext t = (walked 2).2.findFirst t true false) ∧
    ((pulled' 3).1 = [.failed (.io "unplugged"), .finished, .finished] ∧
      (pulled' 3).2.2 = (failed 1).2) ∧
    (failed 1).2.findNext t =
      (.finished, { (failed 1).2 with cursor := { alarmOnly := true } }) := by
  intro t b failing walked pulled failed pulled'
  have hwalked : (walked 2).1 = [.device ⟨0x128⟩, .finished] := by decide +revert
  have hcalls : (walked 2).2.line.2.length = 2 := by decide +revert
  obtain ⟨-, -, hended⟩ := pulls_are_walk_up_to_end Script.transport true false b
  obtain ⟨hpulls, hanew, -⟩ :=
    hended 2 [.device ⟨0x128⟩] .finished hwalked rfl (List.forall_mem_singleton.mpr rfl)
  obtain ⟨-, -, hfailed⟩ := pulls_are_walk_up_to_end Script.transport true false failing
  obtain ⟨hpulls', -, hover⟩ := hfailed 1 [] (.failed (.io "unplugged")) rfl rfl nofun
  exact ⟨⟨⟨hwalked, hcalls⟩, hpulls 3, hanew rfl⟩, hpulls' 2, hover _ rfl (Nat.succ_pos _)⟩

end Devices

end BusMaster
