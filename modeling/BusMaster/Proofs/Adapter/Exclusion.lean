import BusMaster.Proofs.Adapter.Session

/-!
# Exclusive access

Any number of adapters and of drivers without one share a wire, and take turns in
any order.

* `Site`, `Site.act`, `Site.run`: the parties on one wire, and what they do one
  after the other;
* `Site.Invariant`: the claim is that of one party or of none, and each adapter
  knows which;
* `Invariant.act`, `Invariant.run`: every step keeps it, and so does every run;
* `Site.run_exclusive`: what follows for every order of steps.
-/

namespace BusMaster

/-- A wire with the parties attached to it: adapters, whose calls are recorded,
and drivers that stand alone. -/
structure Site where
  net : Network
  adapters : List (Adapter (Driver × List Call))
  drivers : List Driver

/-- The adapter with the wire that it drives. -/
def Adapter.onWire (net : Network) (a : Adapter (Driver × List Call)) :
    Adapter ((Network × Driver) × List Call) :=
  a.map fun (drv, calls) => ((net, drv), calls)

def Adapter.offWire (a : Adapter ((Network × Driver) × List Call)) :
    Adapter (Driver × List Call) :=
  a.map fun ((_, drv), calls) => (drv, calls)

/-- What a driver without an adapter does. -/
inductive Driver.Action where
  | begin
  | finish
  | perform (primitive : Primitive)
deriving DecidableEq, Repr

/-- What becomes of the driver and its wire, and whether it was granted what it
attempted. -/
def Driver.Action.run (s : Network × Driver) : Driver.Action → Bool × Network × Driver
  | begin => Driver.beginExclusive s
  | finish => (true, Driver.endExclusive s)
  | perform primitive => (true, (Driver.perform primitive s).2)

/-- One step of a driver moves the claim in one of the ways there are. -/
theorem Driver.Action.run_moves (action : Driver.Action) (net : Network) (drv : Driver) :
    ClaimMove net.claimed drv.holding (action.run (net, drv)).2.1.claimed
      (action.run (net, drv)).2.2.holding := by
  cases action with
  | begin =>
    rw [run, Driver.beginExclusive]
    cases h : net.claimed
    · exact .opens _
    · rw [if_pos rfl, h]
      exact .stays _ _
  | finish =>
    rw [run, Driver.endExclusive]
    cases h : drv.holding
    · rw [if_neg (by decide), h]
      exact .stays _ _
    · exact .closes _
  | perform primitive =>
    have hs := Driver.perform_frame primitive (net, drv)
    rw [run, hs.claimed, hs.holding]
    exact .stays _ _

namespace Site

/-- Who can hold the wire. -/
inductive Party where
  | session (adapter : Nat)
  | driver (number : Nat)
deriving DecidableEq, Repr

/-- The step of one party. -/
inductive Step where
  | adapter (number : Nat) (action : Adapter.Action)
  | driver (number : Nat) (action : Driver.Action)
deriving DecidableEq, Repr

/-- One step, and whether the party was granted what it attempted and had not to
wait. -/
def act (s : Site) : Step → Bool × Site
  | .adapter number action =>
    match s.adapters[number]? with
    | none => (false, s)
    | some a =>
      let (done, a) := action.run Driver.recorded (a.onWire s.net)
      (done, { s with net := a.line.1.1, adapters := s.adapters.set number a.offWire })
  | .driver number action =>
    match s.drivers[number]? with
    | none => (false, s)
    | some drv =>
      let (done, net, drv) := action.run (s.net, drv)
      (done, { s with net, drivers := s.drivers.set number drv })

/-- Steps one after the other, in whatever order the parties come to theirs. -/
def run (s : Site) (steps : List Step) : Site :=
  steps.foldl (fun s step => (s.act step).2) s

/-- The party holds the exclusive open. -/
def holds (s : Site) : Party → Bool
  | .session number => s.adapters[number]?.any (·.isOpen)
  | .driver number => s.drivers[number]?.any (·.holding)

/-- Nobody holds a session or the wire, and nobody ever opened it. -/
structure Fresh (s : Site) : Prop where
  unclaimed : s.net.claimed = false
  adapters : ∀ a ∈ s.adapters, a.isHeld = false ∧ a.line.1.holding = false ∧ openings a.line.2 = []
  drivers : ∀ drv ∈ s.drivers, drv.holding = false

/-! ## The invariant -/

/-- The wire is claimed by the one party that holds it, and by nobody if none
does. -/
def OneHolder (claimed : Bool) (holds : Party → Bool) : Prop :=
  ∃ holder : Option Party, claimed = holder.isSome ∧ ∀ p, holds p = true ↔ holder = some p

/-- The claim and the sessions are in step. -/
structure Invariant (s : Site) : Prop where
  holder : OneHolder s.net.claimed s.holds
  kept : ∀ (i : Nat) (a : Adapter (Driver × List Call)), s.adapters[i]? = some a →
    (a.onWire s.net).Kept

/-- A move of one party's hold keeps that there is at most one holder. -/
theorem OneHolder.move {claimed claimed' : Bool} {holds holds' : Party → Bool} {p : Party}
    (h : OneHolder claimed holds) (hm : ClaimMove claimed (holds p) claimed' (holds' p))
    (others : ∀ q, q ≠ p → holds' q = holds q) : OneHolder claimed' holds' := by
  obtain ⟨holder, hc, hh⟩ := h
  generalize hb : holds p = before at hm
  generalize ha : holds' p = after at hm
  cases hm with
  | stays =>
    refine ⟨holder, hc, fun q => ?_⟩
    rw [← hh q]
    by_cases hq : q = p
    · rw [hq, ha, hb]
    · rw [others q hq]
  | opens =>
    have hnone : holder = none := by simpa using hc
    refine ⟨some p, rfl, fun q => ?_⟩
    by_cases hq : q = p
    · simp [hq, ha]
    · rw [others q hq, hh q, hnone]
      simp [Ne.symm hq]
  | closes =>
    have hp : holder = some p := (hh p).mp hb
    refine ⟨none, rfl, fun q => ?_⟩
    by_cases hq : q = p
    · simp [hq, ha]
    · rw [others q hq, hh q, hp]
      simp [Ne.symm hq]

variable {s : Site} {i j : Nat} {a : Adapter (Driver × List Call)} {drv : Driver}

theorem act_adapter (h : s.adapters[i]? = some a) (action : Adapter.Action) :
    s.act (.adapter i action) = ((action.run Driver.recorded (a.onWire s.net)).1, { s with
      net := (action.run Driver.recorded (a.onWire s.net)).2.line.1.1
      adapters := s.adapters.set i (action.run Driver.recorded (a.onWire s.net)).2.offWire }) := by
  rw [act, h]

theorem act_driver (h : s.drivers[j]? = some drv) (action : Driver.Action) :
    s.act (.driver j action) = ((action.run (s.net, drv)).1, { s with
      net := (action.run (s.net, drv)).2.1
      drivers := s.drivers.set j (action.run (s.net, drv)).2.2 }) := by
  rw [act, h]

theorem holds_session (h : s.adapters[i]? = some a) : s.holds (.session i) = a.isOpen := by
  rw [holds, h]
  rfl

theorem holds_driver (h : s.drivers[j]? = some drv) : s.holds (.driver j) = drv.holding := by
  rw [holds, h]
  rfl

theorem Fresh.holds (h : s.Fresh) (p : Party) : s.holds p = false := by
  cases p with
  | session i =>
    cases hi : s.adapters[i]? with
    | none => rw [Site.holds, hi, Option.any_none]
    | some a =>
      rw [holds_session hi]
      exact Arbiter.isOpen_of_not_held (h.adapters a (List.mem_of_getElem? hi)).1
  | driver j =>
    cases hj : s.drivers[j]? with
    | none => rw [Site.holds, hj, Option.any_none]
    | some drv =>
      rw [holds_driver hj]
      exact h.drivers drv (List.mem_of_getElem? hj)

theorem Invariant.of_fresh (h : s.Fresh) : s.Invariant := by
  refine ⟨⟨none, h.unclaimed, fun p => ?_⟩, fun i a hi => ?_⟩
  · rw [h.holds p]
    exact ⟨nofun, nofun⟩
  · obtain ⟨held, hh, ho⟩ := h.adapters a (List.mem_of_getElem? hi)
    have hopen : a.isOpen = false := Arbiter.isOpen_of_not_held held
    exact ⟨hh.trans hopen.symm, 0, ho, hopen⟩

theorem Invariant.act (h : s.Invariant) (step : Step) : (s.act step).2.Invariant := by
  cases step with
  | adapter i action =>
    cases hi : s.adapters[i]? with
    | none =>
      rw [Site.act, hi]
      exact h
    | some a =>
      have hm := action.run_moves (h.kept i a hi)
      have hlt : i < s.adapters.length := (List.getElem?_eq_some_iff.mp hi).1
      rw [act_adapter hi]
      generalize (action.run Driver.recorded (a.onWire s.net)).2 = a' at hm
      refine ⟨h.holder.move (p := .session i) ?_ fun q hq => ?_, fun k b hk => ?_⟩
      · rw [holds_session hi, holds_session (List.getElem?_set_self hlt)]
        exact hm.move
      · cases q with
        | session k =>
          have hne : i ≠ k := fun e => hq (e ▸ rfl)
          rw [holds, holds, List.getElem?_set_ne hne]
        | driver k => rfl
      · by_cases hne : i = k
        · subst hne
          rw [List.getElem?_set_self hlt, Option.some.injEq] at hk
          exact hk ▸ hm.kept
        · rw [List.getElem?_set_ne hne] at hk
          have := h.kept k b hk
          exact ⟨this.holding, this.alternate⟩
  | driver j action =>
    cases hj : s.drivers[j]? with
    | none =>
      rw [Site.act, hj]
      exact h
    | some drv =>
      have hm := action.run_moves s.net drv
      have hlt : j < s.drivers.length := (List.getElem?_eq_some_iff.mp hj).1
      rw [act_driver hj]
      generalize (action.run (s.net, drv)).2 = after at hm
      refine ⟨h.holder.move (p := .driver j) ?_ fun q hq => ?_, fun k b hk => ?_⟩
      · rw [holds_driver hj, holds_driver (List.getElem?_set_self hlt)]
        exact hm
      · cases q with
        | session k => rfl
        | driver k =>
          have hne : j ≠ k := fun e => hq (e ▸ rfl)
          rw [holds, holds, List.getElem?_set_ne hne]
      · have := h.kept k b hk
        exact ⟨this.holding, this.alternate⟩

theorem Invariant.run (h : s.Invariant) (steps : List Step) : (s.run steps).Invariant := by
  induction steps generalizing s with
  | nil => exact h
  | cons step steps ih => exact ih (h.act step)

/-! ## What follows -/

/-- All but the record of the calls. -/
def unrecorded (s : Site) : Network × List (Adapter Driver) × List Driver :=
  (s.net, s.adapters.map (·.map (·.1)), s.drivers)

/-- The wire, the drivers with the calls of each, and not the sessions. -/
def lines (s : Site) : Network × List (Driver × List Call) × List Driver :=
  (s.net, s.adapters.map (·.line), s.drivers)

/-- What holds at any time, and what the next step of a party does then. -/
structure Exclusive (s : Site) : Prop where
  one : ∀ p q, s.holds p = true → s.holds q = true → p = q
  claimed : s.net.claimed = true ↔ ∃ p, s.holds p = true
  /-- An adapter has one session at most, and gets one exactly if nobody holds
  the wire. -/
  attempt : ∀ (i : Nat) (a : Adapter (Driver × List Call)), s.adapters[i]? = some a →
    ((s.act (.adapter i .attempt)).1 = true ↔
      a.isHeld = false ∧ ∀ p, s.holds p = false) ∧
    ((s.act (.adapter i .attempt)).1 = true →
      (s.act (.adapter i .attempt)).2.holds (.session i) = true)
  begin : ∀ (j : Nat) (drv : Driver), s.drivers[j]? = some drv →
    ((s.act (.driver j .begin)).1 = true ↔ ∀ p, s.holds p = false) ∧
    ((s.act (.driver j .begin)).1 = true → (s.act (.driver j .begin)).2.holds (.driver j) = true)
  /-- An attempt that fails changes nothing; that it was made is recorded. -/
  failed : ∀ i : Nat, (s.act (.adapter i .attempt)).1 = false →
    (s.act (.adapter i .attempt)).2.unrecorded = s.unrecorded
  failed_begin : ∀ j : Nat, (s.act (.driver j .begin)).1 = false →
    (s.act (.driver j .begin)).2 = s
  /-- A session that is closed already does nothing more to the wire. -/
  closed : ∀ i : Nat, s.holds (.session i) = false →
    ∀ action ∈ [Adapter.Action.close, .drop, .release, .abandon],
      (s.act (.adapter i action)).2.lines = s.lines
  finish : ∀ j : Nat, s.holds (.driver j) = false → (s.act (.driver j .finish)).2 = s
  /-- However a session ends, neither it nor its driver holds anything then. -/
  ended : ∀ (i : Nat), ∀ action ∈ [Adapter.Action.drop, .release, .abandon],
    ∀ a : Adapter (Driver × List Call),
      (s.act (.adapter i action)).2.adapters[i]? = some a →
      a.isHeld = false ∧ a.line.1.holding = false
  /-- Each opening of an adapter is followed by one closing. -/
  alternate : ∀ (i : Nat) (a : Adapter (Driver × List Call)), s.adapters[i]? = some a →
    Alternate a.line.2 (s.holds (.session i))

theorem Invariant.unclaimed_iff (h : s.Invariant) :
    s.net.claimed = false ↔ ∀ p, s.holds p = false := by
  obtain ⟨holder, hc, hh⟩ := h.holder
  rw [hc]
  cases holder with
  | none =>
    refine iff_of_true rfl fun p => ?_
    rw [← Bool.not_eq_true, hh p]
    nofun
  | some p =>
    refine iff_of_false (by simp) fun hno => ?_
    have := (hh p).mpr rfl
    rw [hno p] at this
    cases this

theorem Invariant.attempt (h : s.Invariant) (hi : s.adapters[i]? = some a) :
    ((s.act (.adapter i .attempt)).1 = true ↔ a.isHeld = false ∧ ∀ p, s.holds p = false) ∧
    ((s.act (.adapter i .attempt)).1 = true →
      (s.act (.adapter i .attempt)).2.holds (.session i) = true) := by
  have hlt : i < s.adapters.length := (List.getElem?_eq_some_iff.mp hi).1
  rw [act_adapter hi, ← h.unclaimed_iff, Adapter.Action.run,
    holds_session (List.getElem?_set_self hlt)]
  cases held : a.isHeld
  · cases hc : s.net.claimed
    · rw [Adapter.tryAcquire_of_free (a := a.onWire s.net) held hc]
      exact ⟨iff_of_true rfl ⟨rfl, rfl⟩, fun _ => rfl⟩
    · rw [Adapter.tryAcquire_of_claimed (a := a.onWire s.net) held hc]
      exact ⟨iff_of_false nofun nofun, nofun⟩
  · rw [Adapter.tryAcquire_of_held (a := a.onWire s.net) held]
    exact ⟨iff_of_false nofun nofun, nofun⟩

theorem Invariant.begin (h : s.Invariant) (hj : s.drivers[j]? = some drv) :
    ((s.act (.driver j .begin)).1 = true ↔ ∀ p, s.holds p = false) ∧
    ((s.act (.driver j .begin)).1 = true →
      (s.act (.driver j .begin)).2.holds (.driver j) = true) := by
  have hlt : j < s.drivers.length := (List.getElem?_eq_some_iff.mp hj).1
  rw [act_driver hj, ← h.unclaimed_iff, Driver.Action.run, Driver.beginExclusive,
    holds_driver (List.getElem?_set_self hlt)]
  cases hc : s.net.claimed
  · exact ⟨iff_of_true rfl rfl, fun _ => rfl⟩
  · have hno := Bool.false_ne_true
    exact ⟨iff_of_false hno hno.symm, fun h => absurd h hno⟩

/-- Putting back an element that looks the same leaves the look of the list. -/
theorem map_set_eq {α β : Type} {l : List α} {x y : α} (f : α → β) (h : l[i]? = some x)
    (hf : f y = f x) : (l.set i y).map f = l.map f := by
  obtain ⟨hlt, rfl⟩ := List.getElem?_eq_some_iff.mp h
  rw [List.map_set, hf, ← List.map_set, List.set_getElem_self]

theorem unrecorded_attempt (s : Site) (i : Nat)
    (hno : (s.act (.adapter i .attempt)).1 = false) :
    (s.act (.adapter i .attempt)).2.unrecorded = s.unrecorded := by
  cases hi : s.adapters[i]? with
  | none => rw [act, hi]
  | some a =>
    rw [act_adapter hi, Adapter.Action.run] at hno ⊢
    cases held : a.isHeld
    · cases hc : s.net.claimed
      · rw [Adapter.tryAcquire_of_free (a := a.onWire s.net) held hc] at hno
        cases hno
      · rw [Adapter.tryAcquire_of_claimed (a := a.onWire s.net) held hc]
        exact Prod.ext rfl (Prod.ext (map_set_eq _ hi rfl) rfl)
    · rw [Adapter.tryAcquire_of_held (a := a.onWire s.net) held]
      exact Prod.ext rfl (Prod.ext (map_set_eq _ hi rfl) rfl)

theorem act_begin_of_failed (s : Site) (j : Nat) (hno : (s.act (.driver j .begin)).1 = false) :
    (s.act (.driver j .begin)).2 = s := by
  cases hj : s.drivers[j]? with
  | none => rw [act, hj]
  | some drv =>
    obtain ⟨hlt, rfl⟩ := List.getElem?_eq_some_iff.mp hj
    rw [act_driver hj, Driver.Action.run, Driver.beginExclusive] at hno ⊢
    cases hc : s.net.claimed
    · rw [hc] at hno
      cases hno
    · simp only [↓reduceIte, List.set_getElem_self]

theorem act_finish_of_not_held (s : Site) (j : Nat) (hno : s.holds (.driver j) = false) :
    (s.act (.driver j .finish)).2 = s := by
  cases hj : s.drivers[j]? with
  | none => rw [act, hj]
  | some drv =>
    rw [holds_driver hj] at hno
    obtain ⟨hlt, rfl⟩ := List.getElem?_eq_some_iff.mp hj
    rw [act_driver hj, Driver.Action.run, Driver.endExclusive, hno]
    simp only [Bool.false_eq_true, ↓reduceIte, List.set_getElem_self]

theorem lines_of_closed (s : Site) (i : Nat) (hno : s.holds (.session i) = false)
    {action : Adapter.Action}
    (hend : action ∈ [Adapter.Action.close, .drop, .release, .abandon]) :
    (s.act (.adapter i action)).2.lines = s.lines := by
  cases hi : s.adapters[i]? with
  | none => rw [act, hi]
  | some a =>
    rw [holds_session hi] at hno
    have hl : (action.run Driver.recorded (a.onWire s.net)).2.line = (a.onWire s.net).line :=
      Adapter.Action.line_of_not_open hno hend
    have hoff : (action.run Driver.recorded (a.onWire s.net)).2.offWire.line = a.line :=
      congrArg (fun l : (Network × Driver) × List Call => (l.1.2, l.2)) hl
    rw [act_adapter hi, hl]
    exact Prod.ext rfl (Prod.ext (map_set_eq Adapter.line hi hoff) rfl)

theorem Invariant.ended (h : s.Invariant) {action : Adapter.Action}
    (hend : action ∈ [Adapter.Action.drop, .release, .abandon])
    (ha : (s.act (.adapter i action)).2.adapters[i]? = some a) :
    a.isHeld = false ∧ a.line.1.holding = false := by
  suffices held : a.isHeld = false from
    ⟨held, ((h.act _).kept i a ha).holding.trans (Arbiter.isOpen_of_not_held held)⟩
  cases hi : s.adapters[i]? with
  | none =>
    rw [Site.act, hi, hi] at ha
    cases ha
  | some b =>
    have hlt : i < s.adapters.length := (List.getElem?_eq_some_iff.mp hi).1
    rw [act_adapter hi, List.getElem?_set_self hlt, Option.some.injEq] at ha
    subst ha
    simp only [List.mem_cons, List.not_mem_nil, or_false] at hend
    rcases hend with rfl | rfl | rfl <;> rfl

theorem Invariant.exclusive (h : s.Invariant) : s.Exclusive where
  one p q hp hq := by
    obtain ⟨holder, -, hh⟩ := h.holder
    exact Option.some.inj (((hh p).mp hp).symm.trans ((hh q).mp hq))
  claimed := by
    obtain ⟨holder, hc, hh⟩ := h.holder
    rw [hc]
    cases holder with
    | none => exact iff_of_false nofun fun ⟨p, hp⟩ => nomatch (hh p).mp hp
    | some p => exact iff_of_true rfl ⟨p, (hh p).mpr rfl⟩
  attempt _ _ hi := h.attempt hi
  begin _ _ hj := h.begin hj
  failed := s.unrecorded_attempt
  failed_begin := s.act_begin_of_failed
  closed i hno _ hend := s.lines_of_closed i hno hend
  finish := s.act_finish_of_not_held
  ended _ _ hend _ ha := h.ended hend ha
  alternate i a hi := by
    rw [holds_session hi]
    exact (h.kept i a hi).alternate

/-- Whatever the parties of a fresh site do, and in whatever order, the wire is
held by one of them at most. -/
theorem run_exclusive (s : Site) (fresh : s.Fresh) (steps : List Step) : (s.run steps).Exclusive :=
  ((Invariant.of_fresh fresh).run steps).exclusive

/-- Two adapters and a driver: the holder of the first session panics while the
others wait, and the driver gets the wire next. -/
theorem run_exclusive_of_panic :
    let adapter := (Adapter.create Driver.recorded "sim" "simulated" (({}, {}), [])).offWire
    let s : Site := { net := {}, adapters := [adapter, adapter], drivers := [{}] }
    let steps : List Step := [.adapter 0 .attempt, .adapter 1 .attempt, .driver 0 .begin,
      .adapter 0 .abandon, .driver 0 .begin, .adapter 0 .attempt, .adapter 0 .drop]
    s.Fresh ∧ (s.run steps).Exclusive ∧ (s.run steps).holds (.driver 0) = true := by
  intro adapter s steps
  have fresh : s.Fresh := by
    refine ⟨rfl, fun a ha => ?_, fun drv hd => ?_⟩
    · have ha : a = adapter := by simpa [s] using ha
      subst ha
      exact ⟨rfl, rfl, rfl⟩
    · have hd : drv = {} := by simpa [s] using hd
      subst hd
      rfl
  refine ⟨fresh, s.run_exclusive fresh steps, ?_⟩
  simp only [s, steps, adapter]
  decide +kernel

end Site

end BusMaster
