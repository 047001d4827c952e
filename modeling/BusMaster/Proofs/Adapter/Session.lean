import BusMaster.Proofs.Adapter.Frame
import BusMaster.Proofs.Wire.Effect
import BusMaster.Transport.Record

/-!
# The sessions of one adapter

An adapter has a lock of its own, and its driver a flag that says whether the
wire's claim is its own. Every step of the adapter keeps the two in step, and
opens and closes the wire in turns.

* `Alternate`: openings and closings take turns;
* `Arbiter.isOpen`, `Arbiter.release_eq_drop`: a session that is not closed yet,
  and that it is closed only once;
* `Adapter.Action`, `Action.run`: what can be done with an adapter;
* `Adapter.Kept`, `Action.run_moves`: what each step keeps, and how it can move
  the claim.
-/

namespace BusMaster

/-! ## The record of openings -/

/-- A successful opening, or a closing. -/
def Call.opening? : Call → Option Bool
  | began true => some true
  | ended => some false
  | _ => none

/-- The openings, `true`, and the closings, `false`, among the calls. -/
def openings (calls : List Call) : List Bool :=
  calls.filterMap Call.opening?

/-- An opening, then a closing, then an opening, and so on, `n` in all. -/
def alternating (n : Nat) : List Bool :=
  (List.range n).map fun k => decide (k % 2 = 0)

/-- Openings and closings take turns, and the latest is an opening if the last
argument is `true`. -/
def Alternate (calls : List Call) (isOpen : Bool) : Prop :=
  ∃ n, openings calls = alternating n ∧ isOpen = decide (n % 2 = 1)

theorem openings_append (calls : List Call) (call : Call) :
    openings (calls ++ [call]) = openings calls ++ call.opening?.toList := by
  rw [openings, List.filterMap_append]
  cases h : call.opening? <;> simp [openings, h]

theorem alternating_succ (n : Nat) :
    alternating (n + 1) = alternating n ++ [decide (n % 2 = 0)] := by
  rw [alternating, List.range_succ, List.map_append]
  rfl

namespace Alternate

variable {calls : List Call} {isOpen : Bool}

theorem began (h : Alternate calls false) : Alternate (calls ++ [.began true]) true := by
  obtain ⟨n, hn, hodd⟩ := h
  have hn' : n % 2 ≠ 1 := of_decide_eq_false hodd.symm
  refine ⟨n + 1, ?_, (decide_eq_true (by omega)).symm⟩
  rw [openings_append, hn, alternating_succ, decide_eq_true (by omega)]
  rfl

theorem ended (h : Alternate calls true) : Alternate (calls ++ [.ended]) false := by
  obtain ⟨n, hn, hodd⟩ := h
  have hn' : n % 2 = 1 := of_decide_eq_true hodd.symm
  refine ⟨n + 1, ?_, (decide_eq_false (by omega)).symm⟩
  rw [openings_append, hn, alternating_succ, decide_eq_false (by omega)]
  rfl

theorem of_openings (h : Alternate calls isOpen) {calls' : List Call}
    (hc : openings calls' = openings calls) : Alternate calls' isOpen := by
  obtain ⟨n, hn, hodd⟩ := h
  exact ⟨n, hc.trans hn, hodd⟩

end Alternate

/-! ## One session -/

/-- The session holds the exclusive open: it is not closed yet. -/
def Arbiter.isOpen {ρ : Type} (a : Arbiter ρ) : Bool :=
  match a.session with
  | some { closed := false } => true
  | _ => false

namespace Arbiter

variable {ρ : Type} {access : ExclusiveAccess ρ} {a : Arbiter ρ}

theorem close_of_not_open (h : a.isOpen = false) : a.close access = a := by
  rw [close]
  split
  · rename_i hs
    rw [isOpen, hs] at h
    cases h
  · rfl

theorem close_of_open (h : a.isOpen = true) : a.close access =
    { a with resource := access.finish a.resource, session := some { closed := true } } := by
  rw [isOpen] at h
  split at h
  · rename_i hs
    rw [close, hs]
  · cases h

theorem isOpen_close : (a.close access).isOpen = false := by
  cases h : a.isOpen
  · rw [close_of_not_open h, h]
  · rw [close_of_open h]
    rfl

/-- A session that was released is not closed again when it is dropped. -/
theorem release_eq_drop : a.release access = a.drop access := by
  rw [release, drop, drop, close_of_not_open isOpen_close]

theorem isOpen_of_not_held (h : a.isHeld = false) : a.isOpen = false := by
  have hs : a.session = none := by simpa [isHeld] using h
  rw [isOpen, hs]

end Arbiter

/-! ## Steps of one adapter -/

/-- How the wire's claim and what one party holds move in a step. -/
inductive ClaimMove : (claimed held claimed' held' : Bool) → Prop where
  | stays (claimed held : Bool) : ClaimMove claimed held claimed held
  | opens (held : Bool) : ClaimMove false held true true
  | closes (claimed : Bool) : ClaimMove claimed true false false

/-- The transport of an adapter whose calls are recorded. -/
abbrev Driver.recorded : Transport ((Network × Driver) × List Call) :=
  Driver.transport.recorded

theorem Driver.recorded_keeps (claimed holding : Bool) (opened : List Bool) :
    Driver.recorded.Keeps fun s =>
      s.1.1.claimed = claimed ∧ s.1.2.holding = holding ∧ openings s.2 = opened where
  ask query s h := by
    obtain ⟨hc, hh, ho⟩ := h
    refine ⟨hc, hh, ?_⟩
    show openings (s.2 ++ [.asked query]) = _
    rw [openings_append, ho]
    exact List.append_nil opened
  perform primitive s h := by
    obtain ⟨hc, hh, ho⟩ := h
    have hs := Driver.perform_frame primitive s.1
    refine ⟨hs.claimed.trans hc, hs.holding.trans hh, ?_⟩
    show openings (s.2 ++ [.performed primitive]) = _
    rw [openings_append, ho]
    exact List.append_nil opened

namespace Adapter

/-- The session, if there is one, holds the exclusive open. -/
def isOpen {σ : Type} (a : Adapter σ) : Bool :=
  a.arbiter.isOpen

/-- What can be done with an adapter. A thread that waits for a session attempts
again and again; an attempt that meets the lock of another one under way fails
and is no step. The end of a session is two steps to the other parties, `close`
and then `drop`; `release` and `drop` at once are both of them. -/
inductive Action where
  | attempt
  | close
  | drop
  | release
  /-- The holder panics. -/
  | abandon
  /-- The holder uses the bus. -/
  | use (request : Request)
  | portNames
  | transportVersion
  | selectPort (port : String)
  | freePort
deriving DecidableEq, Repr

/-- The adapter after work that had to wait or was done; whether it was done. -/
def worked {σ α : Type} (a : Adapter σ) : Option (α × Adapter σ) → Bool × Adapter σ
  | none => (false, a)
  | some (_, a) => (true, a)

/-- What becomes of the adapter, and whether it was granted what it attempted
and had not to wait. -/
def Action.run {σ : Type} (t : Transport σ) (a : Adapter σ) : Action → Bool × Adapter σ
  | attempt => a.tryAcquire t
  | close => (true, { a with arbiter := a.arbiter.close (Bus.access t) })
  | drop => (true, a.drop t)
  | release => (true, a.release t)
  | abandon => (true, a.abandon t)
  | use request => a.worked (a.withSession fun b => ((), request.run t b))
  | portNames => a.worked (a.portNames t)
  | transportVersion => a.worked (a.transportVersion t)
  | selectPort port => a.worked (a.selectPort t port)
  | freePort => a.worked (a.freePort t)

variable {a a' : Adapter ((Network × Driver) × List Call)}

/-- The driver's flag says whether the session holds the exclusive open, and the
calls say the same. -/
structure Kept (a : Adapter ((Network × Driver) × List Call)) : Prop where
  holding : a.line.1.2.holding = a.isOpen
  alternate : Alternate a.line.2 a.isOpen

/-- A step that keeps the adapter, and moves the claim in one of the ways there
are. -/
structure Moves (a a' : Adapter ((Network × Driver) × List Call)) : Prop where
  kept : a'.Kept
  move : ClaimMove a.line.1.1.claimed a.isOpen a'.line.1.1.claimed a'.isOpen

theorem Kept.stays (h : a.Kept) (ho : a'.isOpen = a.isOpen)
    (hl : a'.line.1.1.claimed = a.line.1.1.claimed ∧ a'.line.1.2.holding = a.line.1.2.holding ∧
      openings a'.line.2 = openings a.line.2) : Moves a a' := by
  obtain ⟨hc, hh, hr⟩ := hl
  refine ⟨⟨hh.trans (h.holding.trans ho.symm), ?_⟩, ?_⟩
  · rw [ho]
    exact h.alternate.of_openings hr
  · rw [hc, ho]
    exact .stays _ _

/-! ### Attempts -/

theorem session_of_not_held {σ : Type} {a : Adapter σ} (held : a.isHeld = false) :
    a.arbiter.session = none := by
  simpa [isHeld, Arbiter.isHeld] using held

theorem tryAcquire_of_held {σ : Type} {t : Transport σ} {a : Adapter σ} (held : a.isHeld = true) :
    a.tryAcquire t = (false, a) := by
  have held : a.arbiter.isHeld = true := held
  rw [tryAcquire, Arbiter.tryAcquire, if_pos held]

/-- The resource is tried only if no session is held. -/
theorem tryAcquire_of_not_held {σ : Type} {t : Transport σ} {a : Adapter σ}
    (held : a.isHeld = false) :
    a.tryAcquire t =
      ((t.beginExclusive a.line).1, { a with
        arbiter := { a.arbiter with
          resource := { a.arbiter.resource with line := (t.beginExclusive a.line).2 }
          session := if (t.beginExclusive a.line).1 then some {} else none } }) := by
  have held : ¬ a.arbiter.isHeld = true := (Bool.not_eq_true _).mpr held
  rw [tryAcquire, Arbiter.tryAcquire, if_neg held]
  rfl

/-- The adapter in a session that the transport granted, which left it in `s`. -/
def granted {σ : Type} (a : Adapter σ) (s : σ) : Adapter σ :=
  { a with arbiter := { a.arbiter with
    resource := { a.arbiter.resource with line := s }, session := some {} } }

theorem tryAcquire_of_refused {σ : Type} {t : Transport σ} {a : Adapter σ} {s : σ}
    (held : a.isHeld = false) (h : t.beginExclusive a.line = (false, s)) :
    a.tryAcquire t = (false, a.map fun _ => s) := by
  rw [tryAcquire_of_not_held held, h, map, ← session_of_not_held held]
  rfl

theorem tryAcquire_of_granted {σ : Type} {t : Transport σ} {a : Adapter σ} {s : σ}
    (held : a.isHeld = false) (h : t.beginExclusive a.line = (true, s)) :
    a.tryAcquire t = (true, a.granted s) := by
  rw [tryAcquire_of_not_held held, h]
  rfl

/-- Work in that session. -/
theorem withSession_granted {σ α : Type} {a : Adapter σ} {s : σ} {f : Bus σ → α × Bus σ}
    {answer : α} {b : Bus σ} (h : f { a.arbiter.resource with line := s } = (answer, b)) :
    ∃ after, (a.granted s).withSession f = some (answer, after) := by
  have hdone : (a.granted s).withSession f = some ((f { a.arbiter.resource with line := s }).1,
      { a.granted s with arbiter := { (a.granted s).arbiter with
        resource := (f { a.arbiter.resource with line := s }).2 } }) := rfl
  rw [hdone, h]
  exact ⟨_, rfl⟩

theorem tryAcquire_of_claimed (held : a.isHeld = false) (claimed : a.line.1.1.claimed = true) :
    a.tryAcquire Driver.recorded =
      (false, a.map fun (s, calls) => (s, calls ++ [.began false])) := by
  have hb : Driver.recorded.beginExclusive a.line =
      (false, a.line.1, a.line.2 ++ [.began false]) := by
    show ((Driver.beginExclusive a.line.1).1, (Driver.beginExclusive a.line.1).2,
      a.line.2 ++ [Call.began (Driver.beginExclusive a.line.1).1]) = _
    rw [Driver.beginExclusive, if_pos claimed]
  exact tryAcquire_of_refused held hb

/-- The adapter once an attempt was granted. -/
def opened (a : Adapter ((Network × Driver) × List Call)) :
    Adapter ((Network × Driver) × List Call) :=
  let a := a.map fun ((net, drv), calls) =>
    (({ net with claimed := true }, { drv with holding := true }), calls ++ [.began true])
  { a with arbiter := { a.arbiter with session := some {} } }

theorem tryAcquire_of_free (held : a.isHeld = false) (claimed : a.line.1.1.claimed = false) :
    a.tryAcquire Driver.recorded = (true, a.opened) := by
  have hb : Driver.recorded.beginExclusive a.line = (true, ({ a.line.1.1 with claimed := true },
      { a.line.1.2 with holding := true }), a.line.2 ++ [.began true]) := by
    show ((Driver.beginExclusive a.line.1).1, (Driver.beginExclusive a.line.1).2,
      a.line.2 ++ [Call.began (Driver.beginExclusive a.line.1).1]) = _
    rw [Driver.beginExclusive, if_neg ((Bool.not_eq_true _).mpr claimed)]
  exact tryAcquire_of_granted held hb

theorem tryAcquire_moves (h : a.Kept) : Moves a (a.tryAcquire Driver.recorded).2 := by
  cases held : a.isHeld
  · cases claimed : a.line.1.1.claimed
    · rw [tryAcquire_of_free held claimed]
      have hopen : a.isOpen = false := Arbiter.isOpen_of_not_held held
      refine ⟨⟨rfl, ?_⟩, ?_⟩
      · have := h.alternate
        rw [hopen] at this
        exact this.began
      · rw [claimed, hopen]
        exact .opens false
    · rw [tryAcquire_of_claimed held claimed]
      refine h.stays rfl ⟨rfl, rfl, ?_⟩
      show openings (a.line.2 ++ [.began false]) = _
      rw [openings_append]
      exact List.append_nil _
  · rw [tryAcquire_of_held held]
    exact h.stays rfl ⟨rfl, rfl, rfl⟩

/-! ### Ends -/

/-- The steps that close the session: they do to the line what closing does. -/
theorem Kept.closes (h : a.Kept) (hopen : a'.isOpen = false)
    (hl : a'.line = (a.arbiter.close (Bus.access Driver.recorded)).resource.line) : Moves a a' := by
  cases ho : a.isOpen
  · rw [Arbiter.close_of_not_open ho] at hl
    exact h.stays (hopen.trans ho.symm) (by rw [hl]; exact ⟨rfl, rfl, rfl⟩)
  · rw [Arbiter.close_of_open ho] at hl
    have hh : a.line.1.2.holding = true := h.holding.trans ho
    have hl : a'.line = (({ a.line.1.1 with claimed := false },
        { a.line.1.2 with holding := false }), a.line.2 ++ [.ended]) := by
      rw [hl]
      show (Driver.endExclusive a.line.1, a.line.2 ++ [Call.ended]) = _
      rw [Driver.endExclusive, if_pos hh]
    refine ⟨⟨?_, ?_⟩, ?_⟩
    · rw [hl, hopen]
    · have := h.alternate
      rw [ho] at this
      rw [hl, hopen]
      exact this.ended
    · rw [hl, hopen, ho]
      exact .closes _

/-- Closing what is closed does nothing to the line. -/
theorem Action.line_of_not_open {action : Action} (h : a.isOpen = false)
    (hend : action ∈ [Action.close, .drop, .release, .abandon]) :
    (action.run Driver.recorded a).2.line = a.line := by
  have hc : a.arbiter.close (Bus.access Driver.recorded) = a.arbiter := Arbiter.close_of_not_open h
  have hline : (a.arbiter.close (Bus.access Driver.recorded)).resource.line = a.line := by
    rw [hc]
    rfl
  simp only [List.mem_cons, List.not_mem_nil, or_false] at hend
  rcases hend with rfl | rfl | rfl | rfl
  · exact hline
  · exact hline
  · show (a.arbiter.release (Bus.access Driver.recorded)).resource.line = _
    rw [Arbiter.release_eq_drop]
    exact hline
  · exact hline

/-! ### Work -/

/-- Work that only asks and performs moves nothing. -/
theorem Kept.works {α : Type} (h : a.Kept) (f : Bus ((Network × Driver) × List Call) →
      α × Bus ((Network × Driver) × List Call)) (hf : ∀ {I : (Network × Driver) × List Call → Prop},
      Driver.recorded.Keeps I → I a.line → I (f a.arbiter.resource).2.line) :
    Moves a (a.worked (a.withSession f)).2 ∧ Moves a (a.worked (a.withResource f)).2 := by
  have hsame : Moves a a := h.stays rfl ⟨rfl, rfl, rfl⟩
  have hdone : Moves a { a with
      arbiter := { a.arbiter with resource := (f a.arbiter.resource).2 } } :=
    h.stays rfl (hf (Driver.recorded_keeps _ _ _) ⟨rfl, rfl, rfl⟩)
  rw [withSession, withResource, Arbiter.withSession, Arbiter.withResource]
  cases a.arbiter.isHeld
  · exact ⟨hsame, hdone⟩
  · exact ⟨hdone, hsame⟩

/-- One step of an adapter. -/
theorem Action.run_moves (h : a.Kept) (action : Action) :
    Moves a (action.run Driver.recorded a).2 := by
  cases action with
  | attempt => exact tryAcquire_moves h
  | close => exact h.closes Arbiter.isOpen_close rfl
  | drop => exact h.closes rfl rfl
  | release =>
    refine h.closes rfl ?_
    show (a.arbiter.release (Bus.access Driver.recorded)).resource.line = _
    rw [Arbiter.release_eq_drop]
    rfl
  | abandon => exact h.closes rfl rfl
  | use request =>
    exact (h.works (fun b => ((), request.run Driver.recorded b)) fun hk hI =>
      request.run_keeps hk hI).1
  | portNames =>
    exact (h.works (·.ask Driver.recorded .portNames) fun hk hI => hk.ask _ _ hI).2
  | transportVersion =>
    exact (h.works (·.ask Driver.recorded .version) fun hk hI => hk.ask _ _ hI).2
  | selectPort port =>
    exact (h.works (·.perform Driver.recorded (.selectPort port)) fun hk hI =>
      Bus.perform_keeps hk _ hI).2
  | freePort =>
    exact (h.works (·.perform Driver.recorded .freePort) fun hk hI => Bus.perform_keeps hk _ hI).2

end Adapter

end BusMaster
