import BusMaster.Adapter.Basic

/-!
# What a bus keeps of its transport

All that a bus does to its transport is queries and primitives, so a property
that these keep is kept by every request to the bus.

* `Transport.Keeps t I`: no query and no primitive leads out of the states `I`;
* `Transport.KeepsUnmoved t I`: none does that leaves the port where it is;
* `Request`: the requests to a bus;
* `Request.run_keeps`: each of them keeps what the transport keeps.
-/

namespace BusMaster

variable {σ : Type} {t : Transport σ} {I : σ → Prop}

/-- No query and no primitive leads out of the states `I`. Opening and closing
the bus may. -/
structure Transport.Keeps (t : Transport σ) (I : σ → Prop) : Prop where
  ask : ∀ query s, I s → I (t.ask query s).2
  perform : ∀ primitive s, I s → I (t.perform primitive s).2

/-- No query leads out of the states `I`, and no primitive that leaves the port where
it is. -/
structure Transport.KeepsUnmoved (t : Transport σ) (I : σ → Prop) : Prop where
  ask : ∀ query s, I s → I (t.ask query s).2
  perform : ∀ primitive, primitive.movesPort = false → ∀ s, I s → I (t.perform primitive s).2

theorem Transport.Keeps.unmoved (h : t.Keeps I) : t.KeepsUnmoved I :=
  ⟨h.ask, fun primitive _ => h.perform primitive⟩

namespace Search

theorem step_keeps (h : t.KeepsUnmoved I) (c : SearchCursor) {s : σ} (hs : I s) :
    I (step t c s).2.2 := by
  rw [step]
  split
  · exact hs
  · have hp := h.perform (.search c.pass) rfl s hs
    generalize t.perform (.search c.pass) s = r at hp
    obtain ⟨e | answer, s'⟩ := r
    · exact hp
    · show I (if _ then _ else _ : Found × SearchCursor × σ).2.2
      split <;> exact hp

theorem findNext_keeps (h : t.KeepsUnmoved I) (filter : FamilyFilter) :
    ∀ (limit : Nat) (c : SearchCursor) (s : σ), I s → I (findNext t filter limit c s).2.2
  | 0, _, _, hs => hs
  | limit + 1, c, s, hs => by
    have hp := step_keeps h c hs
    rw [findNext]
    generalize step t c s = r at hp
    obtain ⟨found, c', s'⟩ := r
    cases found with
    | device a =>
      show I (if _ then _ else _ : Found × SearchCursor × σ).2.2
      split
      · exact hp
      · exact findNext_keeps h filter limit c' s' hp
    | finished => exact hp
    | failed e => exact hp
    | unsettled => exact hp

theorem verify_keeps (h : t.KeepsUnmoved I) (a : Address) (command : SearchCommand)
    (skipReset : Bool) {s : σ} (hs : I s) : I (verify t a command skipReset s).2 :=
  h.perform _ rfl s hs

theorem select_keeps (h : t.KeepsUnmoved I) (a : Address) {s : σ} (hs : I s) :
    I (select t a s).2 := by
  have hp := h.perform .reset rfl s hs
  rw [select]
  generalize t.perform .reset s = r at hp
  obtain ⟨e | result, s'⟩ := r
  · exact hp
  · show I (if _ then _ else _ : Except BusError Bool × σ).2
    split
    · exact h.perform _ rfl s' hp
    · exact hp

end Search

/-- What a bus can be asked to do. -/
inductive Request where
  | ask (query : Query)
  | perform (primitive : Primitive)
  | findFirst (alarmOnly skipReset : Bool)
  | findNext
  | isPresent (a : Address)
  | isAlarming (a : Address)
  | select (a : Address)
  | setFilter (filter : FamilyFilter)
deriving DecidableEq, Repr

/-- What becomes of the bus. -/
def Request.run (t : Transport σ) (b : Bus σ) : Request → Bus σ
  | ask query => (b.ask t query).2
  | perform primitive => (b.perform t primitive).2
  | findFirst alarmOnly skipReset => (b.findFirst t alarmOnly skipReset).2
  | findNext => (b.findNext t).2
  | isPresent a => (b.isPresent t a).2
  | isAlarming a => (b.isAlarming t a).2
  | select a => (b.select t a).2
  | setFilter filter => b.setFilter filter

theorem Bus.perform_keeps (h : t.Keeps I) (primitive : Primitive) {b : Bus σ} (hb : I b.line) :
    I (b.perform t primitive).2.line := by
  rw [Bus.perform]
  split
  · exact hb
  · have hp := h.perform primitive b.line hb
    show I (if _ then _ else _ : Bus σ).line
    split
    · exact h.ask _ _ hp
    · exact hp

/-- What the transport keeps is kept by every request. -/
theorem Request.run_keeps (h : t.Keeps I) (request : Request) {b : Bus σ} (hb : I b.line) :
    I (request.run t b).line := by
  cases request with
  | ask query => exact h.ask query b.line hb
  | perform primitive => exact b.perform_keeps h primitive hb
  | findFirst alarmOnly skipReset => exact Search.findNext_keeps h.unmoved _ _ _ _ hb
  | findNext => exact Search.findNext_keeps h.unmoved _ _ _ _ hb
  | isPresent a => exact Search.verify_keeps h.unmoved _ _ _ hb
  | isAlarming a => exact Search.verify_keeps h.unmoved _ _ _ hb
  | select a => exact Search.select_keeps h.unmoved a hb
  | setFilter filter => exact hb

end BusMaster
