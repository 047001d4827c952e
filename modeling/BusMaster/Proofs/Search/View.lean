import BusMaster.Proofs.Adapter.Session
import BusMaster.Proofs.Wire.Population

/-!
# What a search sees

The answers of a search depend on little of the state of its transport. Between two
states that show it the same, it finds the same and leaves the cursor at the same
place.

* `Transport.Sees t view`: a search sees no more than `view`, and leaves it alone;
* `Search.findNext_alike`: requests in states that show the same;
* `Driver.View`, `Driver.sees`: a driver's search sees the devices, whether the wire
  is shorted and which port is selected;
* `WalkRequest`, `Bus.Alike`: the same for the requests of an enumeration to a bus.
-/

namespace BusMaster

/-- The answers to a search depend on the view alone, which a search does not
change. -/
structure Transport.Sees {σ β : Type} (t : Transport σ) (view : σ → β) : Prop where
  answer : ∀ pass s s', view s' = view s →
    (t.perform (.search pass) s').1 = (t.perform (.search pass) s).1
  kept : ∀ pass s, view (t.perform (.search pass) s).2 = view s
  limit : ∀ s s', view s' = view s → t.passLimit s' = t.passLimit s

/-- A recorded transport shows what the transport itself shows. -/
theorem Transport.Sees.recorded {σ β : Type} {t : Transport σ} {view : σ → β} (h : t.Sees view) :
    t.recorded.Sees fun s => view s.1 where
  answer pass s s' hs := h.answer pass s.1 s'.1 hs
  kept pass s := h.kept pass s.1
  limit s s' hs := h.limit s.1 s'.1 hs

namespace Search

variable {σ β : Type} {t : Transport σ} {view : σ → β} {s s' : σ}

/-- The same answer with the same cursor, and then the same view. -/
structure Alike (view : σ → β) (r r' : Found × SearchCursor × σ) : Prop where
  found : r'.1 = r.1
  cursor : r'.2.1 = r.2.1
  view : view r'.2.2 = view r.2.2

theorem step_alike (h : t.Sees view) (c : SearchCursor) (hs : view s' = view s) :
    Alike view (step t c s) (step t c s') := by
  have hanswer := h.answer c.pass s s' hs
  have hview : view (t.perform (.search c.pass) s').2 = view (t.perform (.search c.pass) s).2 := by
    rw [h.kept, h.kept, hs]
  rw [step, step]
  split
  · exact ⟨rfl, rfl, hs⟩
  · generalize t.perform (.search c.pass) s = r at hanswer hview
    generalize t.perform (.search c.pass) s' = r' at hanswer hview
    obtain ⟨answer, s₁⟩ := r
    obtain ⟨answer', s₁'⟩ := r'
    obtain rfl : answer' = answer := hanswer
    cases answer' with
    | error e => exact ⟨rfl, rfl, hview⟩
    | ok answer =>
      dsimp only
      split
      · exact ⟨rfl, rfl, hview⟩
      · exact ⟨rfl, rfl, hview⟩

/-- By induction on the passes that the request may take. -/
theorem findNext_alike (h : t.Sees view) (filter : FamilyFilter) (limit : Nat) (c : SearchCursor)
    (hs : view s' = view s) :
    Alike view (findNext t filter limit c s) (findNext t filter limit c s') := by
  induction limit generalizing c s s' with
  | zero => exact ⟨rfl, rfl, hs⟩
  | succ limit ih =>
    have hstep := step_alike h c hs
    rw [findNext, findNext]
    generalize step t c s = r at hstep
    generalize step t c s' = r' at hstep
    obtain ⟨found, d, s₁⟩ := r
    obtain ⟨found', d', s₁'⟩ := r'
    obtain ⟨rfl, rfl, hview⟩ := hstep
    cases found' with
    | device a =>
      dsimp only
      split
      · exact ⟨rfl, rfl, hview⟩
      · exact ih _ hview
    | finished => exact ⟨rfl, rfl, hview⟩
    | failed e => exact ⟨rfl, rfl, hview⟩
    | unsettled => exact ⟨rfl, rfl, hview⟩

end Search

/-! ## On a wire -/

namespace Network

theorem participants_eq (net : Network) (command : SearchCommand) :
    net.participants command =
      (net.population.filter fun d => command = .normal || d.2).map (·.1) := by
  rw [participants, population, List.filter_map, List.map_map]
  rfl

theorem isPresent_eq (net : Network) :
    net.resetResult.isPresent = (!net.short && !net.population.isEmpty) := by
  rw [isPresent_resetResult, population, List.isEmpty_map]

end Network

namespace Driver

/-- What a search sees of a driver and its wire. -/
structure View where
  short : Bool
  population : List (Address × Bool)
  selected : Option String
deriving DecidableEq, Repr

def view (s : Network × Driver) : View :=
  ⟨s.1.short, s.1.population, s.2.selected⟩

variable {s s' : Network × Driver}

theorem Frame.view_eq (h : Frame false s s') : view s' = view s := by
  rw [view, view, h.short, h.population, h.selected rfl]

/-- The answer to a search pass, from what it sees. -/
def View.searched (v : View) (pass : SearchPass) : Except BusError SearchAnswer :=
  if v.selected.isNone then .error .portNotSelected
  else
    let participants := (v.population.filter fun d => pass.command = .normal || d.2).map (·.1)
    .ok (pass.answer
      (if pass.skipReset || (!v.short && !v.population.isEmpty) then participants else []))

theorem perform_search_eq (pass : SearchPass) (s : Network × Driver) :
    (perform (.search pass) s).1 = (view s).searched pass := by
  rw [View.searched]
  cases h : s.2.selected with
  | none =>
    rw [perform_search_detached h]
    simp [view, h]
  | some port =>
    have attached : s.2.selected.isSome = true := by rw [h]; rfl
    rw [perform_attached attached, performAttached_search attached]
    simp only [view, h, Option.isNone_some, Bool.false_eq_true, if_false, Network.isPresent_eq,
      Network.participants_eq]

theorem sees : transport.Sees view where
  answer pass s s' hs := by
    show (perform (.search pass) s').1 = (perform (.search pass) s).1
    rw [perform_search_eq, perform_search_eq, hs]
  kept pass s := (perform_frame (.search pass) s).view_eq
  limit s s' hs := by
    have hlength : s'.1.devices.length = s.1.devices.length := by
      have hp : s'.1.population = s.1.population := congrArg View.population hs
      simpa [Network.population] using congrArg List.length hp
    exact congrArg (· + 2) hlength

end Driver

/-! ## Requests of an enumeration -/

/-- The requests of an enumeration. -/
inductive WalkRequest where
  | first (alarmOnly skipReset : Bool)
  | next
deriving DecidableEq, Repr

def WalkRequest.run {σ : Type} (t : Transport σ) (b : Bus σ) : WalkRequest → Found × Bus σ
  | first alarmOnly skipReset => b.findFirst t alarmOnly skipReset
  | next => b.findNext t

/-- The enumerations on two buses stand at the same place, on lines that show
the same. -/
structure Bus.Alike {σ β : Type} (view : σ → β) (b b' : Bus σ) : Prop where
  cursor : b'.cursor = b.cursor
  filter : b'.filter = b.filter
  view : view b'.line = view b.line

namespace Bus.Alike

variable {σ β : Type} {t : Transport σ} {view : σ → β} {b b' b'' : Bus σ}

theorem refl (view : σ → β) (b : Bus σ) : Alike view b b := ⟨rfl, rfl, rfl⟩

theorem trans (h : Alike view b b') (h' : Alike view b' b'') : Alike view b b'' :=
  ⟨h'.cursor.trans h.cursor, h'.filter.trans h.filter, h'.view.trans h.view⟩

theorem findNext (h : Alike view b b') (hsees : t.Sees view) :
    (b'.findNext t).1 = (b.findNext t).1 ∧ Alike view (b.findNext t).2 (b'.findNext t).2 := by
  have hfound := Search.findNext_alike hsees b.filter (t.passLimit b.line) b.cursor h.view
  simp only [Bus.findNext, h.filter, h.cursor, hsees.limit _ _ h.view]
  exact ⟨hfound.found, hfound.cursor, rfl, hfound.view⟩

/-- The answer is the same, and the enumerations go on alike. -/
theorem run (h : Alike view b b') (hsees : t.Sees view) (request : WalkRequest) :
    (request.run t b').1 = (request.run t b).1 ∧
      Alike view (request.run t b).2 (request.run t b').2 := by
  cases request with
  | first alarmOnly skipReset =>
    have hstart : Alike view { b with cursor := { alarmOnly, skipReset } }
        { b' with cursor := { alarmOnly, skipReset } } := ⟨rfl, h.filter, h.view⟩
    exact hstart.findNext hsees
  | next => exact h.findNext hsees

end Bus.Alike

end BusMaster
