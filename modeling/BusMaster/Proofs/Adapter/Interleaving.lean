import BusMaster.Proofs.Adapter.Exclusion
import BusMaster.Proofs.Search.View

/-!
# Other work during an enumeration

An enumeration takes many requests, and between them the same adapter and the other
parties on the wire go on working. What they do shows the enumeration nothing new as
long as the devices stay: each request finds what it would have found without it.

* `Adapter.Action.run_resource`, `Action.run_keeps`: what an action can do to the bus of
  its adapter, and to the transport;
* `Site.Event`, `Site.observe`: requests of one adapter's enumeration among other
  work, and their answers;
* `Site.Alike`: the enumerations of an adapter on two sites stand at the same place
  and see the same;
* `Site.Alike.act`: other work leaves the enumeration standing where it was;
* `Site.walk_undisturbed`: the answers are those of the requests alone.
-/

namespace BusMaster

open Driver (View)

/-! ## What an action does to a bus -/

namespace Adapter

variable {σ : Type} {t : Transport σ} {J : Bus σ → Prop}

/-- What an action does to the bus if it has not to wait, apart from opening and
closing it. -/
def Action.work (t : Transport σ) (b : Bus σ) : Action → Bus σ
  | use request => request.run t b
  | portNames => (b.ask t .portNames).2
  | transportVersion => (b.ask t .version).2
  | selectPort port => (b.perform t (.selectPort port)).2
  | freePort => (b.perform t .freePort).2
  | attempt | close | drop | release | abandon => b

theorem close_resource {access : ExclusiveAccess (Bus σ)} {r : Arbiter (Bus σ)}
    (hfinish : ∀ b, J b → J (access.finish b)) (h : J r.resource) :
    J (r.close access).resource := by
  rw [Arbiter.close]
  split
  · exact hfinish _ h
  · exact h

theorem tryAcquire_resource (a : Adapter σ)
    (hbegin : ∀ b, J b → J ((Bus.access t).tryBegin b).2) (h : J a.arbiter.resource) :
    J (a.tryAcquire t).2.arbiter.resource := by
  rw [tryAcquire, Arbiter.tryAcquire]
  cases a.arbiter.isHeld
  · exact hbegin _ h
  · exact h

theorem withSession_resource {α : Type} (a : Adapter σ) {f : Bus σ → α × Bus σ}
    (hf : ∀ b, J b → J (f b).2) (h : J a.arbiter.resource) :
    J (a.worked (a.withSession f)).2.arbiter.resource := by
  rw [withSession, Arbiter.withSession]
  cases a.arbiter.isHeld
  · exact h
  · exact hf _ h

theorem withResource_resource {α : Type} (a : Adapter σ) {f : Bus σ → α × Bus σ}
    (hf : ∀ b, J b → J (f b).2) (h : J a.arbiter.resource) :
    J (a.worked (a.withResource f)).2.arbiter.resource := by
  rw [withResource, Arbiter.withResource]
  cases a.arbiter.isHeld
  · exact hf _ h
  · exact h

/-- What opening, closing and the work of an action keep is kept by the action. -/
theorem Action.run_resource (action : Action) (a : Adapter σ)
    (hbegin : ∀ b, J b → J ((Bus.access t).tryBegin b).2)
    (hfinish : ∀ b, J b → J ((Bus.access t).finish b)) (hwork : ∀ b, J b → J (action.work t b))
    (h : J a.arbiter.resource) : J (action.run t a).2.arbiter.resource := by
  cases action with
  | attempt => exact a.tryAcquire_resource hbegin h
  | close => exact close_resource hfinish h
  | drop => exact close_resource hfinish h
  | release => exact close_resource hfinish (close_resource hfinish h)
  | abandon => exact close_resource hfinish h
  | use request => exact a.withSession_resource hwork h
  | portNames => exact a.withResource_resource hwork h
  | transportVersion => exact a.withResource_resource hwork h
  | selectPort port => exact a.withResource_resource hwork h
  | freePort => exact a.withResource_resource hwork h

/-- What the transport keeps, opening and closing included, is kept by every action. -/
theorem Action.run_keeps {I : σ → Prop} (action : Action) (a : Adapter σ) (hkeeps : t.Keeps I)
    (hbegin : ∀ s, I s → I (t.beginExclusive s).2) (hend : ∀ s, I s → I (t.endExclusive s))
    (h : I a.line) : I (action.run t a).2.line := by
  refine action.run_resource a (J := fun b => I b.line) (fun b hb => hbegin b.line hb)
    (fun b hb => hend b.line hb) (fun b hb => ?_) h
  cases action with
  | use request => exact request.run_keeps hkeeps hb
  | portNames => exact hkeeps.ask .portNames b.line hb
  | transportVersion => exact hkeeps.ask .version b.line hb
  | selectPort port => exact b.perform_keeps hkeeps (.selectPort port) hb
  | freePort => exact b.perform_keeps hkeeps .freePort hb
  | attempt | close | drop | release | abandon => exact hb

end Adapter

/-! ## Work that leaves an enumeration alone -/

/-- The request belongs to no enumeration and moves neither the filter nor the
port. -/
def Request.sparesWalk : Request → Bool
  | findFirst _ _ | findNext | setFilter _ => false
  | perform primitive => !primitive.movesPort
  | ask _ | isPresent _ | isAlarming _ | select _ => true

/-- The action does not move the port, and nothing in it belongs to an
enumeration. -/
def Adapter.Action.sparesWalk : Action → Bool
  | use request => request.sparesWalk
  | selectPort _ | freePort => false
  | attempt | close | drop | release | abandon | portNames | transportVersion => true

namespace Driver

/-- What a search sees of an adapter's transport. -/
abbrev recordedView (s : (Network × Driver) × List Call) : View :=
  view s.1

theorem recorded_sees : recorded.Sees recordedView :=
  sees.recorded

theorem view_beginExclusive (s : Network × Driver) : view (beginExclusive s).2 = view s := by
  rw [beginExclusive]
  split <;> rfl

theorem view_endExclusive (s : Network × Driver) : view (endExclusive s) = view s := by
  rw [endExclusive]
  split <;> rfl

/-- Which devices there are and whether the wire is shorted is changed by no query
and no primitive. -/
theorem recorded_keeps_population (short : Bool) (population : List (Address × Bool)) :
    recorded.Keeps fun s => s.1.1.short = short ∧ s.1.1.population = population where
  ask _ _ h := h
  perform primitive s h := by
    have hs := perform_frame primitive s.1
    exact ⟨hs.short.trans h.1, hs.population.trans h.2⟩

end Driver

open Driver (recorded recordedView)

/-- The primitive leaves the enumeration where it was, whether it reaches the
transport or not. -/
theorem Bus.perform_alike (b : Bus ((Network × Driver) × List Call)) {primitive : Primitive}
    (h : primitive.movesPort = false) :
    Bus.Alike recordedView b (b.perform recorded primitive).2 := by
  rw [Bus.perform]
  split
  · exact .refl _ b
  · have hs := Driver.perform_frame primitive b.line.1
    rw [h] at hs
    simp only [h, Bool.false_eq_true, if_false]
    exact ⟨rfl, rfl, hs.view_eq⟩

theorem Bus.select_alike (b : Bus ((Network × Driver) × List Call)) (a : Address) :
    Bus.Alike recordedView b (b.select recorded a).2 := by
  refine ⟨rfl, rfl, ?_⟩
  have hreset : recordedView (recorded.perform .reset b.line).2 = recordedView b.line :=
    (Driver.perform_frame .reset b.line.1).view_eq
  rw [Bus.select, Search.select]
  generalize recorded.perform .reset b.line = r at hreset
  obtain ⟨e | result, s⟩ := r
  · exact hreset
  · cases hp : result.isPresent with
    | false =>
      simp only [hp, Bool.false_eq_true, if_false]
      exact hreset
    | true =>
      have hsend : recordedView (recorded.perform (.transfer (matchRom :: a.bytes)) s).2 =
          recordedView s :=
        (Driver.perform_frame (.transfer (matchRom :: a.bytes)) s.1).view_eq
      simp only [hp, if_true]
      exact hsend.trans hreset

theorem Request.run_alike (b : Bus ((Network × Driver) × List Call)) {request : Request}
    (h : request.sparesWalk = true) : Bus.Alike recordedView b (request.run recorded b) := by
  cases request with
  | ask query => exact ⟨rfl, rfl, rfl⟩
  | perform primitive => exact b.perform_alike (by simpa [sparesWalk] using h)
  | findFirst alarmOnly skipReset => cases h
  | findNext => cases h
  | isPresent a => exact ⟨rfl, rfl, Driver.recorded_sees.kept _ b.line⟩
  | isAlarming a => exact ⟨rfl, rfl, Driver.recorded_sees.kept _ b.line⟩
  | select a => exact b.select_alike a
  | setFilter filter => cases h

/-- Other work of the adapter itself. -/
theorem Adapter.Action.run_alike (a : Adapter ((Network × Driver) × List Call)) {action : Action}
    (h : action.sparesWalk = true) :
    Bus.Alike recordedView a.arbiter.resource (action.run recorded a).2.arbiter.resource := by
  refine action.run_resource a (J := Bus.Alike recordedView a.arbiter.resource) ?_ ?_ ?_ (.refl _ _)
  · intro b hb
    exact hb.trans ⟨rfl, rfl, Driver.view_beginExclusive b.line.1⟩
  · intro b hb
    exact hb.trans ⟨rfl, rfl, Driver.view_endExclusive b.line.1⟩
  · intro b hb
    refine hb.trans ?_
    cases action with
    | use request => exact request.run_alike b h
    | selectPort port => cases h
    | freePort => cases h
    | attempt | close | drop | release | abandon | portNames | transportVersion =>
      exact ⟨rfl, rfl, rfl⟩

/-- Whatever is done with an adapter, the devices on its wire stay. -/
theorem Adapter.Action.run_population (a : Adapter ((Network × Driver) × List Call))
    (action : Action) :
    (action.run recorded a).2.line.1.1.short = a.line.1.1.short ∧
      (action.run recorded a).2.line.1.1.population = a.line.1.1.population := by
  refine action.run_keeps a (Driver.recorded_keeps_population a.line.1.1.short
    a.line.1.1.population) ?_ ?_ ⟨rfl, rfl⟩
  · intro s hs
    have hview := Driver.view_beginExclusive s.1
    exact ⟨(congrArg View.short hview).trans hs.1, (congrArg View.population hview).trans hs.2⟩
  · intro s hs
    have hview := Driver.view_endExclusive s.1
    exact ⟨(congrArg View.short hview).trans hs.1, (congrArg View.population hview).trans hs.2⟩

/-- Nor does a driver without an adapter change which devices there are. -/
theorem Driver.Action.run_population (action : Driver.Action) (s : Network × Driver) :
    (action.run s).2.1.short = s.1.short ∧ (action.run s).2.1.population = s.1.population := by
  cases action with
  | begin =>
    have hview := view_beginExclusive s
    exact ⟨congrArg View.short hview, congrArg View.population hview⟩
  | finish =>
    have hview := view_endExclusive s
    exact ⟨congrArg View.short hview, congrArg View.population hview⟩
  | perform primitive =>
    have hs := perform_frame primitive s
    exact ⟨hs.short, hs.population⟩

/-! ## Enumerations on a site -/

namespace Site

/-- The step does not belong to an enumeration of the adapter and does not move its
port. All that other parties do is such a step. -/
def Step.sparesWalk (i : Nat) : Step → Bool
  | .adapter j action => j ≠ i || action.sparesWalk
  | .driver _ _ => true

/-- A request of the adapter's enumeration: the answer with the cursor after it, or
nothing if the adapter holds no session. -/
def ask (s : Site) (i : Nat) (request : WalkRequest) : Option (Found × SearchCursor) × Site :=
  match s.adapters[i]? with
  | none => (none, s)
  | some a =>
    match (a.onWire s.net).withSession (request.run recorded) with
    | none => (none, s)
    | some (found, a) =>
      (some (found, a.arbiter.resource.cursor),
        { s with net := a.line.1.1, adapters := s.adapters.set i a.offWire })

/-- What happens at a site: a request of one adapter's enumeration, a step of some
party, or bytes queued for a device. -/
inductive Event where
  | walk (request : WalkRequest)
  | step (step : Step)
  | queue (a : Address) (bytes : List UInt8)
deriving DecidableEq, Repr

namespace Event

def isWalk : Event → Bool
  | walk _ => true
  | step _ | queue _ _ => false

def sparesWalk (i : Nat) : Event → Bool
  | step st => st.sparesWalk i
  | walk _ | queue _ _ => true

end Event

/-- The answers to the requests of the adapter's enumeration, in order. -/
def observe (i : Nat) : Site → List Event → List (Option (Found × SearchCursor))
  | _, [] => []
  | s, .walk request :: events => (s.ask i request).1 :: observe i (s.ask i request).2 events
  | s, .step step :: events => observe i (s.act step).2 events
  | s, .queue a bytes :: events =>
    observe i { s with net := (s.net.queueResponse a bytes).2 } events

/-- The enumerations of the adapter on two sites stand at the same place and see
the same. -/
def Alike (i : Nat) (s s' : Site) : Prop :=
  ∃ a a', s.adapters[i]? = some a ∧ s'.adapters[i]? = some a' ∧
    Bus.Alike recordedView (a.onWire s.net).arbiter.resource (a'.onWire s'.net).arbiter.resource

/-- The adapter holds a session. -/
def isHeld (s : Site) (i : Nat) : Bool :=
  s.adapters[i]?.any (·.isHeld)

variable {s s' s'' : Site} {i : Nat} {a : Adapter (Driver × List Call)}

theorem exists_of_isHeld (held : s.isHeld i = true) :
    ∃ a, s.adapters[i]? = some a ∧ a.isHeld = true := by
  rw [isHeld] at held
  cases hi : s.adapters[i]? with
  | none =>
    rw [hi] at held
    cases held
  | some a =>
    rw [hi] at held
    exact ⟨a, rfl, held⟩

theorem Alike.of_isHeld (held : s.isHeld i = true) : Alike i s s := by
  obtain ⟨a, hi, -⟩ := exists_of_isHeld held
  exact ⟨a, a, hi, hi, .refl _ _⟩

/-! ### Other work -/

/-- A change that leaves the adapter alone and the devices on the wire. -/
theorem Alike.elsewhere (h : Alike i s s') (hi : s''.adapters[i]? = s'.adapters[i]?)
    (hshort : s''.net.short = s'.net.short)
    (hpopulation : s''.net.population = s'.net.population) : Alike i s s'' := by
  obtain ⟨a, a', ha, ha', hb⟩ := h
  refine ⟨a, a', ha, hi.trans ha', hb.trans ⟨rfl, rfl, ?_⟩⟩
  show View.mk s''.net.short s''.net.population a'.line.1.selected = _
  rw [hshort, hpopulation]
  rfl

/-- One step that spares the enumeration. -/
theorem Alike.act (h : Alike i s s') {step : Step} (spared : step.sparesWalk i = true) :
    Alike i s (s'.act step).2 := by
  cases step with
  | adapter j action =>
    cases hj : s'.adapters[j]? with
    | none =>
      rw [Site.act, hj]
      exact h
    | some b =>
      have hlt : j < s'.adapters.length := (List.getElem?_eq_some_iff.mp hj).1
      rw [act_adapter hj]
      by_cases hji : j = i
      · subst hji
        obtain ⟨a, a', ha, ha', hb⟩ := h
        obtain rfl : b = a' := Option.some.inj (hj.symm.trans ha')
        have hspared : action.sparesWalk = true := by simpa [Step.sparesWalk] using spared
        exact ⟨a, _, ha, List.getElem?_set_self hlt, hb.trans (action.run_alike _ hspared)⟩
      · have hstays := action.run_population (b.onWire s'.net)
        exact h.elsewhere (List.getElem?_set_ne hji) hstays.1 hstays.2
  | driver j action =>
    cases hj : s'.drivers[j]? with
    | none =>
      rw [Site.act, hj]
      exact h
    | some drv =>
      have hstays := action.run_population (s'.net, drv)
      rw [act_driver hj]
      exact h.elsewhere rfl hstays.1 hstays.2

theorem Alike.queue (h : Alike i s s') (a : Address) (bytes : List UInt8) :
    Alike i s { s' with net := (s'.net.queueResponse a bytes).2 } :=
  h.elsewhere rfl rfl (s'.net.population_queueResponse a bytes)

/-! ### Requests -/

theorem ask_of_held (hi : s.adapters[i]? = some a) (held : a.isHeld = true)
    (request : WalkRequest) :
    s.ask i request =
      let answer := request.run recorded (a.onWire s.net).arbiter.resource
      let a : Adapter ((Network × Driver) × List Call) :=
        { a.onWire s.net with
          arbiter := { (a.onWire s.net).arbiter with resource := answer.2 } }
      (some (answer.1, answer.2.cursor),
        { s with net := a.line.1.1, adapters := s.adapters.set i a.offWire }) := by
  have held : (a.onWire s.net).arbiter.isHeld = true := held
  rw [ask, hi]
  simp only [Adapter.withSession, Arbiter.withSession, held, if_true, Option.map_some]

theorem ask_of_not_held (hi : s.adapters[i]? = some a) (held : a.isHeld = false)
    (request : WalkRequest) : s.ask i request = (none, s) := by
  have held : (a.onWire s.net).arbiter.isHeld = false := held
  rw [ask, hi]
  simp only [Adapter.withSession, Arbiter.withSession, held, Bool.false_eq_true, if_false,
    Option.map_none]

/-- A request that is made in both places is answered alike. -/
theorem Alike.ask (h : Alike i s s') (held : s.isHeld i = true) {request : WalkRequest}
    (asked : (s'.ask i request).1 ≠ none) :
    (s'.ask i request).1 = (s.ask i request).1 ∧
      Alike i (s.ask i request).2 (s'.ask i request).2 ∧
      (s.ask i request).2.isHeld i = true := by
  obtain ⟨a, a', ha, ha', hb⟩ := h
  obtain ⟨a₀, ha₀, held⟩ := exists_of_isHeld held
  obtain rfl : a₀ = a := Option.some.inj (ha₀.symm.trans ha)
  cases held' : a'.isHeld with
  | false =>
    rw [ask_of_not_held ha' held'] at asked
    exact absurd rfl asked
  | true =>
    obtain ⟨hfound, hnext⟩ := hb.run Driver.recorded_sees request
    have hlt : i < s.adapters.length := (List.getElem?_eq_some_iff.mp ha).1
    have hlt' : i < s'.adapters.length := (List.getElem?_eq_some_iff.mp ha').1
    rw [ask_of_held ha held, ask_of_held ha' held']
    dsimp only
    refine ⟨by rw [hfound, hnext.cursor], ?_, ?_⟩
    · exact ⟨_, _, List.getElem?_set_self hlt, List.getElem?_set_self hlt', hnext⟩
    · rw [isHeld, List.getElem?_set_self hlt]
      exact held

/-- Two enumerations that stand alike, one with other work in between. By induction
on the events. -/
theorem Alike.observe (h : Alike i s s') (held : s.isHeld i = true) {events : List Event}
    (spared : ∀ e ∈ events, e.sparesWalk i = true) (asked : none ∉ s'.observe i events) :
    s'.observe i events = s.observe i (events.filter Event.isWalk) := by
  induction events generalizing s s' with
  | nil => rfl
  | cons e events ih =>
    obtain ⟨he, hrest⟩ := List.forall_mem_cons.mp spared
    cases e with
    | walk request =>
      obtain ⟨hfirst, hasked⟩ := not_or.mp (mt List.mem_cons.mpr asked)
      obtain ⟨hanswer, hnext, hheld⟩ := h.ask held (Ne.symm hfirst)
      show (s'.ask i request).1 :: _ = (s.ask i request).1 :: _
      rw [hanswer, ih hnext hheld hrest hasked]
    | step step => exact ih (h.act he) held hrest asked
    | queue a bytes => exact ih (h.queue a bytes) held hrest asked

/-- The answers to the requests of an enumeration, and the cursor after each, are
those of the requests alone, if these are made in a session and no other work of
the same adapter moves its cursor, its filter or its port. -/
theorem walk_undisturbed (s : Site) (i : Nat) (events : List Event)
    (held : s.isHeld i = true) (spared : ∀ e ∈ events, e.sparesWalk i = true)
    (asked : none ∉ s.observe i events) :
    s.observe i events = s.observe i (events.filter Event.isWalk) :=
  (Alike.of_isHeld held).observe held spared asked

/-- Between its requests the adapter checks a device, selects another one and reads
from it, starts a program pulse, and ends its session; the other adapter then has a
session with an alarm search of its own. -/
theorem walk_undisturbed_of_pair :
    let adapter := (Adapter.create Driver.recorded "sim" "simulated"
      (({}, { selected := some "sim0" }), [])).offWire
    let wire := Network.populated [⟨1⟩, ⟨2⟩] [⟨3⟩]
    let s := Site.run ⟨wire, [adapter, adapter], []⟩ [.adapter 0 .attempt]
    let events : List Event := [.walk (.first false false),
      .step (.adapter 0 (.use (.isPresent ⟨3⟩))), .queue ⟨1⟩ [7],
      .step (.adapter 0 (.use (.select ⟨1⟩))), .step (.adapter 0 (.use (.perform .readByte))),
      .walk .next, .step (.adapter 0 (.use (.perform (.startPulse .now)))),
      .step (.adapter 0 .release), .step (.adapter 1 .attempt),
      .step (.adapter 1 (.use (.findFirst true true))), .step (.adapter 1 (.use .findNext)),
      .step (.adapter 1 .drop), .step (.adapter 0 .attempt), .walk .next, .walk .next]
    s.observe 0 events = s.observe 0 [.walk (.first false false), .walk .next, .walk .next,
        .walk .next] ∧
      (s.observe 0 events).map (·.map (·.1)) = [some (.device ⟨2⟩), some (.device ⟨1⟩),
        some (.device ⟨3⟩), some .finished] := by
  intro adapter wire s events
  have hanswers : (s.observe 0 events).map (·.map (·.1)) = [some (.device ⟨2⟩),
      some (.device ⟨1⟩), some (.device ⟨3⟩), some .finished] := by
    decide +kernel
  have asked : none ∉ s.observe 0 events := by
    intro hnone
    have := List.mem_map_of_mem (f := (·.map (·.1))) hnone
    rw [hanswers] at this
    simp at this
  exact ⟨s.walk_undisturbed 0 events (by decide +kernel) (by decide +kernel) asked, hanswers⟩

end Site

end BusMaster
