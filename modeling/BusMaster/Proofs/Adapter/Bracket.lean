import BusMaster.Lease.Wait
import BusMaster.Proofs.Adapter.Session
import BusMaster.Proofs.Record
import BusMaster.Transport.Script

/-!
# Calls outside of a session

The calls of a transport are made by the holder of a session, but for those that
manage its port and for its capabilities, which are asked for first of all. The
one exception is the version, which an adapter asks for outside of any session.

* `InSession`, `Call.InPlace`: where a transport expects a call;
* `Bracketed`: a record of calls that are all in place, or are excepted;
* `Adapter.Operation`: what can be done with an adapter, waits for a session
  included;
* `Step.run_guarded`, `Operation.run_guarded`: a step, and an operation, keeps
  the record like that;
* `Adapter.calls_in_place`: all together.
-/

namespace BusMaster

/-! ## Calls and their places -/

/-- The call manages the port, which can be done at any time. -/
def Call.managesPort : Call → Bool
  | asked .portNames | asked .portName | performed (.selectPort _) | performed .freePort => true
  | _ => false

/-- The call opens or closes the bus. -/
def Call.isBracket : Call → Bool
  | began _ | ended => true
  | _ => false

/-- The bus was opened, and has not been closed since. -/
def InSession (calls : List Call) : Prop :=
  ∃ before since, calls = before ++ .began true :: since ∧ .ended ∉ since

/-- Where a transport expects a call, seen from the calls before it. -/
def Call.InPlace (call : Call) (before : List Call) : Prop :=
  call.isBracket = true ∨ call.managesPort = true ∨
    before = [] ∧ call = .asked .capabilities ∨ InSession before

variable {calls : List Call} {call : Call} {excepted : Call → Prop} {isOpen isOpen' : Bool}

theorem inSession_snoc :
    InSession (calls ++ [call]) ↔ call = .began true ∨ call ≠ .ended ∧ InSession calls := by
  constructor
  · rintro ⟨before, since, he, hno⟩
    rcases split_snoc he with ⟨-, hcall, -⟩ | ⟨since, rfl, hcalls⟩
    · exact .inl hcall.symm
    · rw [List.mem_append, not_or, List.mem_singleton] at hno
      exact .inr ⟨fun h => hno.2 h.symm, before, since, hcalls, hno.1⟩
  · rintro (rfl | ⟨hne, before, since, rfl, hno⟩)
    · exact ⟨calls, [], rfl, List.not_mem_nil⟩
    · refine ⟨before, since ++ [call], List.append_assoc _ _ _, ?_⟩
      rw [List.mem_append, List.mem_singleton, not_or]
      exact ⟨hno, hne.symm⟩

/-- Every call was in place, or is excepted, and `isOpen` says whether the bus is
open now. -/
structure Bracketed (excepted : Call → Prop) (isOpen : Bool) (calls : List Call) : Prop where
  inSession : InSession calls ↔ isOpen = true
  each : ∀ before call after, calls = before ++ call :: after →
    call.InPlace before ∨ excepted call

namespace Bracketed

theorem nil : Bracketed excepted false [] where
  inSession := by
    refine iff_of_false ?_ (by decide)
    rintro ⟨before, since, he, -⟩
    exact absurd he.symm (List.append_ne_nil_of_right_ne_nil before (List.cons_ne_nil _ _))
  each before call after he :=
    absurd he.symm (List.append_ne_nil_of_right_ne_nil before (List.cons_ne_nil _ _))

/-- One call more. -/
theorem snoc (h : Bracketed excepted isOpen calls) (hcall : call.InPlace calls ∨ excepted call)
    (ho : call = .began true ∨ call ≠ .ended ∧ isOpen = true ↔ isOpen' = true) :
    Bracketed excepted isOpen' (calls ++ [call]) where
  inSession := by
    rw [inSession_snoc, h.inSession]
    exact ho
  each before call' after he := by
    rcases split_snoc he with ⟨rfl, rfl, -⟩ | ⟨after, -, hcalls⟩
    · exact hcall
    · exact h.each before call' after hcalls

theorem began (h : Bracketed excepted false calls) (granted : Bool) :
    Bracketed excepted granted (calls ++ [.began granted]) :=
  h.snoc (.inl (.inl rfl)) (by simp)

theorem ended (h : Bracketed excepted true calls) :
    Bracketed excepted false (calls ++ [.ended]) :=
  h.snoc (.inl (.inl rfl)) (by simp)

theorem inside (h : Bracketed excepted true calls) (hno : call.isBracket = false) :
    Bracketed excepted true (calls ++ [call]) := by
  refine h.snoc (.inl (.inr (.inr (.inr (h.inSession.mpr rfl))))) ?_
  cases call <;> simp [Call.isBracket] at hno ⊢

theorem outside (h : Bracketed excepted false calls) (hno : call.isBracket = false)
    (hcall : call.InPlace calls ∨ excepted call) :
    Bracketed excepted false (calls ++ [call]) := by
  refine h.snoc hcall ?_
  cases call <;> simp [Call.isBracket] at hno ⊢

theorem managing (h : Bracketed excepted false calls) (hport : call.managesPort = true) :
    Bracketed excepted false (calls ++ [call]) := by
  refine h.outside ?_ (.inl (.inr (.inl hport)))
  cases call <;> simp [Call.managesPort, Call.isBracket] at hport ⊢

/-- There is no place for the version while the bus is not open. -/
theorem not_inPlace_version (h : Bracketed excepted false calls) :
    ¬ (Call.asked .version).InPlace calls := by
  rintro (hno | hno | ⟨-, hno⟩ | hin)
  · cases hno
  · cases hno
  · cases hno
  · exact absurd (h.inSession.mp hin) (by decide)

end Bracketed

/-- Work of a session's holder is all in place. -/
theorem Transport.recorded_keeps {σ : Type} (t : Transport σ) (excepted : Call → Prop) :
    t.recorded.Keeps fun s => Bracketed excepted true s.2 where
  ask _ _ h := h.inside rfl
  perform _ _ h := h.inside rfl

/-- What the transport keeps is kept by a pull. -/
theorem Devices.next_keeps {σ : Type} {t : Transport σ} {I : σ → Prop} (h : t.Keeps I)
    (devices : Devices) {b : Bus σ} (hb : I b.line) : I (devices.next t b).2.2.line := by
  rw [next]
  split
  · exact hb
  · show I (if _ then _ else _ : Found × Bus σ).2.line
    split
    · exact Request.run_keeps h .findNext hb
    · exact Request.run_keeps h (.findFirst devices.alarmOnly devices.skipReset) hb

/-! ## Waits -/

namespace Lease

variable {ω : Type} {P : ω → Prop} {around : Surroundings ω} {attempt : ω → Bool × ω}

/-- What attempts and pauses keep is kept by a wait. -/
theorem acquireBlocking_keeps (hattempt : ∀ w, P w → P (attempt w).2)
    (hpause : ∀ length w, P w → P (around.pause length w)) (interval : Nat) :
    ∀ (rounds : Nat) (w : ω), P w → P (acquireBlocking around interval attempt rounds w).2
  | 0, _, hw => hw
  | rounds + 1, w, hw => by
    have ha := hattempt w hw
    rw [acquireBlocking]
    generalize attempt w = r at ha
    obtain ⟨_ | _, w'⟩ := r
    · exact acquireBlocking_keeps hattempt hpause interval rounds _ (hpause interval w' ha)
    · exact ha

theorem acquireBounded_keeps (hattempt : ∀ w, P w → P (attempt w).2)
    (hpause : ∀ length w, P w → P (around.pause length w)) (interval : Nat) (bounds : Bounds) :
    ∀ (rounds : Nat) (w : ω), P w → P (acquireBounded around interval bounds attempt rounds w).2
  | 0, _, hw => hw
  | rounds + 1, w, hw => by
    have ha := hattempt w hw
    rw [acquireBounded]
    split
    · exact hw
    · generalize attempt w = r at ha
      obtain ⟨_ | _, w'⟩ := r
      · simp only []
        split
        · exact ha
        · rename_i length _
          exact acquireBounded_keeps hattempt hpause interval bounds rounds _ (hpause length w' ha)
      · exact ha

end Lease

namespace Adapter

variable {σ : Type} {t : Transport σ}

/-! ## Operations -/

/-- What one party does at one go. -/
inductive Step where
  | act (action : Action)
  /-- The holder pulls from an enumeration. -/
  | pull (devices : Devices)
deriving DecidableEq, Repr

namespace Step

/-- The step is the holder's work. -/
def isWork : Step → Bool
  | act (.use _) | pull _ => true
  | _ => false

/-- The step asks the adapter for the version of its transport. -/
def asksVersion : Step → Bool
  | act .transportVersion => true
  | _ => false

/-- What becomes of the adapter. Once the session is closed its holder works on
the bus no more. -/
def run {σ : Type} (t : Transport σ) (a : Adapter σ) (step : Step) : Adapter σ :=
  if step.isWork && !a.isOpen then a
  else
    match step with
    | act action => (action.run t a).2
    | pull devices => (a.worked (a.withSession fun b => ((), (devices.next t b).2.2))).2

end Step

/-- A round of a wait. -/
structure Round where
  /-- The token has fired when the round begins. -/
  fired : Bool
  /-- The time once the attempt has failed. -/
  now : Nat
  /-- What other parties do during the pause. -/
  others : List Step
deriving DecidableEq, Repr

/-- What goes on around a party that waits for the adapter, round by round. -/
def surroundings {σ : Type} (t : Transport σ) : Surroundings (Adapter σ × List Round) where
  fired w := w.2.head?.any (·.fired)
  now w := (w.2.head?.map (·.now)).getD 0
  pause _ w := ((w.2.head?.toList.flatMap (·.others)).foldl (Step.run t) w.1, w.2.tail)

/-- One attempt of such a party. -/
def attempted {σ : Type} (t : Transport σ) (w : Adapter σ × List Round) :
    Bool × Adapter σ × List Round :=
  let (granted, a) := w.1.tryAcquire t
  (granted, a, w.2)

/-- What can be done with an adapter: a step, or a wait for a session, followed
for some rounds. -/
inductive Operation where
  | step (step : Step)
  | waitBlocking (interval : Nat) (rounds : List Round)
  | waitBounded (interval : Nat) (bounds : Bounds) (rounds : List Round)
deriving DecidableEq, Repr

namespace Operation

/-- What becomes of the adapter. -/
def run {σ : Type} (t : Transport σ) (a : Adapter σ) : Operation → Adapter σ
  | .step s => s.run t a
  | waitBlocking interval rounds =>
    (Lease.acquireBlocking (surroundings t) interval (attempted t) rounds.length (a, rounds)).2.1
  | waitBounded interval bounds rounds =>
    (Lease.acquireBounded (surroundings t) interval bounds (attempted t) rounds.length
      (a, rounds)).2.1

/-- The steps in it, those of others included. -/
def steps : Operation → List Step
  | .step s => [s]
  | waitBlocking _ rounds | waitBounded _ _ rounds => rounds.flatMap (·.others)

end Operation

/-- Operations one after the other on a new adapter whose calls are recorded. -/
def operated (t : Transport σ) (name portType : String) (line : σ) (ops : List Operation) :
    Adapter (σ × List Call) :=
  ops.foldl (Operation.run t.recorded) (create t.recorded name portType (line, []))

/-! ## What they keep -/

/-- The calls of the adapter are in place, or are excepted. -/
def Guarded (excepted : Call → Prop) (a : Adapter (σ × List Call)) : Prop :=
  Bracketed excepted a.isOpen a.line.2

variable {a a' : Adapter (σ × List Call)}

theorem guarded_create (t : Transport σ) (excepted : Call → Prop) (name portType : String)
    (line : σ) : Guarded excepted (create t.recorded name portType (line, [])) := by
  have first : Bracketed excepted false [.asked .capabilities] :=
    Bracketed.nil.outside rfl (.inl (.inr (.inr (.inl ⟨rfl, rfl⟩))))
  exact first.managing rfl

theorem Guarded.attempt (h : a.Guarded excepted) :
    (a.tryAcquire t.recorded).2.Guarded excepted := by
  rw [tryAcquire, Arbiter.tryAcquire]
  cases held : a.arbiter.isHeld
  · rw [Guarded, isOpen, Arbiter.isOpen_of_not_held held] at h
    have hb := h.began (t.beginExclusive a.line.1).1
    have htry : (Bus.access t.recorded).tryBegin a.arbiter.resource =
        ((t.beginExclusive a.line.1).1, { a.arbiter.resource with
          line := ((t.beginExclusive a.line.1).2,
            a.line.2 ++ [.began (t.beginExclusive a.line.1).1]) }) := rfl
    rw [htry]
    generalize t.beginExclusive a.line.1 = r at hb
    obtain ⟨granted, inner⟩ := r
    cases granted <;> exact hb
  · exact h

theorem Guarded.closes (h : a.Guarded excepted) (hopen : a'.isOpen = false)
    (hl : a'.line = (a.arbiter.close (Bus.access t.recorded)).resource.line) :
    a'.Guarded excepted := by
  rw [Guarded, hopen, hl]
  cases ho : a.isOpen
  · rw [Arbiter.close_of_not_open ho]
    rw [Guarded, ho] at h
    exact h
  · rw [Arbiter.close_of_open ho]
    rw [Guarded, ho] at h
    exact h.ended

/-- Work of the holder, as long as the session is open. -/
theorem Guarded.works {α : Type} (h : a.Guarded excepted) (ho : a.isOpen = true)
    (f : Bus (σ × List Call) → α × Bus (σ × List Call))
    (hf : ∀ {I : σ × List Call → Prop}, t.recorded.Keeps I → I a.line →
      I (f a.arbiter.resource).2.line) :
    (a.worked (a.withSession f)).2.Guarded excepted := by
  rw [withSession, Arbiter.withSession]
  split
  · rw [Guarded, ho] at h
    have hdone := hf (t.recorded_keeps excepted) h
    rw [← ho] at hdone
    exact hdone
  · exact h

/-- Work without a session: it is done while the bus is not open. -/
theorem Guarded.without {α : Type} (h : a.Guarded excepted)
    (f : Bus (σ × List Call) → α × Bus (σ × List Call))
    (hf : Bracketed excepted false a.line.2 →
      Bracketed excepted false (f a.arbiter.resource).2.line.2) :
    (a.worked (a.withResource f)).2.Guarded excepted := by
  rw [withResource, Arbiter.withResource]
  split
  · exact h
  · rename_i held
    have ho : a.isOpen = false := Arbiter.isOpen_of_not_held ((Bool.not_eq_true _).mp held)
    rw [Guarded, ho] at h
    have hdone := hf h
    rw [← ho] at hdone
    exact hdone

/-- Moving the port, and then recording where it is. -/
theorem Bracketed.moving {primitive : Primitive} {b : Bus (σ × List Call)}
    (h : Bracketed excepted false b.line.2) (hp : (Call.performed primitive).managesPort = true) :
    Bracketed excepted false (b.perform t.recorded primitive).2.line.2 := by
  have hport : (Call.asked .portName).managesPort = true := rfl
  have hmoved := (h.managing hp).managing hport
  cases primitive <;> first | exact hmoved | cases hp

/-- One step keeps the calls in place. The version has to be excepted if the step
asks for it. -/
theorem Step.run_guarded (h : a.Guarded excepted) (step : Step)
    (hv : step.asksVersion = true → excepted (.asked .version)) :
    (step.run t.recorded a).Guarded excepted := by
  unfold run
  split
  · exact h
  · -- What is left of the holder's work is done while the session is open.
    rename_i hwork
    cases step with
    | pull devices =>
      have ho : a.isOpen = true := by simpa [isWork] using hwork
      exact h.works ho (fun b => ((), (devices.next t.recorded b).2.2)) fun hk hI =>
        devices.next_keeps hk hI
    | act action =>
      cases action with
      | attempt => exact h.attempt
      | close => exact h.closes Arbiter.isOpen_close rfl
      | drop => exact h.closes rfl rfl
      | release =>
        refine h.closes (t := t) rfl ?_
        show (a.arbiter.release (Bus.access t.recorded)).resource.line = _
        rw [Arbiter.release_eq_drop]
        rfl
      | abandon => exact h.closes rfl rfl
      | use request =>
        have ho : a.isOpen = true := by simpa [isWork] using hwork
        exact h.works ho (fun b => ((), request.run t.recorded b)) fun hk hI =>
          request.run_keeps hk hI
      | portNames => exact h.without (·.ask t.recorded .portNames) fun h => h.managing rfl
      | transportVersion =>
        exact h.without (·.ask t.recorded .version) fun h => h.outside rfl (.inr (hv rfl))
      | selectPort port =>
        exact h.without (·.perform t.recorded (.selectPort port)) fun h => Bracketed.moving h rfl
      | freePort =>
        exact h.without (·.perform t.recorded .freePort) fun h => Bracketed.moving h rfl

/-- Steps one after the other. -/
theorem guarded_foldl (h : a.Guarded excepted) (steps : List Step)
    (hv : ∀ step ∈ steps, step.asksVersion = true → excepted (.asked .version)) :
    (steps.foldl (Step.run t.recorded) a).Guarded excepted := by
  induction steps generalizing a with
  | nil => exact h
  | cons step steps ih =>
    rw [List.forall_mem_cons] at hv
    exact ih (step.run_guarded h hv.1) hv.2

/-- A party waits for an adapter whose calls are in place, or are excepted, and
the rounds to come leave them so. -/
structure GuardedWait (excepted : Call → Prop) (w : Adapter (σ × List Call) × List Round) :
    Prop where
  guarded : w.1.Guarded excepted
  others : ∀ step ∈ w.2.flatMap (·.others),
    step.asksVersion = true → excepted (.asked .version)

theorem GuardedWait.attempted {w : Adapter (σ × List Call) × List Round}
    (h : GuardedWait excepted w) : GuardedWait excepted (attempted t.recorded w).2 :=
  ⟨h.guarded.attempt, h.others⟩

theorem GuardedWait.pause {w : Adapter (σ × List Call) × List Round}
    (h : GuardedWait excepted w) (length : Nat) :
    GuardedWait excepted ((surroundings t.recorded).pause length w) := by
  obtain ⟨a, _ | ⟨round, rounds⟩⟩ := w
  · exact h
  · have hr := h.others
    rw [List.flatMap_cons, List.forall_mem_append] at hr
    have hsteps : (some round).toList.flatMap (·.others) = round.others := by simp
    refine ⟨guarded_foldl h.guarded _ ?_, hr.2⟩
    exact hsteps.symm ▸ hr.1

/-- One operation, waits included. -/
theorem Operation.run_guarded (h : a.Guarded excepted) (op : Operation)
    (hv : ∀ step ∈ op.steps, step.asksVersion = true → excepted (.asked .version)) :
    (op.run t.recorded a).Guarded excepted := by
  cases op with
  | step s => exact s.run_guarded h (hv s (List.mem_singleton_self s))
  | waitBlocking interval rounds =>
    exact (Lease.acquireBlocking_keeps (P := GuardedWait excepted) (fun _ h => h.attempted)
      (fun length _ h => h.pause length) interval rounds.length (a, rounds) ⟨h, hv⟩).guarded
  | waitBounded interval bounds rounds =>
    exact (Lease.acquireBounded_keeps (P := GuardedWait excepted) (fun _ h => h.attempted)
      (fun length _ h => h.pause length) interval bounds rounds.length (a, rounds) ⟨h, hv⟩).guarded

theorem guarded_operated (t : Transport σ) (name portType : String) (line : σ)
    (ops : List Operation)
    (hv : ∀ step ∈ ops.flatMap (·.steps), step.asksVersion = true → excepted (.asked .version)) :
    (operated t name portType line ops).Guarded excepted := by
  rw [operated]
  have h := guarded_create t excepted name portType line
  generalize create t.recorded name portType (line, []) = a at h
  induction ops generalizing a with
  | nil => exact h
  | cons op ops ih =>
    rw [List.flatMap_cons, List.forall_mem_append] at hv
    exact ih hv.2 _ (op.run_guarded h hv.1)

/-- Whatever is done with an adapter on any transport, each of its calls is in
place or asks for the version. It asks for that only if it is asked to, and that
call is never in place. -/
theorem calls_in_place (t : Transport σ) (name portType : String) (line : σ)
    (ops : List Operation) :
    let a := operated t name portType line ops
    (∀ before call after, a.line.2 = before ++ call :: after → call.InPlace before ∨
      call = .asked .version ∧ ∃ step ∈ ops.flatMap (·.steps), step.asksVersion = true) ∧
    ∀ version a', a.transportVersion t.recorded = some (version, a') →
      a'.line.2 = a.line.2 ++ [.asked .version] ∧ ¬ (Call.asked .version).InPlace a.line.2 := by
  intro a
  have h : a.Guarded fun call => call = .asked .version ∧
      ∃ step ∈ ops.flatMap (·.steps), step.asksVersion = true :=
    guarded_operated t name portType line ops fun step hs hv => ⟨rfl, step, hs, hv⟩
  refine ⟨h.each, fun version a' answered => ?_⟩
  rw [transportVersion, withResource, Arbiter.withResource] at answered
  split at answered
  · cases answered
  · rename_i held
    rw [Guarded, isOpen, Arbiter.isOpen_of_not_held ((Bool.not_eq_true _).mp held)] at h
    cases answered
    exact ⟨rfl, h.not_inPlace_version⟩

/-- A party that waits gets the session when its holder panics, and the reset that
it asks for then is in place. The version, asked for at the end, is not. -/
theorem calls_in_place_of_wait :
    let ops : List Operation := [.step (.act .attempt),
      .waitBlocking 20 [⟨false, 0, [.act .abandon]⟩, ⟨false, 20, []⟩],
      .step (.act (.use (.perform .reset))), .step (.act .release),
      .step (.act (.selectPort "script"))]
    let a := operated Script.transport "Script" "scripted" {} ops
    a.line.2 = [.asked .capabilities, .asked .portName, .began true, .ended, .began true,
      .performed .reset, .ended, .performed (.selectPort "script"), .asked .portName] ∧
    (Call.performed .reset).InPlace
      [.asked .capabilities, .asked .portName, .began true, .ended, .began true] ∧
    ∃ a', a.transportVersion Script.transport.recorded = some ("scripted", a') ∧
      ¬ (Call.asked .version).InPlace a.line.2 := by
  intro ops a
  have hcalls : a.line.2 = [.asked .capabilities, .asked .portName, .began true, .ended,
      .began true, .performed .reset, .ended, .performed (.selectPort "script"),
      .asked .portName] := rfl
  obtain ⟨heach, hversion⟩ := calls_in_place Script.transport "Script" "scripted" {} ops
  refine ⟨hcalls, ?_, _, rfl, (hversion _ _ rfl).2⟩
  exact (heach [_, _, _, _, _] _ [_, _, _] hcalls).resolve_right fun h => nomatch h.1

/-- On a new adapter the version is asked for before the bus was ever opened. -/
theorem version_not_in_place :
    let a := operated Script.transport "Script" "scripted" {} [.step (.act .transportVersion)]
    a.line.2 = [.asked .capabilities, .asked .portName, .asked .version] ∧
      ¬ (Call.asked .version).InPlace [.asked .capabilities, .asked .portName] := by
  have h := guarded_create Script.transport (fun _ => False) "Script" "scripted" {}
  exact ⟨rfl, h.not_inPlace_version⟩

end Adapter

end BusMaster
