import BusMaster.Monitor.Scan
import BusMaster.Proofs.Adapter.Session
import BusMaster.Proofs.Search.Enumeration
import BusMaster.Transport.Script

/-!
# What a scan asks of its transport

A scan polls for the bus, enumerates it in a session of its own and lets it go.
What an earlier walk or an earlier filter left in the adapter is written over
before the first pass, so it reaches neither the transport nor the result.

* `Transport.Refuses`: polls in a row that the transport refuses;
* `Transport.Searched`: passes one after the other, up to the first that fails;
* `Adapter.leftAt`: the adapter with another cursor and another filter;
* `Adapter.scanWait_cases`, `Adapter.scan_of_granted`: the scan taken apart;
* `Adapter.scan_forgets_and_lets_go`: all together, for any transport.
-/

namespace BusMaster

variable {σ : Type} {t : Transport σ} {s s' s'' : σ}

/-! ## Polls and passes -/

/-- From `s` the transport refuses the exclusive open `n` times in a row. -/
inductive Transport.Refuses (t : Transport σ) : Nat → σ → σ → Prop where
  | never (s : σ) : Refuses t 0 s s
  | again {n : Nat} {s s' s'' : σ} (refused : t.beginExclusive s = (false, s'))
      (more : Refuses t n s' s'') : Refuses t (n + 1) s s''

/-- Search passes one after the other. All of them were answered, or the last one
failed. -/
inductive Transport.Searched (t : Transport σ) :
    σ → List SearchPass → Option BusError → σ → Prop where
  | done (s : σ) : Searched t s [] none s
  | failed {s s' : σ} {pass : SearchPass} {e : BusError}
      (fails : t.perform (.search pass) s = (.error e, s')) : Searched t s [pass] (some e) s'
  | answered {s s' s'' : σ} {pass : SearchPass} {passes : List SearchPass}
      {answer : SearchAnswer} {error : Option BusError}
      (answers : t.perform (.search pass) s = (.ok answer, s'))
      (more : Searched t s' passes error s'') : Searched t s (pass :: passes) error s''

theorem Transport.perform_recorded (t : Transport σ) (primitive : Primitive)
    (s : σ × List Call) : t.recorded.perform primitive s =
      ((t.perform primitive s.1).1, (t.perform primitive s.1).2, s.2 ++ [.performed primitive]) :=
  rfl

theorem Transport.beginExclusive_of_recorded {granted : Bool} {s s' : σ × List Call}
    (h : t.recorded.beginExclusive s = (granted, s')) :
    t.beginExclusive s.1 = (granted, s'.1) ∧ s'.2 = s.2 ++ [.began granted] := by
  obtain ⟨rfl, rfl⟩ := Prod.mk.inj h
  exact ⟨rfl, rfl⟩

theorem Transport.Refuses.of_recorded {n : Nat} {s s' : σ × List Call}
    (h : t.recorded.Refuses n s s') :
    t.Refuses n s.1 s'.1 ∧ s'.2 = s.2 ++ List.replicate n (.began false) := by
  induction h with
  | never s => exact ⟨.never s.1, (List.append_nil _).symm⟩
  | again refused _ ih =>
    obtain ⟨hno, hc⟩ := Transport.beginExclusive_of_recorded refused
    refine ⟨.again hno ih.1, ?_⟩
    rw [ih.2, hc, List.append_assoc]
    rfl

/-- The calls of search passes. -/
def Call.searches (passes : List SearchPass) : List Call :=
  passes.map fun pass => .performed (.search pass)

theorem Transport.Searched.trans {passes passes' : List SearchPass} {error : Option BusError}
    (h : t.Searched s passes none s') (h' : t.Searched s' passes' error s'') :
    t.Searched s (passes ++ passes') error s'' := by
  generalize hno : (none : Option BusError) = never at h
  induction h with
  | done => exact h'
  | failed => cases hno
  | answered answers _ ih => exact .answered answers (ih h' hno)

/-- The calls of a recorded transport on the way from `s` to `s'` are those of `least`
or more search passes, up to the first that fails. -/
def OnlySearches (t : Transport σ) (least : Nat) (s s' : σ × List Call) (error : Option BusError) :
    Prop :=
  ∃ passes, t.Searched s.1 passes error s'.1 ∧ s'.2 = s.2 ++ Call.searches passes ∧
    least ≤ passes.length

namespace OnlySearches

variable {m n : Nat} {error : Option BusError}

theorem refl (t : Transport σ) (s : σ × List Call) : OnlySearches t 0 s s none :=
  ⟨[], .done s.1, (List.append_nil _).symm, Nat.le_refl 0⟩

theorem mono {s s' : σ × List Call} (h : OnlySearches t n s s' error) (hm : m ≤ n) :
    OnlySearches t m s s' error := by
  obtain ⟨passes, hp, hc, hn⟩ := h
  exact ⟨passes, hp, hc, Nat.le_trans hm hn⟩

theorem trans {s s' s'' : σ × List Call} (h : OnlySearches t m s s' none)
    (h' : OnlySearches t n s' s'' error) : OnlySearches t (m + n) s s'' error := by
  obtain ⟨passes, hp, hc, hm⟩ := h
  obtain ⟨passes', hp', hc', hn⟩ := h'
  refine ⟨passes ++ passes', hp.trans hp', ?_, ?_⟩
  · rw [hc', hc, List.append_assoc, Call.searches, Call.searches, Call.searches, List.map_append]
  · rw [List.length_append]
    exact Nat.add_le_add hm hn

end OnlySearches

/-! ## The enumeration -/

/-- The failure, if it is one. -/
def Found.error? : Found → Option BusError
  | failed e => some e
  | _ => none

/-- The fewest passes behind the answer to a request that may take `limit` of them. -/
def Found.fewest (limit : Nat) : Found → Nat
  | device _ => 1
  | unsettled => limit
  | _ => 0

@[inherit_doc Found.error?]
def Listing.error? : Listing → Option BusError
  | failed e => some e
  | _ => none

/-- The fewest passes behind a listing that is given up after `limit` of them. -/
def Listing.fewest (limit : Nat) : Listing → Nat
  | unsettled => limit
  | _ => 0

namespace Search

theorem step_onlySearches (t : Transport σ) (limit : Nat) (c : SearchCursor)
    (s : σ × List Call) :
    OnlySearches t ((step t.recorded c s).1.fewest limit) s (step t.recorded c s).2.2
      (step t.recorded c s).1.error? := by
  rw [step]
  split
  · exact .refl t s
  · rw [Transport.perform_recorded]
    rcases h : t.perform (.search c.pass) s.1 with ⟨e | answer, s'⟩
    · exact ⟨[c.pass], .failed h, rfl, Nat.zero_le _⟩
    · have hone : OnlySearches t 1 s (s', s.2 ++ Call.searches [c.pass]) none :=
        ⟨[c.pass], .answered h (.done s'), rfl, Nat.le_refl 1⟩
      dsimp only
      split
      · exact hone.mono (Nat.zero_le 1)
      · exact hone

/-- By induction on the passes that the request may take. -/
theorem findNext_onlySearches (t : Transport σ) (filter : FamilyFilter) :
    ∀ (limit : Nat) (c : SearchCursor) (s : σ × List Call),
      OnlySearches t ((findNext t.recorded filter limit c s).1.fewest limit) s
        (findNext t.recorded filter limit c s).2.2
        (findNext t.recorded filter limit c s).1.error?
  | 0, _, s => .refl t s
  | limit + 1, c, s => by
    have hstep := step_onlySearches t (limit + 1) c s
    rw [findNext]
    generalize step t.recorded c s = r at hstep
    obtain ⟨found, c', s'⟩ := r
    cases found with
    | device a =>
      dsimp only
      split
      · exact hstep
      · have hrest := hstep.trans (findNext_onlySearches t filter limit c' s')
        refine hrest.mono ?_
        -- The pass of the address held back is one more than those after it.
        cases (findNext t.recorded filter limit c' s').1 with
        | device a => exact Nat.le_add_right 1 1
        | finished => exact Nat.zero_le _
        | failed e => exact Nat.zero_le _
        | unsettled => exact Nat.le_of_eq (Nat.add_comm limit 1)
    | finished => exact hstep
    | failed e => exact hstep
    | unsettled => exact hstep

end Search

namespace Bus

/-- By induction on the requests. Where each of them may take `most` passes or more,
they are not given up before. -/
theorem requests_onlySearches {most : Nat} (hmost : ∀ s, most ≤ t.passLimit s) :
    ∀ (limit : Nat) (b : Bus (σ × List Call)),
      OnlySearches t
        ((requests t.recorded (findNext t.recorded) limit b).1.fewest (min limit most)) b.line
        (requests t.recorded (findNext t.recorded) limit b).2.line
        (requests t.recorded (findNext t.recorded) limit b).1.error?
  | 0, b => by
    rw [requests, Nat.zero_min]
    exact .refl t b.line
  | limit + 1, b => by
    have hnext : OnlySearches t ((b.findNext t.recorded).1.fewest (t.passLimit b.line.1)) b.line
        (b.findNext t.recorded).2.line (b.findNext t.recorded).1.error? :=
      Search.findNext_onlySearches t b.filter _ b.cursor b.line
    rw [requests]
    generalize b.findNext t.recorded = r at hnext
    obtain ⟨found, b'⟩ := r
    cases found with
    | device a =>
      have hrest := hnext.trans (requests_onlySearches hmost limit b')
      dsimp only
      generalize requests t.recorded (findNext t.recorded) limit b' = r at hrest
      obtain ⟨listing, b''⟩ := r
      cases listing with
      | complete => exact hrest.mono (Nat.zero_le _)
      | failed => exact hrest.mono (Nat.zero_le _)
      | unsettled =>
        have hle : min (limit + 1) most ≤ 1 + min limit most := by omega
        exact hrest.mono hle
    | finished => exact hnext
    | failed e => exact hnext
    | unsettled => exact hnext.mono (Nat.le_trans (Nat.min_le_right _ _) (hmost b.line.1))

end Bus

namespace Adapter

/-- A scan's enumeration is all requests from a fresh cursor under the filter of
the scan. -/
theorem scanSession_eq_requests (t : Transport σ) (options : ScanOptions) (b : Bus σ) :
    let r := Bus.requests t (Bus.findNext t) (t.passLimit b.line) { b with
      filter := options.filter
      cursor := { alarmOnly := options.alarmOnly, skipReset := options.skipReset } }
    (scanSession t options b).1 = r.1 ∧ (scanSession t options b).2.line = r.2.line := by
  have hline : (b.setFilter options.filter).line = b.line := rfl
  rw [scanSession, Bus.devices_eq_walk, Bus.walk, hline]
  cases t.passLimit b.line
  · exact ⟨rfl, rfl⟩
  · exact ⟨rfl, rfl⟩

theorem scanSession_onlySearches {most : Nat} (hmost : ∀ s, most ≤ t.passLimit s)
    (options : ScanOptions) (b : Bus (σ × List Call)) :
    OnlySearches t ((scanSession t.recorded options b).1.fewest most) b.line
      (scanSession t.recorded options b).2.line (scanSession t.recorded options b).1.error? := by
  have hlimit : most ≤ t.recorded.passLimit b.line := hmost b.line.1
  obtain ⟨hlisting, hline⟩ := scanSession_eq_requests t.recorded options b
  rw [hlisting, hline]
  have hall := Bus.requests_onlySearches hmost (t.recorded.passLimit b.line) { b with
    filter := options.filter
    cursor := { alarmOnly := options.alarmOnly, skipReset := options.skipReset } }
  rwa [Nat.min_eq_right hlimit] at hall

theorem ofListing_eq_failed_iff {listing : Listing} {e : BusError} :
    ScanResult.ofListing listing = .failed e ↔ listing.error? = some e := by
  cases listing <;> simp [ScanResult.ofListing, Listing.error?]

theorem ofListing_eq_unsettled_iff {listing : Listing} :
    ScanResult.ofListing listing = .unsettled ↔ listing = .unsettled := by
  cases listing <;> simp [ScanResult.ofListing]

theorem ofListing_ne_cancelled (listing : Listing) : ScanResult.ofListing listing ≠ .cancelled := by
  cases listing <;> exact nofun

/-! ## The wait -/

/-- The wait of a scan for the bus. -/
def scanWait (t : Transport σ) (cancelled : Bool) (rounds : Nat) (a : Adapter σ) :
    Waited × Adapter σ :=
  Lease.acquireBounded { Surroundings.quiet with fired := fun _ => cancelled } 0 { token := true }
    (tryAcquire t) rounds a

/-- The adapter with another cursor and another filter. -/
def leftAt (a : Adapter σ) (cursor : SearchCursor) (filter : FamilyFilter) : Adapter σ :=
  { a with arbiter := { a.arbiter with
    resource := { a.arbiter.resource with cursor, filter } } }

variable {a : Adapter σ}

theorem scanWait_of_granted (free : a.isHeld = false) (h : t.beginExclusive a.line = (true, s))
    (rounds : Nat) : a.scanWait t false (rounds + 1) = (.acquired, a.granted s) := by
  rw [scanWait, Lease.acquireBounded, tryAcquire_of_granted free h]
  rfl

/-- A scan that waits for a free bus is refused in all its rounds, or in some of
them and then granted it. -/
theorem scanWait_cases (t : Transport σ) :
    ∀ (rounds : Nat) (a : Adapter σ), a.isHeld = false →
      ∃ n s, t.Refuses n a.line s ∧
        (n = rounds ∧ a.scanWait t false rounds = (.waiting, a.map fun _ => s) ∨
          n < rounds ∧ ∃ s', t.beginExclusive s = (true, s') ∧
            a.scanWait t false rounds = (.acquired, a.granted s'))
  | 0, a, _ => ⟨0, a.line, .never _, .inl ⟨rfl, rfl⟩⟩
  | rounds + 1, a, free => by
    rcases h : t.beginExclusive a.line with ⟨_ | _, s⟩
    · have hround : a.scanWait t false (rounds + 1) =
          (a.map fun _ => s).scanWait t false rounds := by
        rw [scanWait, Lease.acquireBounded, tryAcquire_of_refused free h]
        rfl
      obtain ⟨n, s', hrefused, hend⟩ := scanWait_cases t rounds (a.map fun _ => s) free
      rw [hround]
      refine ⟨n + 1, s', .again h hrefused, ?_⟩
      rcases hend with ⟨rfl, hw⟩ | ⟨hn, hw⟩
      · exact .inl ⟨rfl, hw⟩
      · exact .inr ⟨Nat.succ_lt_succ hn, hw⟩
    · exact ⟨0, a.line, .never _,
        .inr ⟨Nat.succ_pos rounds, s, h, scanWait_of_granted free h rounds⟩⟩

/-! ## The scan -/

theorem scan_of_waiting {a' : Adapter σ} {rounds : Nat} (options : ScanOptions)
    (h : a.scanWait t false rounds = (.waiting, a')) :
    a.scan t rounds options false = (.unsettled, a') := by
  rw [scanWait] at h
  rw [scan]
  simp only [h]

/-- Once the bus is granted, the scan is the enumeration, and the end of the
session after it. -/
theorem scan_of_granted {rounds : Nat} (options : ScanOptions)
    (h : a.scanWait t false rounds = (.acquired, a.granted s)) :
    let r := scanSession t options { a.arbiter.resource with line := s }
    a.scan t rounds options false = (.ofListing r.1, { a with arbiter := { a.arbiter with
      resource := { r.2 with line := t.endExclusive r.2.line }, session := none } }) := by
  rw [scanWait] at h
  rw [scan]
  simp only [h]
  rfl

/-! ## What is left from before -/

theorem tryAcquire_leftAt (t : Transport σ) (a : Adapter σ) (c : SearchCursor)
    (f : FamilyFilter) :
    (a.leftAt c f).tryAcquire t = ((a.tryAcquire t).1, (a.tryAcquire t).2.leftAt c f) := by
  cases held : a.isHeld
  · have held' : (a.leftAt c f).isHeld = false := held
    rw [tryAcquire_of_not_held held, tryAcquire_of_not_held held']
    rfl
  · have held' : (a.leftAt c f).isHeld = true := held
    rw [tryAcquire_of_held held, tryAcquire_of_held held']

/-- The wait does not look at the cursor or the filter. -/
theorem scanWait_leftAt (t : Transport σ) (cancelled : Bool) (c : SearchCursor)
    (f : FamilyFilter) :
    ∀ (rounds : Nat) (a : Adapter σ), (a.leftAt c f).scanWait t cancelled rounds =
      ((a.scanWait t cancelled rounds).1, (a.scanWait t cancelled rounds).2.leftAt c f)
  | 0, _ => rfl
  | rounds + 1, a => by
    have hrest := scanWait_leftAt t cancelled c f rounds
    simp only [scanWait] at hrest ⊢
    rw [Lease.acquireBounded, Lease.acquireBounded, tryAcquire_leftAt]
    split
    · rfl
    · rcases a.tryAcquire t with ⟨_ | _, a'⟩
      · exact hrest a'
      · rfl

/-- The session writes over the cursor and the filter before the first pass. -/
theorem scanSession_leftAt (t : Transport σ) (options : ScanOptions) (b : Bus σ)
    (cursor : SearchCursor) (filter : FamilyFilter) :
    (scanSession t options { b with cursor, filter }).1 = (scanSession t options b).1 ∧
      (scanSession t options { b with cursor, filter }).2.line =
        (scanSession t options b).2.line := by
  obtain ⟨h, hl⟩ := scanSession_eq_requests t options b
  obtain ⟨h', hl'⟩ := scanSession_eq_requests t options { b with cursor, filter }
  exact ⟨h'.trans h.symm, hl'.trans hl.symm⟩

/-- A scan on a free adapter makes the same calls and comes to the same result. -/
theorem scan_leftAt (free : a.isHeld = false) (t : Transport σ) (rounds : Nat)
    (options : ScanOptions) (cancelled : Bool) (c : SearchCursor) (f : FamilyFilter) :
    ((a.leftAt c f).scan t rounds options cancelled).1 = (a.scan t rounds options cancelled).1 ∧
      ((a.leftAt c f).scan t rounds options cancelled).2.line =
        (a.scan t rounds options cancelled).2.line := by
  cases cancelled with
  | true => cases rounds <;> exact ⟨rfl, rfl⟩
  | false =>
    have hwait := scanWait_leftAt t false c f rounds a
    obtain ⟨n, s, -, ⟨-, hw⟩ | ⟨-, s', -, hw⟩⟩ := scanWait_cases t rounds a free
    · rw [hw] at hwait
      rw [scan_of_waiting options hw, scan_of_waiting options hwait]
      exact ⟨rfl, rfl⟩
    · have hwait' : (a.leftAt c f).scanWait t false rounds =
          (.acquired, (a.leftAt c f).granted s') := by
        rw [hwait, hw]
        rfl
      obtain ⟨hlisting, hline⟩ :=
        scanSession_leftAt t options { a.arbiter.resource with line := s' } c f
      rw [scan_of_granted options hw, scan_of_granted options hwait']
      exact ⟨congrArg ScanResult.ofListing hlisting, congrArg t.endExclusive hline⟩

/-- A scan over any transport. Once its token has fired, it asks the transport
nothing and changes nothing. What the cursor and the filter were makes no
difference to its calls and its result. A bus that it was granted is closed once,
after the passes, and if one of these fails, then that is the last one and its
error the result. It is not given up before it was refused in all rounds, or made
all the passes that it may. -/
theorem scan_forgets_and_lets_go (t : Transport σ) (rounds : Nat) (options : ScanOptions)
    (a : Adapter (σ × List Call)) :
    a.scan t.recorded (rounds + 1) options true = (.cancelled, a) ∧
    (a.isHeld = false →
      (∀ cancelled c f, let r := a.scan t.recorded rounds options cancelled
        ((a.leftAt c f).scan t.recorded rounds options cancelled).1 = r.1 ∧
          ((a.leftAt c f).scan t.recorded rounds options cancelled).2.line = r.2.line) ∧
      ∀ most, (∀ s, most ≤ t.passLimit s) → ∃ result after n s₁,
        a.scan t.recorded rounds options false = (result, after) ∧ after.isHeld = false ∧
        t.Refuses n a.line.1 s₁ ∧
        (n = rounds ∧ result = .unsettled ∧
            after.line = (s₁, a.line.2 ++ List.replicate n (.began false)) ∨
          n < rounds ∧ ∃ s₂ passes error s₃, t.beginExclusive s₁ = (true, s₂) ∧
            t.Searched s₂ passes error s₃ ∧
            after.line = (t.endExclusive s₃, a.line.2 ++ List.replicate n (.began false) ++
              .began true :: Call.searches passes ++ [.ended]) ∧
            (∀ e, result = .failed e ↔ error = some e) ∧
            result ≠ .cancelled ∧ (result = .unsettled → most ≤ passes.length))) := by
  refine ⟨rfl, fun free => ⟨scan_leftAt free t.recorded rounds options, fun most hmost => ?_⟩⟩
  obtain ⟨n, s, hrefused, hend⟩ := scanWait_cases t.recorded rounds a free
  obtain ⟨hr, hc⟩ := hrefused.of_recorded
  rcases hend with ⟨hn, hw⟩ | ⟨hn, s', hb, hw⟩
  · exact ⟨_, _, n, s.1, scan_of_waiting options hw, free, hr, .inl ⟨hn, rfl, Prod.ext rfl hc⟩⟩
  · obtain ⟨hbegan, hc'⟩ := Transport.beginExclusive_of_recorded hb
    obtain ⟨passes, hsearched, hcalls, hleast⟩ := scanSession_onlySearches hmost options
      { a.arbiter.resource with line := s' }
    refine ⟨_, _, n, s.1, scan_of_granted options hw, rfl, hr, .inr ⟨hn, s'.1, passes, _, _, hbegan,
      hsearched, Prod.ext rfl ?_, fun e => ofListing_eq_failed_iff, ofListing_ne_cancelled _,
      fun h => ?_⟩⟩
    · show (scanSession t.recorded options _).2.line.2 ++ [Call.ended] = _
      rw [hcalls, hc', hc, List.append_assoc _ [_]]
      rfl
    · rw [ofListing_eq_unsettled_iff.mp h] at hleast
      exact hleast

/-- A scan that is refused once, finds a device and then meets a failure, behind
a walk that was left exhausted under a filter that lets nothing through. -/
theorem scan_forgets_and_lets_go_of_failure :
    let e := BusError.io "line lost"
    let script : Script := { begins := [false], search := [.ok ⟨3, some ⟨2⟩⟩, .error e] }
    let a := create Script.transport.recorded "script" "wire" (script, [])
    let stale := a.leftAt { lastDiscrepancy := 7, current := ⟨5⟩, exhausted := true } (.only [])
    a.isHeld = false ∧
      (stale.scan Script.transport.recorded 3 {} false).1 = .failed e ∧
      (stale.scan Script.transport.recorded 3 {} false).2.line.2 =
        [.asked .capabilities, .asked .portName, .began false, .began true] ++
          Call.searches [⟨⟨0⟩, 0, .normal, false⟩, ⟨⟨2⟩, 3, .normal, false⟩] ++ [.ended] ∧
      (∃ s passes s', Script.transport.Searched s passes (some e) s') ∧
      stale.scan Script.transport.recorded 3 {} true = (.cancelled, stale) := by
  intro e script a stale
  obtain ⟨-, hfree⟩ := scan_forgets_and_lets_go Script.transport 3 {} a
  obtain ⟨hforgets, hends⟩ := hfree rfl
  obtain ⟨hresult, hline⟩ := hforgets false stale.arbiter.resource.cursor (.only [])
  have hfailed : (a.scan Script.transport.recorded 3 {} false).1 = .failed e := by decide +kernel
  have hcalls : (a.scan Script.transport.recorded 3 {} false).2.line.2 =
      [.asked .capabilities, .asked .portName, .began false, .began true] ++
        Call.searches [⟨⟨0⟩, 0, .normal, false⟩, ⟨⟨2⟩, 3, .normal, false⟩] ++ [.ended] := by
    decide +kernel
  refine ⟨rfl, hresult.trans hfailed, (congrArg Prod.snd hline).trans hcalls, ?_,
    (scan_forgets_and_lets_go Script.transport 2 {} stale).1⟩
  obtain ⟨result, after, n, s₁, he, -, -, hcase⟩ := hends 0 fun _ => Nat.zero_le _
  rcases hcase with ⟨-, hno, -⟩ | ⟨-, s₂, passes, error, s₃, -, hs, -, hfail, -⟩
  · rw [he] at hfailed
    exact absurd (hno.symm.trans hfailed) nofun
  · rw [he] at hfailed
    obtain rfl := (hfail e).mp hfailed
    exact ⟨s₂, passes, s₃, hs⟩

end Adapter

end BusMaster
