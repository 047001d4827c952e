import BusMaster.Adapter.Devices
import BusMaster.Proofs.Search.Cursor
import BusMaster.Proofs.Wire.Population

/-!
# A whole enumeration

What an enumeration reports while the same devices take part from its first
request to its end. The transport is any one whose search passes see exactly
these devices (`Populated`); a driver on a wire is one (`populated_driver`).

* `step_answered`, `findNext_answered`: one pass, and the passes of one request,
  from a cursor at its place (`Place`);
* `walk_lists`: all requests, by induction on the devices that are due;
* `devices_eq_walk`: pulling the devices one by one is the same walk;
* `devices_complete`: every device that takes part is listed, in search order.
-/

namespace BusMaster

open SearchCursor (Place)

namespace Search

/-! ## What is due -/

/-- The addresses of `S` with keys from `n` on. -/
def due (S : List Address) (n : Nat) : List Address :=
  S.filter (n ≤ ·.searchKey)

/-- The first of the addresses of `S` with keys from `n` on. -/
structure First (S : List Address) (n : Nat) (d : Address) : Prop where
  mem : d ∈ S
  due : n ≤ d.searchKey
  least : ∀ x ∈ S, n ≤ x.searchKey → d.searchKey ≤ x.searchKey

/-- The addresses of `S` with keys from `n` on, each once, in the order of their
keys. -/
structure Lists (S : List Address) (n : Nat) (found : List Address) : Prop where
  ascending : found.Pairwise (·.searchKey < ·.searchKey)
  mem_iff : ∀ a, a ∈ found ↔ a ∈ S ∧ n ≤ a.searchKey

variable {S : List Address} {n : Nat} {d : Address}

theorem length_due_le (S : List Address) (n : Nat) : (due S n).length ≤ S.length :=
  List.length_filter_le _ _

/-- Once an address that was due is passed, fewer are due. -/
theorem length_due_lt (hd : d ∈ S) (hn : n ≤ d.searchKey) :
    (due S (d.searchKey + 1)).length < (due S n).length := by
  have hsub : due S (d.searchKey + 1) = (due S n).filter (d.searchKey + 1 ≤ ·.searchKey) := by
    rw [due, due, List.filter_filter]
    refine List.filter_congr fun x _ => ?_
    rw [Bool.eq_iff_iff, Bool.and_eq_true, decide_eq_true_iff, decide_eq_true_iff]
    omega
  rw [hsub]
  refine List.length_filter_lt_length_iff_exists.mpr ⟨d, ?_, by simp⟩
  exact List.mem_filter.mpr ⟨hd, decide_eq_true hn⟩

theorem Lists.nil (h : ∀ x ∈ S, x.searchKey < n) : Lists S n [] := by
  refine ⟨.nil, fun a => ⟨fun ha => absurd ha List.not_mem_nil, fun ⟨ha, hn⟩ => ?_⟩⟩
  have := h a ha
  omega

theorem First.lists_cons (hd : First S n d) {found : List Address}
    (h : Lists S (d.searchKey + 1) found) : Lists S n (d :: found) := by
  refine ⟨List.pairwise_cons.mpr ⟨fun a ha => ((h.mem_iff a).mp ha).2, h.ascending⟩, fun a => ?_⟩
  rw [List.mem_cons, h.mem_iff]
  constructor
  · rintro (rfl | ⟨ha, hk⟩)
    · exact ⟨hd.mem, hd.due⟩
    · have := hd.due
      exact ⟨ha, by omega⟩
  · rintro ⟨ha, hn⟩
    rcases Nat.lt_or_eq_of_le (hd.least a ha hn) with hlt | heq
    · exact .inr ⟨ha, hlt⟩
    · exact .inl (Address.searchKey_inj.mp heq.symm)

theorem filter_all (S : List Address) : S.filter FamilyFilter.all.accepts = S :=
  List.filter_eq_self.mpr fun _ _ => rfl

/-- Of what the filter lets through, nothing is due between an address that it
holds back and the one before. -/
theorem First.lt_of_rejected {filter : FamilyFilter} {x : Address} (hd : First S n d)
    (hno : filter.accepts d = false) (hx : x ∈ S.filter filter.accepts) (hn : n ≤ x.searchKey) :
    d.searchKey < x.searchKey := by
  obtain ⟨hxS, hxa⟩ := List.mem_filter.mp hx
  refine Nat.lt_of_le_of_ne (hd.least x hxS hn) fun heq => ?_
  rw [Address.searchKey_inj.mp heq, hxa] at hno
  cases hno

theorem First.of_rejected {filter : FamilyFilter} {x : Address} (hd : First S n d)
    (hno : filter.accepts d = false) (hx : First (S.filter filter.accepts) (d.searchKey + 1) x) :
    First (S.filter filter.accepts) n x :=
  ⟨hx.mem, Nat.le_trans hd.due (Nat.le_of_succ_le hx.due),
    fun y hy hn => hx.least y hy (hd.lt_of_rejected hno hy hn)⟩

theorem First.passed_of_rejected {filter : FamilyFilter} (hd : First S n d)
    (hno : filter.accepts d = false)
    (hp : ∀ x ∈ S.filter filter.accepts, x.searchKey < d.searchKey + 1) :
    ∀ x ∈ S.filter filter.accepts, x.searchKey < n := by
  intro x hx
  by_contra hn
  have := hd.lt_of_rejected hno hx (Nat.not_lt.mp hn)
  have := hp x hx
  omega

/-! ## Passes and requests -/

variable {σ : Type} {t : Transport σ} {I : σ → Prop} {alarmOnly skipReset : Bool}
  {c : SearchCursor} {s : σ}

/-- In the states `I` exactly `S` take part in a search pass, which leads to
such a state again, and a request may take a pass for each of them and one
more. -/
structure Populated (t : Transport σ) (I : σ → Prop) (alarmOnly skipReset : Bool)
    (S : List Address) : Prop where
  answers : ∀ s (pass : SearchPass), I s → pass.command = .ofAlarmOnly alarmOnly →
    pass.skipReset = skipReset →
    ∃ s', t.perform (.search pass) s = (.ok (pass.answer S), s') ∧ I s'
  limit : ∀ s, I s → S.length < t.passLimit s

/-- An enumeration of `S` with these options that has passed all keys below
`n`. -/
structure Standing (I : σ → Prop) (S : List Address) (alarmOnly skipReset : Bool) (n : Nat)
    (c : SearchCursor) (s : σ) : Prop where
  state : I s
  options : c.restart = { alarmOnly, skipReset }
  place : Place S c n

/-- The answer to a request when the keys below `n` are passed: the first
address that is due, or the end. -/
inductive Answered (I : σ → Prop) (S : List Address) (filter : FamilyFilter)
    (alarmOnly skipReset : Bool) (n : Nat) : Found × SearchCursor × σ → Prop where
  | device {d : Address} {c : SearchCursor} {s : σ} (first : First (S.filter filter.accepts) n d)
    (standing : Standing I S alarmOnly skipReset (d.searchKey + 1) c s) :
    Answered I S filter alarmOnly skipReset n (.device d, c, s)
  | finished {s : σ} (passed : ∀ x ∈ S.filter filter.accepts, x.searchKey < n) (state : I s) :
    Answered I S filter alarmOnly skipReset n (.finished, { alarmOnly, skipReset }, s)

theorem Standing.start (hs : I s) : Standing I S alarmOnly skipReset 0 { alarmOnly, skipReset } s :=
  ⟨hs, rfl, .start rfl rfl⟩

/-- On a populated bus a pass of the search is a request to its population. -/
theorem step_eq_meet (hp : Populated t I alarmOnly skipReset S) (hs : I s)
    (ho : c.restart = { alarmOnly, skipReset }) :
    ∃ s', step t c s = ((c.meet S).1, (c.meet S).2, s') ∧ I s' := by
  rw [step, SearchCursor.meet]
  cases c.exhausted
  · have hopt : c.alarmOnly = alarmOnly ∧ c.skipReset = skipReset := by
      simpa [SearchCursor.restart] using ho
    obtain ⟨s', he, hs'⟩ := hp.answers s c.pass hs (by rw [← hopt.1]; rfl) hopt.2
    refine ⟨s', ?_, hs'⟩
    simp only [Bool.false_eq_true, ↓reduceIte, he]
    split <;> rfl
  · exact ⟨s, rfl, hs⟩

theorem step_answered (hp : Populated t I alarmOnly skipReset S)
    (h : Standing I S alarmOnly skipReset n c s) :
    Answered I S .all alarmOnly skipReset n (step t c s) := by
  obtain ⟨s', he, hs'⟩ := step_eq_meet hp h.state h.options
  rw [he]
  rcases c.meet_cases S h.place.le_64 with ⟨hend, hm⟩ | ⟨more, d, z, hd, hm⟩
  · rw [hm, h.options]
    refine .finished (fun x hx => ?_) hs'
    rw [filter_all] at hx
    rcases hend with done | rfl
    · exact h.place.passed done x hx
    · exact absurd hx List.not_mem_nil
  · rw [hm]
    obtain ⟨hn, hl⟩ := h.place.least more hd
    refine .device ?_ ⟨hs', h.options, SearchCursor.place_advance hd⟩
    rw [filter_all]
    exact ⟨hd.mem, hn, hl⟩

/-- The passes of one request, by induction on their number. -/
theorem findNext_answered (hp : Populated t I alarmOnly skipReset S) (filter : FamilyFilter) :
    ∀ (limit n : Nat) (c : SearchCursor) (s : σ), (due S n).length < limit →
      Standing I S alarmOnly skipReset n c s →
      Answered I S filter alarmOnly skipReset n (findNext t filter limit c s)
  | 0, _, _, _, hl, _ => absurd hl (Nat.not_lt_zero _)
  | limit + 1, n, c, s, hl, h => by
    have hstep := step_answered hp h
    rw [findNext]
    generalize step t c s = r at hstep
    cases hstep with
    | finished passed state =>
      rw [filter_all] at passed
      exact .finished (fun x hx => passed x (List.mem_filter.mp hx).1) state
    | @device d c s first standing =>
      rw [filter_all] at first
      by_cases ha : filter.accepts d = true
      · simp only [ha, ↓reduceIte]
        refine .device ⟨List.mem_filter.mpr ⟨first.mem, ha⟩, first.due, fun x hx => ?_⟩ standing
        exact first.least x (List.mem_filter.mp hx).1
      · have hno : filter.accepts d = false := (Bool.not_eq_true _).mp ha
        have hlt := length_due_lt first.mem first.due
        have hrest := findNext_answered hp filter limit (d.searchKey + 1) c s (by omega) standing
        simp only [hno, Bool.false_eq_true, ↓reduceIte]
        generalize findNext t filter limit c s = r at hrest
        cases hrest with
        | device next standing => exact .device (first.of_rejected hno next) standing
        | finished passed state => exact .finished (first.passed_of_rejected hno passed) state

/-- Where the filter lets every address through, a request takes one pass. -/
theorem findNext_of_accepts (t : Transport σ) {filter : FamilyFilter}
    (all : ∀ a, filter.accepts a = true) (limit : Nat) (c : SearchCursor) (s : σ) :
    findNext t filter (limit + 1) c s = step t c s := by
  rw [findNext]
  split
  · rename_i he
    rw [he]
    exact if_pos (all _)
  · rfl

theorem findNext_all (t : Transport σ) (limit : Nat) (c : SearchCursor) (s : σ) :
    findNext t .all (limit + 1) c s = step t c s :=
  findNext_of_accepts t (fun _ => rfl) limit c s

end Search

/-! ## All requests -/

namespace Bus

open Search (Populated Standing Answered Lists First due)

variable {σ : Type} {t : Transport σ} {I : σ → Prop} {alarmOnly skipReset : Bool}
  {S : List Address}

/-- The answers to a request and to `findNext` after it, up to the end and at
most `limit` of them. -/
def requests (t : Transport σ) (request : Bus σ → Found × Bus σ) :
    (limit : Nat) → Bus σ → Listing × Bus σ
  | 0, b => (.unsettled, b)
  | limit + 1, b =>
    match request b with
    | (.finished, b) => (.complete [], b)
    | (.failed e, b) => (.failed e, b)
    | (.unsettled, b) => (.unsettled, b)
    | (.device a, b) =>
      let (rest, b) := requests t (findNext t) limit b
      (rest.cons a, b)

/-- A new enumeration by hand: `findFirst`, and then `findNext` up to the end. -/
def walk (t : Transport σ) (alarmOnly skipReset : Bool) (b : Bus σ) : Listing × Bus σ :=
  requests t (findFirst t alarmOnly skipReset) (t.passLimit b.line) b

/-- Pulling the devices one by one makes the same requests. -/
theorem collect_eq_requests (t : Transport σ) :
    ∀ (limit : Nat) (d : Devices) (b : Bus σ), d.done = false →
      d.collect t limit b = requests t
        (if d.started then findNext t else findFirst t d.alarmOnly d.skipReset) limit b
  | 0, _, _, _ => rfl
  | limit + 1, d, b, hd => by
    have hr : (if d.started then b.findNext t else b.findFirst t d.alarmOnly d.skipReset) =
        (if d.started then findNext t else findFirst t d.alarmOnly d.skipReset) b := by
      split <;> rfl
    rw [Devices.collect, requests, Devices.next, hd, if_neg (by decide), hr]
    generalize (if d.started then findNext t else findFirst t d.alarmOnly d.skipReset) b = r
    obtain ⟨found, b⟩ := r
    cases found with
    | device a =>
      have ih := collect_eq_requests t limit { d with started := true, done := false } b rfl
      simp only [↓reduceIte] at ih
      simp only [Devices.isLast, ih]
    | finished => rfl
    | failed e => rfl
    | unsettled => rfl

theorem devices_eq_walk (t : Transport σ) (alarmOnly skipReset : Bool) (b : Bus σ) :
    b.devices t alarmOnly skipReset = b.walk t alarmOnly skipReset := by
  rw [devices, collect_eq_requests t _ _ _ rfl]
  rfl

/-- A first request is a further one on a cursor before the first pass. -/
theorem findFirst_eq_findNext (t : Transport σ) (alarmOnly skipReset : Bool) (b : Bus σ) :
    b.findFirst t alarmOnly skipReset =
      { b with cursor := { alarmOnly, skipReset } }.findNext t := rfl

theorem findNext_answered (hp : Populated t I alarmOnly skipReset S) {n : Nat} {b : Bus σ}
    (h : Standing I S alarmOnly skipReset n b.cursor b.line) :
    ∃ found c s, b.findNext t = (found, { b with cursor := c, line := s }) ∧
      Answered I S b.filter alarmOnly skipReset n (found, c, s) := by
  have hl := Nat.lt_of_le_of_lt (Search.length_due_le S n) (hp.limit b.line h.state)
  exact ⟨_, _, _, rfl, Search.findNext_answered hp b.filter _ n b.cursor b.line hl h⟩

/-- The requests up to the end, by induction on what is due. -/
theorem requests_lists (hp : Populated t I alarmOnly skipReset S) :
    ∀ (limit n : Nat) (b : Bus σ), (due S n).length < limit →
      Standing I S alarmOnly skipReset n b.cursor b.line →
      ∃ found s, requests t (findNext t) limit b =
          (.complete found, { b with cursor := { alarmOnly, skipReset }, line := s }) ∧
        Lists (S.filter b.filter.accepts) n found ∧ I s
  | 0, _, _, hl, _ => absurd hl (Nat.not_lt_zero _)
  | limit + 1, n, b, hl, h => by
    obtain ⟨found, c, s, he, ha⟩ := findNext_answered hp h
    rw [requests, he]
    cases ha with
    | finished passed state => exact ⟨[], s, rfl, .nil passed, state⟩
    | @device d _ _ first standing =>
      have hlt := Search.length_due_lt (List.mem_filter.mp first.mem).1 first.due
      obtain ⟨found, s', he', hf, hs'⟩ := requests_lists hp limit (d.searchKey + 1)
        { b with cursor := c, line := s } (by omega) standing
      exact ⟨d :: found, s', by simp only [he']; rfl, first.lists_cons hf, hs'⟩

theorem walk_lists (b : Bus σ) (hp : Populated t I alarmOnly skipReset S) (hb : I b.line) :
    ∃ found s, b.walk t alarmOnly skipReset =
        (.complete found, { b with cursor := { alarmOnly, skipReset }, line := s }) ∧
      Lists (S.filter b.filter.accepts) 0 found ∧ I s := by
  have hl := hp.limit b.line hb
  obtain ⟨limit, hlim⟩ := Nat.exists_eq_add_one.mpr (Nat.zero_lt_of_lt hl)
  have hd := Search.length_due_le S 0
  rw [walk, hlim]
  exact requests_lists hp (limit + 1) 0 { b with cursor := { alarmOnly, skipReset } } (by omega)
    (.start hb)

end Bus

/-! ## On a wire -/

open Driver (Undisturbed)

/-- A driver with a port selected, as long as only its own passes go over the
wire. -/
theorem populated_driver {s : Network × Driver} (attached : s.2.selected.isSome = true)
    (alarmOnly skipReset : Bool) :
    Search.Populated Driver.transport (Undisturbed s) alarmOnly skipReset
      (s.1.takingPart alarmOnly skipReset) := by
  refine ⟨fun s' pass h hc hr => ?_, fun s' h => ?_⟩
  · subst hr
    have he := Driver.perform_search (h.selected ▸ attached) pass alarmOnly hc
    rw [h.takingPart] at he
    exact ⟨_, he, h.trans (Driver.undisturbed_search s' _ _)⟩
  · show _ < s'.1.devices.length + 2
    rw [h.devices]
    have := s.1.length_participants_le (.ofAlarmOnly alarmOnly)
    have : (s.1.takingPart alarmOnly skipReset).length ≤ s.1.devices.length := by
      rw [Network.takingPart]
      split
      · exact Nat.zero_le _
      · exact this
    omega

/-- An enumeration lists every device that takes part and that the filter lets
through, once, in the order of the search keys, and leaves the cursor before
the first pass. Where the cursor stood, what the filter was and what the driver
was about to do makes no difference. Nothing takes part on a shorted wire that
is reset first. -/
theorem Bus.devices_complete (b : Bus (Network × Driver)) (alarmOnly skipReset : Bool)
    (attached : b.line.2.selected.isSome = true) :
    ∃ found b', b.devices Driver.transport alarmOnly skipReset = (.complete found, b') ∧
      b.walk Driver.transport alarmOnly skipReset = (.complete found, b') ∧
      found.Pairwise (·.searchKey < ·.searchKey) ∧
      (∀ a, a ∈ found ↔ (b.line.1.short = true → skipReset = true) ∧
        b.line.1.TakesPart alarmOnly a ∧ b.filter.accepts a = true) ∧
      b'.cursor =
        { lastDiscrepancy := 0, current := ⟨0⟩, exhausted := false, alarmOnly, skipReset } ∧
      b'.filter = b.filter ∧ Undisturbed b.line b'.line := by
  obtain ⟨found, s, he, hf, hs⟩ :=
    b.walk_lists (populated_driver attached alarmOnly skipReset) (.refl _)
  refine ⟨found, _, (Bus.devices_eq_walk _ _ _ b).trans he, he, hf.ascending, fun a => ?_, rfl, rfl,
    hs⟩
  rw [hf.mem_iff, List.mem_filter, ← Network.mem_participants, Network.takingPart]
  cases b.line.1.short <;> cases skipReset <;> simp

/-- An alarm search with a filter, begun where a search of all devices was left
exhausted: of two devices in alarm it lists the one that the filter lets
through. -/
theorem devices_complete_of_stale_cursor :
    let quiet := Address.ofBytes [0x28, 1, 0, 0, 0, 0, 0, 0]
    let alarming := Address.ofBytes [0x28, 2, 0, 0, 0, 0, 0, 0]
    let excluded := Address.ofBytes [0x10, 2, 0, 0, 0, 0, 0, 0]
    let b := { Driver.bus (.populated [quiet] [alarming, excluded]) with
      cursor := { lastDiscrepancy := 7, current := quiet, exhausted := true }
      filter := .excluding [0x10] }
    b.line.2.selected.isSome = true ∧
      ∃ found b', b.devices Driver.transport true false = (.complete found, b') ∧
        alarming ∈ found ∧ quiet ∉ found ∧ excluded ∉ found ∧
        b'.cursor = { alarmOnly := true } := by
  intro quiet alarming excluded b
  obtain ⟨found, b', he, -, -, hm, hc, -⟩ := b.devices_complete true false rfl
  refine ⟨rfl, found, b', he, (hm _).mpr ⟨fun h => ?_, ?_, by decide⟩, fun h => ?_, fun h => ?_, hc⟩
  · cases h
  · exact ⟨⟨alarming, true, []⟩, by decide, rfl, fun _ => rfl⟩
  · obtain ⟨d, hd, ha, hal⟩ := ((hm _).mp h).2.1
    have hd : d ∈ [(⟨quiet, false, []⟩ : WireDevice), ⟨alarming, true, []⟩,
      ⟨excluded, true, []⟩] := hd
    have := hal rfl
    simp only [List.mem_cons, List.not_mem_nil, or_false] at hd
    rcases hd with rfl | rfl | rfl
    · cases this
    · exact absurd ha (by decide)
    · exact absurd ha (by decide)
  · exact absurd ((hm _).mp h).2.2 (by decide)

end BusMaster
