import BusMaster.Proofs.Search.Resumption
import BusMaster.Proofs.Search.Unplugging

/-!
# Devices listed twice

Devices may be unplugged between the pulls of a listing. If they were the ones
that the next pass was to branch to, it keeps to the address found last, and
reports that device, or one next to it, once more.

* `SearchCursor.LeadsOn`: the next pass comes out beyond the address found last
  (`LeadsOn.searchKey_lt`);
* `Devices.Pulls`: a listing with devices unplugged between its pulls;
* `Pulls.ascends`: it is in order as long as each pull leads on;
* `Pulls.length_le_one`, `Devices.exists_twice`: which populations a listing can
  repeat a device of;
* `Devices.yields_once_iff`: all together.
-/

namespace BusMaster

open Address (Agree Forks)
open SearchPass (LandsAt)

namespace SearchCursor

variable {S : List Address} {c : SearchCursor} {d : Address} {z n : Nat}

/-- Some device leads beyond the address found last. It branches off that one at
the branch point or, if no device shares as many bits with it as up to there, at
the last bit to which any does. -/
def LeadsOn (S : List Address) (c : SearchCursor) : Prop :=
  ∃ e ∈ S, ∃ k < c.lastDiscrepancy, Forks k c.current e ∧
    (k + 1 = c.lastDiscrepancy ∨ ∀ x ∈ S, ¬ Agree (k + 1) x c.current)

theorem LeadsOn.searchKey_lt (hon : c.LeadsOn S) (h : LandsAt c.pass S d z) :
    c.current.searchKey < d.searchKey := by
  obtain ⟨e, he, k, hk, hf, hor⟩ := hon
  rcases hor with heq | hno
  · have hbranch : c.pass.lastDiscrepancy - 1 = k := by
      show c.lastDiscrepancy - 1 = k
      omega
    have hfork : Forks (c.pass.lastDiscrepancy - 1) c.pass.seed e := hbranch ▸ hf
    exact (h.forks_seed (Nat.zero_lt_of_lt hk) he hfork).searchKey_lt
  · have hag : Agree k d c.current := h.agree_seed he hk hf.1.symm
    have hbit : d.bit k = true := by
      by_contra hb
      have heq : d.bit k = c.current.bit k := ((Bool.not_eq_true _).mp hb).trans hf.2.1.symm
      exact hno d h.mem (hag.succ heq)
    exact Forks.searchKey_lt ⟨hag.symm, hf.2.1, hbit⟩

/-- Behind an address that was found the enumeration is over, or the cursor is
at that address and some device is ahead. -/
theorem Place.at_found (hp : Place S c (n + 1)) :
    c.exhausted = true ∨
      c.current.searchKey = n ∧ ∃ e ∈ S, c.current.searchKey < e.searchKey := by
  cases hp with
  | branch more pos mem fork below =>
    obtain ⟨e, he, hf⟩ := fork
    exact .inr ⟨rfl, e, he, hf.searchKey_lt⟩
  | last done passed => exact .inl done

end SearchCursor

namespace Devices

open Bus (searched)
open Driver (Undisturbed)
open Search (Resumed Answered First due)
open SearchCursor (Place)

/-- A listing begun on `b₀` has yielded `found`. Devices may be unplugged before
any of its pulls, and every device after the first is pulled from a bus that is
fit for it. -/
inductive Pulls (fit : Bus (Network × Driver) → Prop) (alarmOnly skipReset : Bool)
    (b₀ : Bus (Network × Driver)) :
    List Address → Devices → Bus (Network × Driver) → Prop where
  | start : Pulls fit alarmOnly skipReset b₀ [] { alarmOnly, skipReset } b₀
  | unplug {found : List Address} {d : Devices} {b : Bus (Network × Driver)} (a : Address)
    (run : Pulls fit alarmOnly skipReset b₀ found d b) :
    Pulls fit alarmOnly skipReset b₀ found d (b.unplug a)
  | yield {found : List Address} {d d' : Devices} {b b' : Bus (Network × Driver)} {a : Address}
    (run : Pulls fit alarmOnly skipReset b₀ found d b) (fits : d.started = true → fit b)
    (pulled : d.next Driver.transport b = (.device a, d', b')) :
    Pulls fit alarmOnly skipReset b₀ (found ++ [a]) d' b'
  | stop {found : List Address} {d d' : Devices} {b b' : Bus (Network × Driver)} {answer : Found}
    (run : Pulls fit alarmOnly skipReset b₀ found d b)
    (pulled : d.next Driver.transport b = (answer, d', b')) (ended : ∀ a, answer ≠ .device a) :
    Pulls fit alarmOnly skipReset b₀ found d' b'

variable {fit : Bus (Network × Driver) → Prop} {alarmOnly skipReset : Bool}
  {b₀ b b' : Bus (Network × Driver)} {found : List Address} {d d' : Devices} {answer : Found}

theorem Pulls.yield_next {a : Address} (run : Pulls fit alarmOnly skipReset b₀ found d b)
    (fits : d.started = true → fit b) (h : (d.next Driver.transport b).1 = .device a) :
    Pulls fit alarmOnly skipReset b₀ (found ++ [a]) (d.next Driver.transport b).2.1
      (d.next Driver.transport b).2.2 :=
  run.yield fits (Prod.ext h rfl)

/-- The bus on which the next pull makes its request. -/
def request {σ : Type} (d : Devices) (b : Bus σ) : Bus σ :=
  if d.started then b
  else { b with cursor := { alarmOnly := d.alarmOnly, skipReset := d.skipReset } }

theorem next_of_more {σ : Type} (t : Transport σ) {d : Devices} (more : d.done = false)
    (b : Bus σ) : d.next t b = (((d.request b).findNext t).1,
      { d with started := true, done := isLast ((d.request b).findNext t).1 },
      ((d.request b).findNext t).2) := by
  rw [next, more, request]
  cases d.started <;> rfl

/-- What a listing keeps of the bus that it was begun on. -/
structure Kept (alarmOnly skipReset : Bool) (b₀ : Bus (Network × Driver)) (d : Devices)
    (b : Bus (Network × Driver)) : Prop where
  attached : b.line.2.selected.isSome = true
  unshorted : b.line.1.short = false
  filter : b.filter = b₀.filter
  left : ∀ x ∈ b.searched alarmOnly, x ∈ b₀.searched alarmOnly
  options : (d.request b).cursor.restart = { alarmOnly, skipReset }
  le_64 : (d.request b).cursor.exhausted = false → (d.request b).cursor.lastDiscrepancy ≤ 64

theorem Kept.start (attached : b₀.line.2.selected.isSome = true)
    (unshorted : b₀.line.1.short = false) :
    Kept alarmOnly skipReset b₀ { alarmOnly, skipReset } b₀ :=
  ⟨attached, unshorted, rfl, fun _ hx => hx, rfl, fun _ => Nat.zero_le _⟩

theorem cursor_request_unplug (d : Devices) (b : Bus (Network × Driver)) (a : Address) :
    (d.request (b.unplug a)).cursor = (d.request b).cursor := by
  rw [request, request]
  cases d.started <;> rfl

theorem Kept.unplug (h : Kept alarmOnly skipReset b₀ d b) (a : Address) :
    Kept alarmOnly skipReset b₀ d (b.unplug a) := by
  have hcursor := d.cursor_request_unplug b a
  refine ⟨h.attached, h.unshorted, h.filter, fun x hx => ?_, ?_, ?_⟩
  · exact h.left x (Bus.mem_searched_unplug.mp hx).1
  · rw [hcursor]
    exact h.options
  · rw [hcursor]
    exact h.le_64

/-- One pull of a listing that has not stopped. -/
theorem Kept.pull (h : Kept alarmOnly skipReset b₀ d b) (more : d.done = false)
    (pulled : d.next Driver.transport b = (answer, d', b')) :
    d' = { d with started := true, done := isLast answer } ∧ b'.filter = b.filter ∧
      Resumed (Undisturbed b.line) (b.searched alarmOnly) b.filter alarmOnly skipReset
        (d.request b).cursor (answer, b'.cursor, b'.line) := by
  have hline : (d.request b).line = b.line := by
    rw [request]
    cases d.started <;> rfl
  have hfilter : (d.request b).filter = b.filter := by
    rw [request]
    cases d.started <;> rfl
  have hp := populated_driver h.attached alarmOnly skipReset
  rw [Network.takingPart_of_not_short h.unshorted] at hp
  obtain ⟨found, c, s, he, hr⟩ := Bus.findNext_resumed hp (hline ▸ .refl b.line) h.options h.le_64
  rw [next_of_more _ more, he, Prod.mk.injEq, Prod.mk.injEq] at pulled
  obtain ⟨rfl, rfl, rfl⟩ := pulled
  exact ⟨rfl, hfilter, hfilter ▸ hr⟩

theorem Kept.after (h : Kept alarmOnly skipReset b₀ d b)
    (pulled : d.next Driver.transport b = (answer, d', b')) :
    Kept alarmOnly skipReset b₀ d' b' ∧ b'.searched alarmOnly = b.searched alarmOnly := by
  by_cases hdone : d.done = true
  · rw [next, if_pos hdone, Prod.mk.injEq, Prod.mk.injEq] at pulled
    obtain ⟨-, rfl, rfl⟩ := pulled
    exact ⟨h, rfl⟩
  · obtain ⟨rfl, hfilter, hr⟩ := h.pull ((Bool.not_eq_true _).mp hdone) pulled
    obtain ⟨hs, ho, hL⟩ := hr.after
    have hsearched : b'.searched alarmOnly = b.searched alarmOnly := by
      rw [searched, searched, Network.participants, Network.participants, hs.devices]
    refine ⟨⟨hs.selected ▸ h.attached, hs.short ▸ h.unshorted, hfilter.trans h.filter, ?_, ho, hL⟩,
      hsearched⟩
    rw [hsearched]
    exact h.left

theorem Pulls.kept (run : Pulls fit alarmOnly skipReset b₀ found d b)
    (attached : b₀.line.2.selected.isSome = true) (unshorted : b₀.line.1.short = false) :
    Kept alarmOnly skipReset b₀ d b := by
  induction run with
  | start => exact .start attached unshorted
  | unplug a _ ih => exact ih.unplug a
  | yield _ _ pulled ih => exact (ih.after pulled).1
  | stop _ pulled _ ih => exact (ih.after pulled).1

/-- A pull that yields an address: its first pass lands at some `e`, the address
is the first from `e` on that the filter lets through, and the cursor's place is
behind it. -/
theorem Kept.yielded {a : Address} (h : Kept alarmOnly skipReset b₀ d b)
    (pulled : d.next Driver.transport b = (.device a, d', b')) :
    d' = { d with started := true } ∧ d.done = false ∧ (d.request b).cursor.exhausted = false ∧
      Place (b.searched alarmOnly) b'.cursor (a.searchKey + 1) ∧
      ∃ e z, LandsAt (d.request b).cursor.pass (b.searched alarmOnly) e z ∧
        First ((b.searched alarmOnly).filter b.filter.accepts) e.searchKey a := by
  have more : d.done = false := by
    by_contra hdone
    rw [next, if_pos ((Bool.not_eq_false _).mp hdone)] at pulled
    cases pulled
  obtain ⟨rfl, -, hr⟩ := h.pull more pulled
  cases hr with
  | @landed _ e z hmore lands answered =>
    cases answered with
    | device first standing =>
      refine ⟨?_, more, hmore, standing.place, e, z, lands, first⟩
      rw [isLast, ← more]

theorem Kept.stopped (h : Kept alarmOnly skipReset b₀ d b)
    (pulled : d.next Driver.transport b = (answer, d', b')) (ended : ∀ a, answer ≠ .device a) :
    d'.done = true := by
  by_cases hdone : d.done = true
  · rw [next, if_pos hdone, Prod.mk.injEq, Prod.mk.injEq] at pulled
    exact pulled.2.1 ▸ hdone
  · obtain ⟨rfl, -, hr⟩ := h.pull ((Bool.not_eq_true _).mp hdone) pulled
    have hsettled := hr.settled
    cases answer with
    | device a => exact absurd rfl (ended a)
    | finished => rfl
    | failed e => rfl
    | unsettled => exact absurd rfl hsettled.1

/-! ## In order -/

/-- A listing whose pulls all lead on: what it yielded is in order, and as long
as it goes on none of it is beyond the cursor. -/
theorem Pulls.ascends
    (run : Pulls (fun b => b.cursor.LeadsOn (b.searched alarmOnly)) alarmOnly skipReset b₀
      found d b)
    (attached : b₀.line.2.selected.isSome = true) (unshorted : b₀.line.1.short = false) :
    found.Pairwise (·.searchKey < ·.searchKey) ∧
      (d.done = false → (d.request b).cursor.exhausted = false →
        ∀ x ∈ found, d.started = true ∧ x.searchKey ≤ b.cursor.current.searchKey) := by
  induction run with
  | start => exact ⟨.nil, fun _ _ _ hx => absurd hx List.not_mem_nil⟩
  | @unplug found d b a _ ih =>
    rw [cursor_request_unplug]
    exact ih
  | @yield found d d' b b' a run fits pulled ih =>
    obtain ⟨rfl, more, hmore, place, e, z, lands, first⟩ :=
      (run.kept attached unshorted).yielded pulled
    have hbehind : ∀ x ∈ found, x.searchKey < a.searchKey := by
      intro x hx
      obtain ⟨hstarted, hle⟩ := ih.2 more hmore x hx
      rw [request, if_pos hstarted] at lands
      have hon := (fits hstarted).searchKey_lt lands
      have hea := first.due
      omega
    refine ⟨Address.ascending_snoc ih.1 hbehind, fun _ hmore' x hx => ⟨rfl, ?_⟩⟩
    rcases place.at_found with done | ⟨hat, -⟩
    · exact absurd (hmore'.symm.trans done) (by decide)
    · rw [hat]
      exact Address.forall_le_snoc hbehind x hx
  | stop run pulled ended ih =>
    have hdone := (run.kept attached unshorted).stopped pulled ended
    exact ⟨ih.1, fun more => absurd (hdone.symm.trans more) (by decide)⟩

/-! ## More than once -/

/-- If the filter lets through none of the devices that have another one behind
them, a listing yields one device at most, and stops after it. -/
theorem Pulls.length_le_one (run : Pulls fit alarmOnly skipReset b₀ found d b)
    (attached : b₀.line.2.selected.isSome = true) (unshorted : b₀.line.1.short = false)
    (last : ∀ a ∈ b₀.searched alarmOnly, ∀ e ∈ b₀.searched alarmOnly,
      a.searchKey < e.searchKey → b₀.filter.accepts a = false) :
    found.length ≤ 1 ∧
      (d.done = false → (d.request b).cursor.exhausted = false → found = []) := by
  induction run with
  | start => exact ⟨Nat.zero_le 1, fun _ _ => rfl⟩
  | @unplug found d b a _ ih =>
    rw [cursor_request_unplug]
    exact ih
  | @yield found d d' b b' a run fits pulled ih =>
    have hk := run.kept attached unshorted
    obtain ⟨rfl, more, hmore, place, e, z, -, first⟩ := hk.yielded pulled
    obtain rfl := ih.2 more hmore
    refine ⟨Nat.le_refl 1, fun _ hmore' => ?_⟩
    rcases place.at_found with done | ⟨hat, x, hx, hlt⟩
    · exact absurd (hmore'.symm.trans done) (by decide)
    · obtain ⟨ha, hacc⟩ := List.mem_filter.mp first.mem
      have hno := last a (hk.left a ha) x (hk.left x hx) (by omega)
      rw [hk.filter, hno] at hacc
      cases hacc
  | stop run pulled ended ih =>
    have hdone := (run.kept attached unshorted).stopped pulled ended
    exact ⟨ih.1, fun more => absurd (hdone.symm.trans more) (by decide)⟩

/-- Without unplugging a listing comes to every device that takes part and that
the filter lets through, by induction on the devices that are due. -/
theorem Pulls.exists_yielded {S : List Address} {a : Address} (ha : a ∈ S)
    (hacc : b₀.filter.accepts a = true) : ∀ (limit n : Nat) (found : List Address) (d : Devices)
      (b : Bus (Network × Driver)), (due S n).length < limit →
      Pulls (fun _ => True) alarmOnly skipReset b₀ found d b → Kept alarmOnly skipReset b₀ d b →
      d.done = false → b.searched alarmOnly = S → Place S (d.request b).cursor n →
      n ≤ a.searchKey →
      ∃ found' d' b', Pulls (fun _ => True) alarmOnly skipReset b₀ found' d' b' ∧ a ∈ found' ∧
        Kept alarmOnly skipReset b₀ d' b' ∧ d'.done = false ∧ b'.searched alarmOnly = S ∧
        Place S (d'.request b').cursor (a.searchKey + 1)
  | 0, _, _, _, _, hl, _, _, _, _, _, _ => absurd hl (Nat.not_lt_zero _)
  | limit + 1, n, found, d, b, hl, run, hk, more, hS, hp, hn => by
    obtain ⟨answer, d', b', pulled⟩ : ∃ answer d' b',
      d.next Driver.transport b = (answer, d', b') := ⟨_, _, _, rfl⟩
    have hk' := hk.after pulled
    obtain ⟨rfl, -, hr⟩ := hk.pull more pulled
    rw [hS] at hk' hr
    have hmem : a ∈ S.filter b.filter.accepts := List.mem_filter.mpr ⟨ha, hk.filter ▸ hacc⟩
    generalize hc : b'.cursor = c', b'.line = s' at hr
    cases hr with
    | atEnd ended =>
      rcases ended with done | hnil
      · have := hp.passed done a ha
        omega
      · exact absurd (hnil ▸ ha) List.not_mem_nil
    | @landed _ e z hmore lands answered =>
      obtain ⟨hne, hleast⟩ := hp.least hmore lands
      have hea := hleast a ha hn
      cases answered with
      | finished passed =>
        have := passed a hmem
        omega
      | @device x _ _ first standing =>
        have run' := run.yield (fun _ => trivial) pulled
        have hxa := first.least a hmem hea
        have hnx := first.due
        rcases Nat.lt_or_eq_of_le hxa with hlt | heq
        · have hdue := Search.length_due_lt (n := n) (List.mem_filter.mp first.mem).1 (by omega)
          exact run'.exists_yielded ha hacc limit (x.searchKey + 1) _ _ _ (by omega) hk'.1 rfl hk'.2
            (hc ▸ standing.place) hlt
        · obtain rfl := Address.searchKey_inj.mp heq
          exact ⟨_, _, _, run', List.mem_append_right _ (List.mem_singleton_self _), hk'.1, rfl,
            hk'.2, hc ▸ standing.place⟩

/-- Where one device is left, a listing that has not come to its end yields it,
whether it did so before or not. -/
theorem Kept.yields_left {a : Address} (h : Kept alarmOnly skipReset b₀ d b)
    (more : d.done = false) (hmore : (d.request b).cursor.exhausted = false)
    (only : ∀ x, x ∈ b.searched alarmOnly ↔ x = a) (hacc : b₀.filter.accepts a = true) :
    ∃ d' b', d.next Driver.transport b = (.device a, d', b') := by
  obtain ⟨answer, d', b', pulled⟩ : ∃ answer d' b',
    d.next Driver.transport b = (answer, d', b') := ⟨_, _, _, rfl⟩
  obtain ⟨-, -, hr⟩ := h.pull more pulled
  have ha : a ∈ b.searched alarmOnly := (only a).mpr rfl
  generalize b'.cursor = c', b'.line = s' at hr
  cases hr with
  | atEnd ended =>
    rcases ended with done | hnil
    · exact absurd (hmore.symm.trans done) (by decide)
    · exact absurd (hnil ▸ ha) List.not_mem_nil
  | @landed _ e z _ lands answered =>
    obtain rfl := (only e).mp lands.mem
    cases answered with
    | finished passed =>
      have := passed e (List.mem_filter.mpr ⟨ha, h.filter ▸ hacc⟩)
      omega
    | @device x _ _ first _ =>
      obtain rfl := (only x).mp (List.mem_filter.mp first.mem).1
      exact ⟨d', b', pulled⟩

/-- A device that has another one behind it can be listed twice: all others are
unplugged once it was yielded. -/
theorem exists_twice (alarmOnly skipReset : Bool) (attached : b₀.line.2.selected.isSome = true)
    (unshorted : b₀.line.1.short = false) {a e : Address} (ha : a ∈ b₀.searched alarmOnly)
    (he : e ∈ b₀.searched alarmOnly) (hlt : a.searchKey < e.searchKey)
    (hacc : b₀.filter.accepts a = true) :
    ∃ found d b, Pulls (fun _ => True) alarmOnly skipReset b₀ found d b ∧ ¬ found.Nodup := by
  obtain ⟨found, d, b, run, hin, hk, more, hS, hp⟩ :=
    Pulls.exists_yielded ha hacc _ 0 [] _ b₀ (Nat.lt_succ_self _)
      (.start : Pulls _ alarmOnly skipReset b₀ _ _ _) (.start attached unshorted) rfl rfl
      (.start rfl rfl) (Nat.zero_le _)
  have hmore : (d.request b).cursor.exhausted = false := by
    by_contra done
    have := hp.passed ((Bool.not_eq_false _).mp done) e he
    omega
  obtain ⟨b', ⟨run', hk', hmore'⟩, hm⟩ := Bus.exists_unplugged alarmOnly
    (R := fun b => Pulls (fun _ => True) alarmOnly skipReset b₀ found d b ∧
      Kept alarmOnly skipReset b₀ d b ∧ (d.request b).cursor.exhausted = false)
    (fun b x ⟨run, hk, hmore⟩ =>
      ⟨run.unplug x, hk.unplug x, (d.cursor_request_unplug b x).symm ▸ hmore⟩) [a] ⟨run, hk, hmore⟩
  have only : ∀ x, x ∈ b'.searched alarmOnly ↔ x = a := by
    intro x
    rw [hm, List.mem_singleton]
    refine and_iff_right_of_imp ?_
    rintro rfl
    exact hS ▸ ha
  obtain ⟨d'', b'', pulled⟩ := hk'.yields_left more hmore' only hacc
  refine ⟨found ++ [a], d'', b'', run'.yield (fun _ => trivial) pulled, fun nodup => ?_⟩
  exact (List.nodup_append.mp nodup).2.2 a hin a (List.mem_singleton_self a) rfl

/-- With devices unplugged between its pulls a listing stays in order, and so
yields no device twice, as long as each pull leads on. Whatever is unplugged, it
yields none twice exactly if the filter lets through none of the devices that
have another one behind them when it begins. -/
theorem yields_once_iff (b₀ : Bus (Network × Driver)) (alarmOnly skipReset : Bool)
    (attached : b₀.line.2.selected.isSome = true) (unshorted : b₀.line.1.short = false) :
    (∀ found d b, Pulls (fun b => b.cursor.LeadsOn (b.searched alarmOnly)) alarmOnly skipReset b₀
      found d b → found.Pairwise (·.searchKey < ·.searchKey)) ∧
    ((∀ found d b, Pulls (fun _ => True) alarmOnly skipReset b₀ found d b → found.Nodup) ↔
      ∀ a e, b₀.line.1.TakesPart alarmOnly a → b₀.line.1.TakesPart alarmOnly e →
        a.searchKey < e.searchKey → b₀.filter.accepts a = false) := by
  refine ⟨fun found d b run => (run.ascends attached unshorted).1, fun h a e ha he hlt => ?_,
    fun h found d b run => ?_⟩
  · by_contra hacc
    obtain ⟨found, d, b, run, twice⟩ := exists_twice alarmOnly skipReset attached unshorted
      (Bus.mem_searched.mpr ha) (Bus.mem_searched.mpr he) hlt ((Bool.not_eq_false _).mp hacc)
    exact twice (h found d b run)
  · have hle := (run.length_le_one attached unshorted fun a ha e he =>
      h a e (Bus.mem_searched.mp ha) (Bus.mem_searched.mp he)).1
    match found, hle with
    | [], _ => exact .nil
    | [a], _ => exact List.pairwise_singleton _ a

end Devices

/-- Of 2 and 6, in the order of their keys, 2 is unplugged after it was yielded,
and the pass to 6 leads on. With a filter that lets through the family of 6 alone
nothing that is unplugged makes a listing yield a device twice. -/
theorem yields_once_of_pair :
    let b := Driver.bus (.populated [⟨2⟩, ⟨6⟩] [])
    let only := { b with filter := .only [6] }
    (b.line.2.selected.isSome = true ∧ b.line.1.short = false) ∧
      (∃ d b', Devices.Pulls (fun b => b.cursor.LeadsOn (b.searched false)) false false b
        [⟨2⟩, ⟨6⟩] d b' ∧ [(⟨2⟩ : Address), ⟨6⟩].Pairwise (·.searchKey < ·.searchKey)) ∧
      ∀ found d b', Devices.Pulls (fun _ => True) false false only found d b' → found.Nodup := by
  intro b only
  have begun : Devices.Pulls (fun b => b.cursor.LeadsOn (b.searched false)) false false b [] {} b :=
    .start
  have once := begun.yield_next (a := ⟨2⟩) nofun (by decide +kernel)
  have hcursor : ((({} : Devices).next Driver.transport b).2.2.unplug ⟨2⟩).cursor =
      { lastDiscrepancy := 3, current := ⟨2⟩ } := by decide +kernel
  have hleft : ((({} : Devices).next Driver.transport b).2.2.unplug ⟨2⟩).searched false =
      [⟨6⟩] := by decide +kernel
  have hfork : Forks 2 ⟨2⟩ ⟨6⟩ := ⟨show ∀ k < 2, _ by decide, rfl, rfl⟩
  have run := (once.unplug ⟨2⟩).yield_next (a := ⟨6⟩) (fun _ => by
    rw [hcursor, hleft]
    exact ⟨⟨6⟩, List.mem_singleton_self _, 2, by decide, hfork, .inl rfl⟩) (by decide +kernel)
  refine ⟨⟨rfl, rfl⟩, ⟨_, _, run, (Devices.yields_once_iff b false false rfl rfl).1 _ _ _ run⟩, ?_⟩
  refine (Devices.yields_once_iff only false false rfl rfl).2.mpr fun a e ha he hlt => ?_
  have hpair : only.searched false = [⟨2⟩, ⟨6⟩] := by decide +kernel
  rw [← Bus.mem_searched, hpair] at ha he
  simp only [List.mem_cons, List.not_mem_nil, or_false] at ha he
  rcases ha with rfl | rfl
  · decide
  · rcases he with rfl | rfl
    · exact absurd hlt (by decide +kernel)
    · exact absurd hlt (Nat.lt_irrefl _)

/-- Of two devices the second is unplugged once the first was yielded, and the
first is yielded again. -/
theorem yields_twice_of_pair :
    let first := Address.ofBytes [0x28, 1, 0, 0, 0, 0, 0, 0]
    let second := Address.ofBytes [0x28, 3, 0, 0, 0, 0, 0, 0]
    let b := Driver.bus (.populated [first, second] [])
    ∃ d b', Devices.Pulls (fun _ => True) false false b [first, first] d b' := by
  intro first second b
  have begun : Devices.Pulls (fun _ => True) false false b [] {} b := .start
  have once := begun.yield_next (a := first) (fun _ => trivial) (by decide +kernel)
  exact ⟨_, _, (once.unplug second).yield_next (a := first) (fun _ => trivial) (by decide +kernel)⟩

end BusMaster
