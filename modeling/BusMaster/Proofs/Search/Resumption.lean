import BusMaster.Proofs.Search.Enumeration
import Mathlib.Data.List.Perm.Subperm

/-!
# Enumerations taken up anywhere

A cursor can be stale: the devices that it was last at may be gone, and others
may have come. Its first pass comes out at some device all the same, and from
there on the enumeration is in order, so that it ends as soon as the population
stays as it is.

* `Lists.unique`: what is listed is determined by where the list begins;
* `findNext_of_settled`: a request that was answered needs no more passes;
* `findNext_resumed`, `requests_resumed`: one request, and all requests, from any
  cursor (`Resumed`);
* `Bus.ends_once_quiet`: on a wire that stays as it is an enumeration ends, and
  lists all that takes part from its first address on.
-/

namespace BusMaster

open SearchPass (LandsAt)

namespace Search

variable {S found found' : List Address} {n : Nat}

theorem Lists.nodup (h : Lists S n found) : found.Nodup :=
  Address.nodup_of_ascending h.ascending

theorem Lists.unique (h : Lists S n found) (h' : Lists S n found') : found = found' := by
  have perm : found.Perm found' := (List.perm_ext_iff_of_nodup h.nodup h'.nodup).mpr fun a =>
    (h.mem_iff a).trans (h'.mem_iff a).symm
  exact perm.eq_of_pairwise (fun _ _ _ _ hlt hgt => absurd hlt (Nat.lt_asymm hgt))
    h.ascending h'.ascending

theorem Lists.length_le (h : Lists S n found) : found.length ≤ S.length :=
  (List.Nodup.subperm h.nodup fun a ha => ((h.mem_iff a).mp ha).1).length_le

/-- A list goes on from its own first address. -/
theorem Lists.mem_iff_of_head (h : Lists S n found) {first : Address}
    (hf : first ∈ found.head?) (a : Address) :
    a ∈ found ↔ a ∈ S ∧ first.searchKey ≤ a.searchKey := by
  obtain ⟨rest, rfl⟩ : ∃ rest, found = first :: rest := ⟨_, List.eq_cons_of_mem_head? hf⟩
  have hn : n ≤ first.searchKey := ((h.mem_iff first).mp List.mem_cons_self).2
  constructor
  · intro ha
    refine ⟨((h.mem_iff a).mp ha).1, ?_⟩
    rcases List.mem_cons.mp ha with rfl | ha
    · exact Nat.le_refl _
    · exact Nat.le_of_lt (List.rel_of_pairwise_cons h.ascending ha)
  · rintro ⟨ha, hle⟩
    exact (h.mem_iff a).mpr ⟨ha, Nat.le_trans hn hle⟩

/-- What a filter leaves of a list is the list of what it leaves. -/
theorem Lists.accepted (h : Lists S n found) (filter : FamilyFilter) :
    Lists (S.filter filter.accepts) n (found.filter filter.accepts) := by
  refine ⟨h.ascending.filter _, fun a => ?_⟩
  rw [List.mem_filter, List.mem_filter, h.mem_iff]
  tauto

/-- An address of `S` is the first of those from itself on. -/
theorem First.self {d : Address} (hd : d ∈ S) : First S d.searchKey d :=
  ⟨hd, Nat.le_refl _, fun _ _ hn => hn⟩

variable {σ : Type} {t : Transport σ} {I : σ → Prop} {alarmOnly skipReset : Bool}
  {filter : FamilyFilter} {c : SearchCursor} {s : σ}

/-- More passes make no difference to a request that was answered. -/
theorem findNext_of_settled (t : Transport σ) (filter : FamilyFilter) :
    ∀ (limit more : Nat) (c : SearchCursor) (s : σ),
      (findNext t filter limit c s).1 ≠ .unsettled →
      findNext t filter (limit + more) c s = findNext t filter limit c s
  | 0, _, _, _, h => absurd rfl h
  | limit + 1, more, c, s, h => by
    rw [show limit + 1 + more = limit + more + 1 by omega]
    rw [findNext] at h ⊢
    rw [findNext]
    generalize step t c s = r at h ⊢
    obtain ⟨found, c', s'⟩ := r
    cases found with
    | device a =>
      cases ha : filter.accepts a
      · simp only [ha, Bool.false_eq_true, ↓reduceIte] at h ⊢
        exact findNext_of_settled t filter limit more c' s' h
      · simp only [ha, ↓reduceIte]
    | finished => rfl
    | failed e => rfl
    | unsettled => rfl

/-- The answer to a request from any cursor. If the enumeration is over or nobody
takes part, it is the end. Otherwise the first pass lands at some `d`, and it is
the first address from `d` on that the filter lets through. -/
inductive Resumed (I : σ → Prop) (S : List Address) (filter : FamilyFilter)
    (alarmOnly skipReset : Bool) (c : SearchCursor) : Found × SearchCursor × σ → Prop where
  | atEnd {s : σ} (ended : c.exhausted = true ∨ S = []) (state : I s) :
    Resumed I S filter alarmOnly skipReset c (.finished, { alarmOnly, skipReset }, s)
  | landed {r : Found × SearchCursor × σ} {d : Address} {z : Nat} (more : c.exhausted = false)
    (lands : LandsAt c.pass S d z)
    (answered : Answered I S filter alarmOnly skipReset d.searchKey r) :
    Resumed I S filter alarmOnly skipReset c r

theorem findNext_resumed (hp : Populated t I alarmOnly skipReset S) (filter : FamilyFilter)
    {limit : Nat} (hl : S.length < limit) (hs : I s) (ho : c.restart = { alarmOnly, skipReset })
    (hL : c.exhausted = false → c.lastDiscrepancy ≤ 64) :
    Resumed I S filter alarmOnly skipReset c (findNext t filter limit c s) := by
  obtain ⟨limit, rfl⟩ := Nat.exists_eq_add_one.mpr (Nat.zero_lt_of_lt hl)
  obtain ⟨s', he, hs'⟩ := step_eq_meet hp hs ho
  rw [findNext, he]
  rcases c.meet_cases S hL with ⟨hend, hm⟩ | ⟨more, d, z, hd, hm⟩
  · rw [hm, ho]
    exact .atEnd hend hs'
  · rw [hm]
    refine .landed more hd ?_
    -- From here on the cursor has its place behind `d`.
    have hstand : Standing I S alarmOnly skipReset (d.searchKey + 1)
        (c.advance (c.pass.answer S)) s' := ⟨hs', ho, SearchCursor.place_advance hd⟩
    cases ha : filter.accepts d
    · have hlt := length_due_lt hd.mem (Nat.le_refl d.searchKey)
      have hle := length_due_le S d.searchKey
      have hrest := findNext_answered hp filter limit _ _ _ (by omega) hstand
      have first : First S d.searchKey d := .self hd.mem
      simp only [ha, Bool.false_eq_true, ↓reduceIte]
      generalize findNext t filter limit (c.advance (c.pass.answer S)) s' = r at hrest
      cases hrest with
      | device next standing => exact .device (first.of_rejected ha next) standing
      | finished passed state => exact .finished (first.passed_of_rejected ha passed) state
    · simp only [ha, ↓reduceIte]
      exact .device (.self (List.mem_filter.mpr ⟨hd.mem, ha⟩)) hstand

theorem Resumed.settled {r : Found × SearchCursor × σ}
    (h : Resumed I S filter alarmOnly skipReset c r) :
    r.1 ≠ .unsettled ∧ ∀ e, r.1 ≠ .failed e := by
  cases h with
  | atEnd => exact ⟨nofun, nofun⟩
  | landed _ _ answered => cases answered <;> exact ⟨nofun, nofun⟩

/-- After the answer the enumeration can go on with the same options. -/
theorem Resumed.after {found : Found} {c' : SearchCursor}
    (h : Resumed I S filter alarmOnly skipReset c (found, c', s)) :
    I s ∧ c'.restart = { alarmOnly, skipReset } ∧
      (c'.exhausted = false → c'.lastDiscrepancy ≤ 64) := by
  cases h with
  | atEnd _ state => exact ⟨state, rfl, fun _ => Nat.zero_le _⟩
  | landed _ _ answered =>
    cases answered with
    | device _ standing => exact ⟨standing.state, standing.options, standing.place.le_64⟩
    | finished _ state => exact ⟨state, rfl, fun _ => Nat.zero_le _⟩

/-- Any number of passes above that of the devices gives the same answer, which
is an address or the end. -/
theorem exists_answer (hp : Populated t I alarmOnly skipReset S) (filter : FamilyFilter)
    (hs : I s) (ho : c.restart = { alarmOnly, skipReset })
    (hL : c.exhausted = false → c.lastDiscrepancy ≤ 64) :
    ∃ r : Found × SearchCursor × σ, (r.1 ≠ .unsettled ∧ ∀ e, r.1 ≠ .failed e) ∧
      ∀ limit, S.length < limit → findNext t filter limit c s = r := by
  have settled := (findNext_resumed hp filter (Nat.lt_succ_self S.length) hs ho hL).settled
  refine ⟨_, settled, fun limit hl => ?_⟩
  rw [show limit = S.length + 1 + (limit - (S.length + 1)) by omega]
  exact findNext_of_settled t filter _ _ c s settled.1

end Search

namespace Bus

open Search (Populated Lists Resumed)

variable {σ : Type} {t : Transport σ} {I : σ → Prop} {alarmOnly skipReset : Bool}
  {S : List Address} {b : Bus σ}

theorem findNext_resumed (hp : Populated t I alarmOnly skipReset S) (hb : I b.line)
    (ho : b.cursor.restart = { alarmOnly, skipReset })
    (hL : b.cursor.exhausted = false → b.cursor.lastDiscrepancy ≤ 64) :
    ∃ found c s, b.findNext t = (found, { b with cursor := c, line := s }) ∧
      Resumed I S b.filter alarmOnly skipReset b.cursor (found, c, s) :=
  ⟨_, _, _, rfl, Search.findNext_resumed hp b.filter (hp.limit b.line hb) hb ho hL⟩

/-- All requests from any cursor: they list what the filter lets through from
the address on at which the first pass lands. -/
theorem requests_resumed (hp : Populated t I alarmOnly skipReset S) (hb : I b.line)
    (ho : b.cursor.restart = { alarmOnly, skipReset })
    (hL : b.cursor.exhausted = false → b.cursor.lastDiscrepancy ≤ 64) {limit : Nat}
    (hl : S.length < limit) :
    ∃ found s, requests t (findNext t) limit b =
        (.complete found, { b with cursor := { alarmOnly, skipReset }, line := s }) ∧
      ((b.cursor.exhausted = true ∨ S = []) ∧ found = [] ∨
        b.cursor.exhausted = false ∧ ∃ d z, LandsAt b.cursor.pass S d z ∧
          Lists (S.filter b.filter.accepts) d.searchKey found) := by
  obtain ⟨limit, rfl⟩ := Nat.exists_eq_add_one.mpr (Nat.zero_lt_of_lt hl)
  obtain ⟨f, c, s, he, hr⟩ := findNext_resumed hp hb ho hL
  rw [requests, he]
  cases hr with
  | atEnd ended => exact ⟨[], s, rfl, .inl ⟨ended, rfl⟩⟩
  | @landed _ d z more hd answered =>
    cases answered with
    | finished passed => exact ⟨[], s, rfl, .inr ⟨more, d, z, hd, .nil passed⟩⟩
    | @device a _ _ first standing =>
      have hlt := Search.length_due_lt (List.mem_filter.mp first.mem).1 (Nat.le_refl a.searchKey)
      have hle := Search.length_due_le S a.searchKey
      obtain ⟨found, s', he', hf, -⟩ := requests_lists hp limit (a.searchKey + 1)
        { b with cursor := c, line := s } (by omega) standing
      refine ⟨a :: found, s', ?_, .inr ⟨more, d, z, hd, first.lists_cons hf⟩⟩
      simp only [he']
      rfl

/-- The devices that answer the search that the cursor is on. -/
def answering (b : Bus (Network × Driver)) : List Address :=
  b.line.1.takingPart b.cursor.alarmOnly b.cursor.skipReset

/-- A pass that lands somewhere is neither behind the end nor on an empty bus. -/
theorem not_over {d : Address} {z : Nat} (more : b.cursor.exhausted = false)
    (hd : LandsAt b.cursor.pass S d z) : ¬ (b.cursor.exhausted = true ∨ S = []) := by
  rintro (done | rfl)
  · rw [more] at done
    cases done
  · exact absurd hd.mem List.not_mem_nil

/-- An enumeration with any filter, taken up at any cursor, lists what the filter
lets through of what one without a filter lists. -/
theorem exists_listed (b : Bus (Network × Driver)) (attached : b.line.2.selected.isSome = true)
    (within : b.cursor.lastDiscrepancy ≤ 64) :
    ∃ found : List Address, (found = [] ↔ b.cursor.exhausted = true ∨ b.answering = []) ∧
      (found = [] ∨ ∃ n, Lists b.answering n found) ∧
      ∀ (filter : FamilyFilter) (limit : Nat), b.answering.length < limit →
        ∃ s, requests Driver.transport (findNext Driver.transport) limit { b with filter } =
          (.complete (found.filter filter.accepts),
            { b with filter, cursor := b.cursor.restart, line := s }) := by
  have hp := populated_driver attached b.cursor.alarmOnly b.cursor.skipReset
  have hall (filter : FamilyFilter) {limit : Nat} (hl : b.answering.length < limit) :=
    requests_resumed (b := { b with filter }) hp (.refl b.line) rfl (fun _ => within) hl
  obtain ⟨found, -, -, ⟨hend, rfl⟩ | ⟨more, d, z, hd, hf⟩⟩ :=
    hall .all (Nat.lt_succ_self b.answering.length)
  · refine ⟨[], iff_of_true rfl hend, .inl rfl, fun filter limit hl => ?_⟩
    obtain ⟨found, s, he, ⟨-, rfl⟩ | ⟨more, d, z, hd, -⟩⟩ := hall filter hl
    · exact ⟨s, he⟩
    · exact absurd hend (not_over more hd)
  · rw [Search.filter_all] at hf
    have hmem : d ∈ found := (hf.mem_iff d).mpr ⟨hd.mem, Nat.le_refl _⟩
    refine ⟨found, iff_of_false (List.ne_nil_of_mem hmem) (not_over more hd), .inr ⟨_, hf⟩,
      fun filter limit hl => ?_⟩
    obtain ⟨found', s, he, ⟨hend, -⟩ | ⟨-, d', z', hd', hf'⟩⟩ := hall filter hl
    · exact absurd hend (not_over more hd)
    · -- With another filter the first pass lands at the same address.
      obtain ⟨rfl, -⟩ := hd.unique hd'
      rw [(hf.accepted filter).unique hf']
      exact ⟨s, he⟩

/-- On a wire that stays as it is, every request ends within a pass for each
device that answers and one more, and the requests end within as many again.
Before the end they report the devices that answer from the first reported one
on, in the order of their keys, and a filter only leaves some of them out. This
is so wherever the cursor stands. -/
theorem ends_once_quiet (b : Bus (Network × Driver)) (attached : b.line.2.selected.isSome = true)
    (within : b.cursor.lastDiscrepancy ≤ 64) :
    (∃ r : Found × SearchCursor × Network × Driver, (r.1 ≠ .unsettled ∧ ∀ e, r.1 ≠ .failed e) ∧
      ∀ limit, b.answering.length < limit →
        Search.findNext Driver.transport b.filter limit b.cursor b.line = r) ∧
    ∃ found : List Address, found.length ≤ b.answering.length ∧
      (found = [] ↔ b.cursor.exhausted = true ∨ b.answering = []) ∧
      found.Pairwise (·.searchKey < ·.searchKey) ∧
      (∀ first ∈ found.head?, ∀ a,
        a ∈ found ↔ a ∈ b.answering ∧ first.searchKey ≤ a.searchKey) ∧
      ∀ (filter : FamilyFilter) (limit : Nat), b.answering.length < limit →
        ∃ s, requests Driver.transport (findNext Driver.transport) limit { b with filter } =
          (.complete (found.filter filter.accepts),
            { b with filter, cursor := b.cursor.restart, line := s }) := by
  have hp := populated_driver attached b.cursor.alarmOnly b.cursor.skipReset
  refine ⟨Search.exists_answer hp b.filter (.refl b.line) rfl fun _ => within, ?_⟩
  obtain ⟨found, hempty, hlists, hreq⟩ := b.exists_listed attached within
  refine ⟨found, ?_, hempty, ?_, ?_, hreq⟩
  · rcases hlists with rfl | ⟨n, h⟩
    · exact Nat.zero_le _
    · exact h.length_le
  · rcases hlists with rfl | ⟨n, h⟩
    · exact .nil
    · exact h.ascending
  · rcases hlists with rfl | ⟨n, h⟩
    · exact nofun
    · exact fun first hf => h.mem_iff_of_head hf

/-- Of 2, 1 and 3, in the order of their keys, a cursor left at 1 with a branch
point where no device is lists the last two, and one if a filter excludes the
family of 1. -/
theorem ends_once_quiet_of_stale_cursor :
    let b := { Driver.bus (.populated [⟨1⟩, ⟨3⟩, ⟨2⟩] []) with
      cursor := { lastDiscrepancy := 5, current := ⟨1⟩ } }
    (b.line.2.selected.isSome = true ∧ b.cursor.lastDiscrepancy ≤ 64) ∧
      (∀ a, a ∈ [⟨1⟩, ⟨3⟩] ↔ a ∈ b.answering ∧ Address.searchKey ⟨1⟩ ≤ a.searchKey) ∧
      ∃ s, requests Driver.transport (findNext Driver.transport) 4
          { b with filter := .excluding [1] } =
        (.complete [⟨3⟩], { b with filter := .excluding [1], cursor := {}, line := s }) := by
  intro b
  have within : b.cursor.lastDiscrepancy ≤ 64 := by decide
  obtain ⟨-, found, -, -, -, hhead, hreq⟩ := b.ends_once_quiet rfl within
  obtain ⟨s, he⟩ := hreq .all 4 (by decide)
  have hfound : found = [⟨1⟩, ⟨3⟩] := by
    have hlisted : (requests Driver.transport (findNext Driver.transport) 4 b).1 =
        .complete [⟨1⟩, ⟨3⟩] := by decide +kernel
    rw [Search.filter_all] at he
    exact Listing.complete.inj ((congrArg Prod.fst he).symm.trans hlisted)
  subst hfound
  obtain ⟨s', he'⟩ := hreq (.excluding [1]) 4 (by decide)
  exact ⟨⟨rfl, within⟩, hhead ⟨1⟩ rfl, s', he'⟩

end Bus

end BusMaster
