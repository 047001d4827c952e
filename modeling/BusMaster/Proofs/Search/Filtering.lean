import BusMaster.Adapter.Devices
import BusMaster.Proofs.Search.Enumeration
import BusMaster.Transport.Record
import BusMaster.Transport.Script

/-!
# A filter only hides

A request under a filter makes passes until one finds an address that the filter
lets through, so the filter decides where one request ends and the next begins.
It decides nothing else: over any transport, whatever its answers, a walk under a
filter is the walk under `FamilyFilter.all` with some addresses left out.

* `Search.Walk`: a walk that ends, with what it reports and how it ends;
* `Search.Passes`: the passes of a walk, where no filter is looked at;
* `Search.walk_iff`: a walk reports what its passes find and the filter lets
  through;
* `Search.filter_only_hides`: the walks under a filter and under none.
-/

namespace BusMaster

namespace Search

open Devices (isLast)

variable {σ : Type} {t : Transport σ} {filter : FamilyFilter} {c c' : SearchCursor} {s s' : σ}
  {a : Address} {all found : List Address} {last last' : Found × SearchCursor × σ}

/-- A request, and `findNext` after it up to the first answer that no device
follows: the addresses reported, and then that answer with the cursor and the
transport as it leaves them. A request may take as many passes as it needs. -/
inductive Walk (t : Transport σ) (filter : FamilyFilter) :
    (request : (limit : Nat) → Found × SearchCursor × σ) → List Address →
      Found × SearchCursor × σ → Prop where
  | last {request : Nat → Found × SearchCursor × σ} (limit : Nat)
      (ends : isLast (request limit).1 = true) : Walk t filter request [] (request limit)
  | device {request : Nat → Found × SearchCursor × σ} {a : Address} {c : SearchCursor} {s : σ}
      {found : List Address} {last : Found × SearchCursor × σ} (limit : Nat)
      (answer : request limit = (.device a, c, s))
      (rest : Walk t filter (fun limit => findNext t filter limit c s) found last) :
      Walk t filter request (a :: found) last

/-- Passes up to the first that finds no address: the addresses found, and then
that pass. -/
inductive Passes (t : Transport σ) :
    SearchCursor → σ → List Address → Found × SearchCursor × σ → Prop where
  | last {c : SearchCursor} {s : σ} (ends : isLast (step t c s).1 = true) :
      Passes t c s [] (step t c s)
  | device {c c' : SearchCursor} {s s' : σ} {a : Address} {all : List Address}
      {last : Found × SearchCursor × σ} (answer : step t c s = (.device a, c', s'))
      (rest : Passes t c' s' all last) : Passes t c s (a :: all) last

/-- The transport alone decides what its passes find. -/
theorem Passes.unique {all' : List Address} (h : Passes t c s all last)
    (h' : Passes t c s all' last') : all' = all ∧ last' = last := by
  induction h generalizing all' with
  | last ends =>
    cases h' with
    | last => exact ⟨rfl, rfl⟩
    | device answer =>
      rw [answer] at ends
      cases ends
  | device answer _ ih =>
    cases h' with
    | last ends =>
      rw [answer] at ends
      cases ends
    | device answer' rest' =>
      rw [answer] at answer'
      cases answer'
      obtain ⟨rfl, rfl⟩ := ih rest'
      exact ⟨rfl, rfl⟩

/-- A pass always comes to an end or finds an address. -/
theorem step_cases (t : Transport σ) (c : SearchCursor) (s : σ) :
    isLast (step t c s).1 = true ∨ ∃ a c' s', step t c s = (.device a, c', s') := by
  rw [step]
  split
  · exact .inl rfl
  · split
    · exact .inl rfl
    · split
      · exact .inl rfl
      · exact .inr ⟨_, _, _, rfl⟩

/-! ## One request -/

/-- A pass that ends the walk answers the request, whatever the filter. -/
theorem findNext_of_isLast (ends : isLast (step t c s).1 = true) (filter : FamilyFilter)
    (limit : Nat) : findNext t filter (limit + 1) c s = step t c s := by
  rw [findNext]
  generalize step t c s = r at ends
  obtain ⟨_ | _ | _ | _, _, _⟩ := r
  · cases ends
  · rfl
  · rfl
  · rfl

theorem findNext_of_accepted (answer : step t c s = (.device a, c', s'))
    (yes : filter.accepts a = true) (limit : Nat) :
    findNext t filter (limit + 1) c s = (.device a, c', s') := by
  simp only [findNext, answer, yes, if_true]

/-- A pass that finds an address which the filter holds back leaves the request
to the passes after it. -/
theorem findNext_of_hidden (answer : step t c s = (.device a, c', s'))
    (no : filter.accepts a = false) (limit : Nat) :
    findNext t filter (limit + 1) c s = findNext t filter limit c' s' := by
  simp only [findNext, answer, no, Bool.false_eq_true, if_false]

/-! ## A walk and its passes -/

/-- The passes find some addresses, of which the filter lets `found` through. -/
def Shows (t : Transport σ) (filter : FamilyFilter) (c : SearchCursor) (s : σ)
    (found : List Address) (last : Found × SearchCursor × σ) : Prop :=
  ∃ all, Passes t c s all last ∧ all.filter filter.accepts = found

theorem Shows.accepted (answer : step t c s = (.device a, c', s'))
    (yes : filter.accepts a = true) (h : Shows t filter c' s' found last) :
    Shows t filter c s (a :: found) last := by
  obtain ⟨all, hall, rfl⟩ := h
  exact ⟨a :: all, .device answer hall, List.filter_cons_of_pos yes⟩

theorem Shows.hidden (answer : step t c s = (.device a, c', s'))
    (no : filter.accepts a = false) (h : Shows t filter c' s' found last) :
    Shows t filter c s found last := by
  obtain ⟨all, hall, rfl⟩ := h
  refine ⟨a :: all, .device answer hall, List.filter_cons_of_neg ?_⟩
  simp [no]

/-- A request that ends the walk: the filter lets none of the addresses through
that its passes found. By induction on the passes it may take. -/
theorem Shows.of_last : ∀ (limit : Nat) (c : SearchCursor) (s : σ),
    isLast (findNext t filter limit c s).1 = true →
      Shows t filter c s [] (findNext t filter limit c s)
  | 0, _, _, ends => by cases ends
  | limit + 1, c, s, ends => by
    rcases step_cases t c s with stops | ⟨a, c', s', answer⟩
    · rw [findNext_of_isLast stops]
      exact ⟨[], .last stops, rfl⟩
    · cases hf : filter.accepts a with
      | true =>
        rw [findNext_of_accepted answer hf] at ends
        cases ends
      | false =>
        rw [findNext_of_hidden answer hf] at ends ⊢
        exact .hidden answer hf (of_last limit c' s' ends)

/-- A request that reports an address: the last of its passes found it, and the
filter let none of the others through. -/
theorem Shows.of_device (rest : Shows t filter c' s' found last) :
    ∀ (limit : Nat) (c : SearchCursor) (s : σ),
      findNext t filter limit c s = (.device a, c', s') → Shows t filter c s (a :: found) last
  | 0, _, _, he => by cases he
  | limit + 1, c, s, he => by
    rcases step_cases t c s with stops | ⟨b, d, s₁, answer⟩
    · rw [findNext_of_isLast stops] at he
      rw [he] at stops
      cases stops
    · cases hf : filter.accepts b with
      | true =>
        rw [findNext_of_accepted answer hf] at he
        cases he
        exact .accepted answer hf rest
      | false =>
        rw [findNext_of_hidden answer hf] at he
        exact .hidden answer hf (of_device rest limit d s₁ he)

theorem Walk.shows {request : Nat → Found × SearchCursor × σ}
    (h : Walk t filter request found last) :
    ∀ {c : SearchCursor} {s : σ}, (∀ limit, request limit = findNext t filter limit c s) →
      Shows t filter c s found last := by
  induction h with
  | last limit ends =>
    intro c s hr
    rw [hr] at ends ⊢
    exact .of_last limit c s ends
  | device limit answer _ ih =>
    intro c s hr
    rw [hr] at answer
    exact .of_device (ih fun _ => rfl) limit c s answer

/-- One pass more before the walk, which the filter hides. -/
theorem Walk.later {request request' : Nat → Found × SearchCursor × σ}
    (hr : ∀ limit, request' (limit + 1) = request limit) (h : Walk t filter request found last) :
    Walk t filter request' found last := by
  cases h with
  | last limit ends =>
    rw [← hr] at ends ⊢
    exact .last (limit + 1) ends
  | device limit answer rest =>
    rw [← hr] at answer
    exact .device (limit + 1) answer rest

theorem Passes.walk (filter : FamilyFilter) (h : Passes t c s all last) :
    Walk t filter (fun limit => findNext t filter limit c s) (all.filter filter.accepts) last := by
  induction h with
  | last ends =>
    have he := findNext_of_isLast ends filter 0
    rw [← he] at ends ⊢
    exact .last 1 ends
  | @device c c' s s' a all last answer _ ih =>
    cases hf : filter.accepts a with
    | true =>
      rw [List.filter_cons_of_pos hf]
      exact .device 1 (findNext_of_accepted answer hf 0) ih
    | false =>
      rw [List.filter_cons_of_neg (by simp [hf])]
      exact .later (findNext_of_hidden answer hf) ih

/-- A walk under a filter reports what its passes find and the filter lets
through, and ends as they do. -/
theorem walk_iff : Walk t filter (fun limit => findNext t filter limit c s) found last ↔
    Shows t filter c s found last := by
  constructor
  · intro h
    exact h.shows fun _ => rfl
  · rintro ⟨all, hall, rfl⟩
    exact hall.walk filter

/-- A walk under a filter ends if the walk under none does. It then makes the
same calls, comes to the same answer with the same cursor, and reports those
addresses of the other walk that the filter lets through. -/
theorem filter_only_hides (t : Transport σ) (filter : FamilyFilter) (alarmOnly skipReset : Bool)
    (c : SearchCursor) (s : σ) :
    let Walks (filter : FamilyFilter) (found : List Address)
        (last : Found × SearchCursor × σ × List Call) : Prop :=
      Walk t.recorded filter
        (fun limit => findFirst t.recorded filter limit alarmOnly skipReset c (s, [])) found last
    ((∃ found last, Walks filter found last) ↔ ∃ all last, Walks .all all last) ∧
      ∀ found last all last', Walks filter found last → Walks .all all last' →
        last = last' ∧ found = all.filter filter.accepts := by
  intro Walks
  have hiff : ∀ filter found last, Walks filter found last ↔
      Shows t.recorded filter { c.restart with alarmOnly, skipReset } (s, []) found last :=
    fun _ _ _ => walk_iff
  refine ⟨⟨?_, ?_⟩, ?_⟩
  · rintro ⟨found, last, h⟩
    obtain ⟨all, hall, -⟩ := (hiff ..).mp h
    exact ⟨all, last, (hiff ..).mpr ⟨all, hall, filter_all all⟩⟩
  · rintro ⟨all, last, h⟩
    obtain ⟨passed, hpassed, -⟩ := (hiff ..).mp h
    exact ⟨_, last, (hiff ..).mpr ⟨passed, hpassed, rfl⟩⟩
  · intro found last all last' h h'
    obtain ⟨passed, hpassed, rfl⟩ := (hiff ..).mp h
    obtain ⟨passed', hpassed', rfl⟩ := (hiff ..).mp h'
    obtain ⟨rfl, rfl⟩ := hpassed.unique hpassed'
    rw [filter_all]
    exact ⟨rfl, rfl⟩

/-- A transport that reports one address twice, another one in between, and then
fails: the filter hides the one in between, and nothing else. -/
theorem filter_only_hides_of_failure :
    let shown := Address.ofBytes [0x28, 1, 0, 0, 0, 0, 0, 0]
    let hidden := Address.ofBytes [0x10, 2, 0, 0, 0, 0, 0, 0]
    let script : Script :=
      { search := [.ok ⟨9, shown⟩, .ok ⟨12, hidden⟩, .ok ⟨9, shown⟩, .error (.io "unplugged")] }
    let walks (filter : FamilyFilter) := Walk Script.transport.recorded filter
      fun limit => findFirst Script.transport.recorded filter limit true true {} (script, [])
    ∃ c s, walks .all [shown, hidden, shown] (.failed (.io "unplugged"), c, s) ∧
      walks (.only [0x28]) [shown, shown] (.failed (.io "unplugged"), c, s) := by
  intro shown hidden script walks
  have hall : ∃ c s, walks .all [shown, hidden, shown] (.failed (.io "unplugged"), c, s) :=
    ⟨_, _, .device 1 rfl (.device 1 rfl (.device 1 rfl (.last 1 rfl)))⟩
  obtain ⟨c, s, hall⟩ := hall
  obtain ⟨hends, hsame⟩ :=
    filter_only_hides Script.transport (.only [0x28]) true true {} script
  obtain ⟨found, last, hwalk⟩ := hends.mpr ⟨_, _, hall⟩
  obtain ⟨rfl, hfound⟩ := hsame found last _ _ hwalk hall
  have hshown : found = [shown, shown] := hfound.trans (by decide)
  exact ⟨c, s, hall, hshown ▸ hwalk⟩

end Search

end BusMaster
