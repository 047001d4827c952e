import BusMaster.Registry.Basic
import Mathlib.Data.List.Basic

/-!
# What comes of an enumeration

An enumeration goes through the built-in types and then through the registration
slots, up to the first slot with no value. Each entry gives an adapter or is skipped
with a reason.

* `Registry.slotEntry`: what a slot stands for; `Registry.entries_eq`: the entries;
* `Registry.Outcome`, `Registry.Outcomes`: what comes of one entry, and of entries
  one after the other, as a relation;
* `Registry.visitAll_eq`: the report of an enumeration against the outcomes;
* `Registry.enumeration_accounts_for_entries`: all together.
-/

namespace BusMaster

namespace Registry

variable {lookup lookup' : Lookup} {r r' : Registry}

/-! ## Entries -/

/-- The name in a slot, without the blanks around it. -/
def slotName (lookup : Lookup) (slot : Nat) : String :=
  .ofList (Text.trim ((lookup (registerKey slot)).getD "").toList)

/-- The first type that has the slot's name, built in or not. -/
def slotEntry (r : Registry) (lookup : Lookup) (slot : Nat) : Entry :=
  match r.registrations.find? (·.1.name == slotName lookup slot) with
  | some (descriptor, _) => .known descriptor
  | none => .unknown (slotName lookup slot)

/-- The number of slots before the first with no value. -/
def filledSlots (lookup : Lookup) : Nat :=
  (List.range registerSlots).findIdx fun slot => (lookup (registerKey slot)).isNone

theorem filledSlots_le (lookup : Lookup) : filledSlots lookup ≤ registerSlots := by
  have h : filledSlots lookup ≤ (List.range registerSlots).length := List.findIdx_le_length
  rwa [List.length_range] at h

theorem isSome_of_lt_filledSlots {slot : Nat} (h : slot < filledSlots lookup) :
    (lookup (registerKey slot)).isSome = true := by
  simpa using List.not_of_lt_findIdx h

theorem lookup_filledSlots (h : filledSlots lookup < registerSlots) :
    lookup (registerKey (filledSlots lookup)) = none := by
  have hlt : filledSlots lookup < (List.range registerSlots).length := by
    rwa [List.length_range]
  have hgap : (lookup (registerKey (List.range registerSlots)[filledSlots lookup])).isNone = true :=
    List.findIdx_getElem (w := hlt)
  rw [List.getElem_range] at hgap
  exact Option.isNone_iff_eq_none.mp hgap

/-- The slots with a value up to the first with none. -/
theorem slotNames_eq (lookup : Lookup) :
    slotNames lookup = (List.range (filledSlots lookup)).map (slotName lookup) := by
  have htake : (List.range registerSlots).takeWhile
      ((·.isSome) ∘ fun slot => lookup (registerKey slot)) =
        List.range (filledSlots lookup) := by
    have hgap : ((List.range registerSlots).findIdx fun slot =>
        !(lookup (registerKey slot)).isSome) = filledSlots lookup := by
      simp [filledSlots]
    rw [List.takeWhile_eq_take_findIdx_not, List.take_range]
    simp only [Function.comp_apply, hgap]
    rw [Nat.min_eq_left (filledSlots_le lookup)]
  rw [slotNames, List.takeWhile_map, List.filterMap_map, htake,
    List.filterMap_eq_map_iff_forall_eq_some]
  intro slot hslot
  obtain ⟨name, hname⟩ :=
    Option.isSome_iff_exists.mp (isSome_of_lt_filledSlots (List.mem_range.mp hslot))
  simp [hname, slotName]

theorem descriptor?_eq (r : Registry) (name : String) :
    r.descriptor? name = (r.registrations.find? (·.1.name == name)).map (·.1) := by
  rw [descriptor?, List.find?_map]
  rfl

/-- The built-in types in order, then what the slots stand for. -/
theorem entries_eq (r : Registry) (lookup : Lookup) :
    r.entries lookup = (r.registrations.filter (·.2 = .builtIn)).map (.known ·.1) ++
      (List.range (filledSlots lookup)).map (r.slotEntry lookup) := by
  rw [entries, slotNames_eq, List.map_map]
  refine congrArg _ (List.map_congr_left fun slot _ => ?_)
  rw [Function.comp_apply, descriptor?_eq, slotEntry]
  cases r.registrations.find? (·.1.name == slotName lookup slot) <;> rfl

/-! ## Outcomes -/

/-- What comes of an entry: an adapter, or a reason why there is none. -/
inductive Outcome where
  | made (adapter : Adapter Hardware)
  | skipped (skipped : Skipped)

namespace Outcome

def adapter? : Outcome → Option (Adapter Hardware)
  | made adapter => some adapter
  | skipped _ => none

def skipped? : Outcome → Option Skipped
  | made _ => none
  | skipped s => some s

/-- Each outcome is of one of the two kinds. -/
theorem length_add_length (outcomes : List Outcome) :
    (outcomes.filterMap adapter?).length + (outcomes.filterMap skipped?).length =
      outcomes.length := by
  induction outcomes with
  | nil => rfl
  | cons outcome outcomes ih =>
    cases outcome <;>
      simp only [List.filterMap_cons, adapter?, skipped?, List.length_cons] <;> omega

end Outcome

/-- What comes of entries taken up in order, and how the wires are before and after.
A factory finds the wires as those before it left them. -/
inductive Outcomes (lookup : Lookup) : Wires → List Entry → List Outcome → Wires → Prop where
  | none (wires : Wires) : Outcomes lookup wires [] [] wires
  | made {descriptor : Descriptor} {adapter : Adapter Hardware} {wires wires' wires'' : Wires}
      {entries : List Entry} {outcomes : List Outcome}
      (makes : descriptor.factory lookup wires = .ok (adapter, wires'))
      (others : Outcomes lookup wires' entries outcomes wires'') :
      Outcomes lookup wires (.known descriptor :: entries) (.made adapter :: outcomes) wires''
  | failed {descriptor : Descriptor} {e : BusError} {wires wires' : Wires}
      {entries : List Entry} {outcomes : List Outcome}
      (fails : descriptor.factory lookup wires = .error e)
      (others : Outcomes lookup wires entries outcomes wires') :
      Outcomes lookup wires (.known descriptor :: entries)
        (.skipped ⟨descriptor.name, .failed e⟩ :: outcomes) wires'
  | unregistered {name : String} {wires wires' : Wires} {entries : List Entry}
      {outcomes : List Outcome} (others : Outcomes lookup wires entries outcomes wires') :
      Outcomes lookup wires (.unknown name :: entries)
        (.skipped ⟨name, .unregistered⟩ :: outcomes) wires'

theorem exists_outcomes (lookup : Lookup) : ∀ (entries : List Entry) (wires : Wires),
    ∃ outcomes wires', Outcomes lookup wires entries outcomes wires'
  | [], wires => ⟨[], wires, .none wires⟩
  | .unknown name :: entries, wires => by
    obtain ⟨outcomes, wires', h⟩ := exists_outcomes lookup entries wires
    exact ⟨_, _, .unregistered h⟩
  | .known descriptor :: entries, wires => by
    cases hf : descriptor.factory lookup wires with
    | error e =>
      obtain ⟨outcomes, wires', h⟩ := exists_outcomes lookup entries wires
      exact ⟨_, _, .failed hf h⟩
    | ok made =>
      obtain ⟨adapter, wires'⟩ := made
      obtain ⟨outcomes, wires'', h⟩ := exists_outcomes lookup entries wires'
      exact ⟨_, _, .made hf h⟩

namespace Outcomes

variable {wires wires' : Wires} {entries : List Entry} {outcomes : List Outcome}

theorem length_eq (h : Outcomes lookup wires entries outcomes wires') :
    outcomes.length = entries.length := by
  induction h with
  | none => rfl
  | made _ _ ih | failed _ _ ih | unregistered _ ih => simp [ih]

/-- The report adds the adapters, under the numbers that come next, and what was
skipped. By induction on the outcomes. -/
theorem visitAll_eq (h : Outcomes lookup wires entries outcomes wires') (seen : Enumeration)
    {bench : Workbench} (hw : bench.wires = wires) :
    visitAll lookup entries seen bench =
      ({ adapters := seen.adapters ++
            List.range' bench.adapters.length (outcomes.filterMap (·.adapter?)).length
         skipped := seen.skipped ++ outcomes.filterMap (·.skipped?) },
        { bench with
          wires := wires'
          adapters := bench.adapters ++ outcomes.filterMap (·.adapter?) }) := by
  induction h generalizing seen bench with
  | none wires => simp [visitAll, ← hw]
  | made makes _ ih =>
    rw [visitAll, visit]
    subst hw
    simp only [makes]
    rw [ih _ rfl]
    simp [Workbench.enroll, Outcome.adapter?, Outcome.skipped?, List.range'_succ]
  | failed fails _ ih =>
    rw [visitAll, visit]
    subst hw
    simp only [fails]
    rw [ih _ rfl]
    simp [Outcome.adapter?, Outcome.skipped?]
  | unregistered _ ih =>
    rw [visitAll, visit]
    simp only
    rw [ih _ hw]
    simp [Outcome.adapter?, Outcome.skipped?]

end Outcomes

/-! ## Slots after the first gap -/

theorem registerKey_inj {slot slot' : Nat} (hslot : slot < registerSlots)
    (hslot' : slot' < registerSlots) (h : registerKey slot = registerKey slot') : slot = slot' := by
  have hall : ∀ i < registerSlots, ∀ j < registerSlots, registerKey i = registerKey j → i = j := by
    decide +kernel
  exact hall slot hslot slot' hslot' h

/-- The two differ at most in the values of the slots after `last`. -/
def AgreeUpTo (last : Nat) (lookup lookup' : Lookup) : Prop :=
  ∀ key, (∀ slot < registerSlots, last < slot → key ≠ registerKey slot) → lookup' key = lookup key

/-- The factory does not look at the slots. -/
def Descriptor.IgnoresSlots (descriptor : Descriptor) : Prop :=
  ∀ lookup lookup' : Lookup,
    (∀ key, (∀ slot < registerSlots, key ≠ registerKey slot) → lookup' key = lookup key) →
      descriptor.factory lookup' = descriptor.factory lookup

theorem Descriptor.simulated_ignoresSlots (name : String) : (simulated name).IgnoresSlots := by
  intro lookup lookup' h
  have hdevices : lookup' devicesKey = lookup devicesKey := h _ (by decide +kernel)
  have halarming : lookup' alarmingKey = lookup alarmingKey := h _ (by decide +kernel)
  simp only [simulated, addressList, hdevices, halarming]

theorem Descriptor.onWire_ignoresSlots (name : String) (wire : Nat) :
    (onWire name wire).IgnoresSlots :=
  fun _ _ _ => rfl

/-- There is one place where the first gap is. -/
theorem filledSlots_unique {k : Nat} (hk : k ≤ registerSlots)
    (filled : ∀ slot < k, (lookup (registerKey slot)).isSome = true)
    (gap : k < registerSlots → lookup (registerKey k) = none) : filledSlots lookup = k := by
  rcases Nat.lt_trichotomy (filledSlots lookup) k with h | h | h
  · have hnone : lookup (registerKey (filledSlots lookup)) = none := lookup_filledSlots (by omega)
    have hsome := filled _ h
    rw [hnone] at hsome
    cases hsome
  · exact h
  · have hsome := isSome_of_lt_filledSlots h
    rw [gap (by have := filledSlots_le lookup; omega)] at hsome
    cases hsome

namespace AgreeUpTo

/-- A slot that is not after `last` has the same value. -/
theorem lookup_eq {last slot : Nat} (h : AgreeUpTo last lookup lookup') (hle : slot ≤ last)
    (hslot : slot < registerSlots) : lookup' (registerKey slot) = lookup (registerKey slot) := by
  refine h _ fun later hlater hlt he => ?_
  have := registerKey_inj hslot hlater he
  omega

theorem filledSlots_eq (h : AgreeUpTo (filledSlots lookup) lookup lookup') :
    filledSlots lookup' = filledSlots lookup := by
  have hle := filledSlots_le lookup
  refine filledSlots_unique hle (fun slot hslot => ?_) fun hgap => ?_
  · rw [h.lookup_eq (Nat.le_of_lt hslot) (by omega)]
    exact isSome_of_lt_filledSlots hslot
  · rw [h.lookup_eq (Nat.le_refl _) hgap]
    exact lookup_filledSlots hgap

theorem entries_eq (h : AgreeUpTo (filledSlots lookup) lookup lookup')
    (registrations : r'.registrations = r.registrations) :
    r'.entries lookup' = r.entries lookup := by
  have hle := filledSlots_le lookup
  rw [Registry.entries_eq, Registry.entries_eq, h.filledSlots_eq, registrations]
  refine congrArg _ (List.map_congr_left fun slot hslot => ?_)
  have hlt : slot < filledSlots lookup := List.mem_range.mp hslot
  have hname : slotName lookup' slot = slotName lookup slot := by
    rw [slotName, slotName, h.lookup_eq (Nat.le_of_lt hlt) (by omega)]
  rw [slotEntry, slotEntry, hname, registrations]

end AgreeUpTo

/-- Each type that an enumeration takes up is registered. -/
theorem mem_registrations_of_entry {descriptor : Descriptor}
    (h : .known descriptor ∈ r.entries lookup) :
    ∃ origin, (descriptor, origin) ∈ r.registrations := by
  rw [entries_eq, List.mem_append, List.mem_map, List.mem_map] at h
  rcases h with ⟨⟨d, origin⟩, hmem, he⟩ | ⟨slot, -, he⟩
  · cases he
    exact ⟨origin, (List.mem_filter.mp hmem).1⟩
  · rw [slotEntry] at he
    cases hfind : r.registrations.find? (·.1.name == slotName lookup slot) with
    | none =>
      rw [hfind] at he
      cases he
    | some found =>
      rw [hfind] at he
      cases he
      exact ⟨found.2, List.mem_of_find?_eq_some hfind⟩

theorem visitAll_congr {entries : List Entry}
    (h : ∀ descriptor, .known descriptor ∈ entries →
      descriptor.factory lookup' = descriptor.factory lookup) (seen : Enumeration)
    (bench : Workbench) :
    visitAll lookup' entries seen bench = visitAll lookup entries seen bench := by
  induction entries generalizing seen bench with
  | nil => rfl
  | cons entry entries ih =>
    have hvisit : visit lookup' entry seen bench = visit lookup entry seen bench := by
      cases entry with
      | unknown name => rfl
      | known descriptor => rw [visit, visit, h descriptor List.mem_cons_self]
    rw [visitAll, visitAll, hvisit]
    exact ih (fun descriptor hd => h descriptor (List.mem_cons_of_mem _ hd)) _ _

/-! ## All together -/

/-- The numbers after those of the adapters before are those of the new ones. -/
theorem map_adapter?_range' (bench : Workbench) (wires : Wires) (made : List (Adapter Hardware)) :
    let bench' : Workbench := { bench with wires, adapters := bench.adapters ++ made }
    (List.range' bench.adapters.length made.length).map bench'.adapter? = made.map some := by
  intro bench'
  refine List.ext_getElem (by simp) fun i hi _ => ?_
  have hi : i < made.length := by simpa using hi
  simp [bench', Workbench.adapter?, hi]

theorem enumerate_eq (plain : r.override = none) (sources : Sources) (bench : Workbench) :
    r.enumerate sources bench =
      visitAll (r.resolve sources bench) (r.entries (r.resolve sources bench)) {} bench := by
  rw [enumerate, plain]

/-- An enumeration without an override. There is a number `k` of slots with a value
before the first without one, all slots if each has a value; and the entries are the
built-in types in order and then what those `k` slots stand for. Each entry has one
outcome: the adapters reported are those made, in the order of their entries and all of
them new, and what is reported as skipped are the other entries with their reasons, in
their order. Together they are as many as the entries. If no factory looks at the slots,
nothing in the slots after the first gap changes the report. -/
theorem enumeration_accounts_for_entries (r : Registry) (plain : r.override = none)
    (sources : Sources) (bench : Workbench) :
    let lookup := r.resolve sources bench
    let builtIns := r.registrations.filter (·.2 = .builtIn)
    let report := (r.enumerate sources bench).1
    let bench' := (r.enumerate sources bench).2
    ∃ k ≤ registerSlots,
      (∀ slot < k, (lookup (registerKey slot)).isSome = true) ∧
      (k < registerSlots → lookup (registerKey k) = none) ∧
      (∃ outcomes,
        Outcomes lookup bench.wires
          (builtIns.map (.known ·.1) ++ (List.range k).map (r.slotEntry lookup)) outcomes
          bench'.wires ∧
        report.adapters.map bench'.adapter? = (outcomes.filterMap (·.adapter?)).map some ∧
        (∀ number ∈ report.adapters, bench.adapter? number = none) ∧
        bench.adapters <+: bench'.adapters ∧
        report.skipped = outcomes.filterMap (·.skipped?) ∧
        report.adapters.length + report.skipped.length = builtIns.length + k) ∧
      ((∀ registration ∈ r.registrations, registration.1.IgnoresSlots) →
        ∀ (r' : Registry) (sources' : Sources), r'.override = none →
          r'.registrations = r.registrations →
          AgreeUpTo k lookup (r'.resolve sources' bench) →
            r'.enumerate sources' bench = r.enumerate sources bench) := by
  intro lookup builtIns report bench'
  refine ⟨filledSlots lookup, filledSlots_le lookup, fun slot => isSome_of_lt_filledSlots,
    lookup_filledSlots, ?_, fun ignores r' sources' plain' registrations agree => ?_⟩
  · obtain ⟨outcomes, wires, h⟩ := exists_outcomes lookup (r.entries lookup) bench.wires
    have he := (enumerate_eq plain sources bench).trans (h.visitAll_eq {} rfl)
    have hlength := h.length_eq
    rw [entries_eq] at h hlength
    have hbench : bench' = _ := congrArg Prod.snd he
    have hreport : report = _ := congrArg Prod.fst he
    have hadapters : report.adapters =
        List.range' bench.adapters.length (outcomes.filterMap (·.adapter?)).length := by
      rw [hreport]
      exact List.nil_append _
    have hskipped : report.skipped = outcomes.filterMap (·.skipped?) := by
      rw [hreport]
      exact List.nil_append _
    refine ⟨outcomes, ?_, ?_, fun number hnumber => ?_, ?_, hskipped, ?_⟩
    · rw [hbench]
      exact h
    · rw [hadapters, hbench]
      exact map_adapter?_range' bench wires _
    · rw [hadapters, List.mem_range'_1] at hnumber
      exact List.getElem?_eq_none hnumber.1
    · rw [hbench]
      exact List.prefix_append _ _
    · rw [hadapters, hskipped, List.length_range', Outcome.length_add_length, hlength]
      simp [builtIns]
  · rw [enumerate_eq plain', enumerate_eq plain, agree.entries_eq registrations]
    refine visitAll_congr (fun descriptor hd => ?_) _ _
    obtain ⟨origin, hmem⟩ := mem_registrations_of_entry hd
    exact ignores _ hmem _ _ fun key hkey => agree key fun slot hslot _ => hkey slot hslot

/-- A built-in type that fails, two types of one name, a slot that names none of them and
a gap before slot 3: the first two slots count, and what slot 3 names makes no
difference. -/
theorem enumeration_accounts_for_entries_of_gap :
    let broken : Descriptor :=
      { name := "Serial", portType := "nowhere", capabilities := {}
        factory := fun _ _ => .error (.io "no hardware") }
    let registrations : List (Descriptor × Origin) := [(broken, .builtIn),
      (.simulated "Bench", .builtIn), (.onWire "Bench" 0, .named)]
    let named (slots : List (Nat × String)) : Registry :=
      { config := { properties := ⟨slots.map fun (slot, name) => (registerKey slot, name)⟩
                    searchPaths := [] }
        registrations }
    let r := named [(0, " Bench"), (1, "Nowhere"), (3, "Serial")]
    let r' := named [(0, " Bench"), (1, "Nowhere"), (3, "Bench")]
    (r.override = none ∧ r'.override = none ∧
      ∀ registration ∈ r.registrations, registration.1.IgnoresSlots) ∧
      (r.enumerate {} {}).1.adapters.length + (r.enumerate {} {}).1.skipped.length = 4 ∧
      (r.enumerate {} {}).1.skipped =
        [⟨"Serial", .failed (.io "no hardware")⟩, ⟨"Nowhere", .unregistered⟩] ∧
      r'.enumerate {} {} = r.enumerate {} {} := by
  intro broken registrations named r r'
  have ignores : ∀ registration ∈ r.registrations, registration.1.IgnoresSlots := by
    simp only [r, named, registrations, List.mem_cons, List.not_mem_nil, or_false]
    rintro registration (rfl | rfl | rfl)
    · exact fun _ _ _ => rfl
    · exact Descriptor.simulated_ignoresSlots _
    · exact Descriptor.onWire_ignoresSlots _ _
  obtain ⟨k, -, hfilled, hgap, ⟨outcomes, -, -, -, -, -, hlength⟩, hignored⟩ :=
    enumeration_accounts_for_entries r rfl {} {}
  have hempty : r.resolve {} {} (registerKey 2) = none := by decide +kernel
  have hnamed : ∀ slot < 2, (r.resolve {} {} (registerKey slot)).isSome = true := by
    decide +kernel
  have hk : k = 2 := by
    rcases Nat.lt_trichotomy k 2 with h | h | h
    · have hsome := hnamed k h
      rw [hgap (Nat.lt_trans h (by decide))] at hsome
      cases hsome
    · exact h
    · have hsome := hfilled 2 h
      rw [hempty] at hsome
      cases hsome
  subst hk
  refine ⟨⟨rfl, rfl, ignores⟩, hlength.trans (by decide +kernel), by decide +kernel, ?_⟩
  refine hignored ignores r' {} rfl rfl fun key hkey => ?_
  have hthree : (key == registerKey 3) = false := beq_false_of_ne (hkey 3 (by decide) (by decide))
  have hget : r'.config.properties.get? key = r.config.properties.get? key := by
    simp [r, r', named, Properties.get?, List.lookup_cons, hthree]
  simp only [resolve, Config.runtimeValue, hget]
  rfl

end Registry

end BusMaster
