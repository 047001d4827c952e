import BusMaster.Proofs.Properties.Lines
import BusMaster.Registry.Basic

/-!
# Which setting counts

A setting can come from five places. They are looked at in order, and the first one
that gives a value decides, whatever the others hold. A properties file counts only if
all of it can be read.

* `Registry.Setup`: all that a setting can come from;
* `Registry.Tier`, `Setup.Gives`: the five places, and what each of them gives;
* `Setup.tierValue_eq_some_iff`, `Setup.resolve_eq`: these against the registry;
* `Setup.first_tier_decides`: all together.
-/

namespace BusMaster

namespace Registry

open Properties (LastOf linesOf ofPairs)

/-- All that a setting can come from. -/
structure Setup where
  /-- What the program set, one after the other. -/
  pairs : List (String × String) := []
  useEnvironment : Bool := false
  searchPaths : List String := []
  registrations : List (Descriptor × Origin) := []
  override : Option Nat := none
  sources : Sources := {}
  bench : Workbench := {}

/-- The places that a setting can come from. -/
inductive Tier where
  /-- The adapter that overrides all. -/
  | override
  /-- What the program set. -/
  | program
  | environment
  | files
  /-- The values of last resort. -/
  | defaults
deriving DecidableEq, Repr

/-- The order in which they are looked at. -/
def Tier.order : List Tier :=
  [override, program, environment, files, defaults]

/-- The file can be read, every line of it, and gives the key that value. -/
def Defines (read : FileReader) (path key value : String) : Prop :=
  ∃ text, read path = .ok (some text) ∧ (∀ line ∈ linesOf text, ¬ line.IsMalformed) ∧
    LastOf ((linesOf text).filterMap (·.pair?)) key value

/-- The file is missing, cannot be read, or has a line that cannot be read. -/
def Unusable (read : FileReader) (path : String) : Prop :=
  read path = .ok none ∨ (∃ e, read path = .error e) ∨
    ∃ text, read path = .ok (some text) ∧ ∃ line ∈ linesOf text, line.IsMalformed

namespace Setup

variable {s s' : Setup} {key value : String}

/-- The registry that the program has set up. -/
def registry (s : Setup) : Registry where
  config :=
    { properties := ofPairs s.pairs
      useEnvironment := s.useEnvironment
      searchPaths := s.searchPaths }
  registrations := s.registrations
  override := s.override

def resolve (s : Setup) : Lookup :=
  s.registry.resolve s.sources s.bench

/-- The value that a place gives the key. -/
def Gives (s : Setup) (key value : String) : Tier → Prop
  | .override => ∃ number adapter, s.override = some number ∧
      s.bench.adapter? number = some adapter ∧
      (key = defaultAdapterKey ∧ adapter.name = value ∨
        key = defaultPortKey ∧ adapter.portName = some value)
  | .program => LastOf s.pairs key value
  | .environment => s.useEnvironment = true ∧
      s.sources.environment.lookup (environmentName key) = some (some value)
  | .files => ∃ before path since, s.searchPaths = before ++ path :: since ∧
      Defines s.sources.read path key value ∧
      ∀ earlier ∈ before, ∀ v, ¬ Defines s.sources.read earlier key v
  | .defaults => key = defaultAdapterKey ∧ simulatorName = value ∨
      key = defaultPortKey ∧ simulatorPort = value

/-! ## The places one by one -/

/-- What the registry finds in each place. -/
def tierValue (s : Setup) (key : String) : Tier → Option String
  | .override => s.registry.overrideValue s.bench key
  | .program => (ofPairs s.pairs).get? key
  | .environment =>
    if s.useEnvironment then (s.sources.environment.lookup (environmentName key)).join else none
  | .files => s.registry.config.fileValue s.sources.read key
  | .defaults => defaultValue key

/-- What a file gives, as the registry reads it. -/
def fileValue? (read : FileReader) (key path : String) : Option String :=
  match Properties.load read path with
  | .ok (some props) => props.get? key
  | _ => none

theorem fileValue?_of_unusable {read : FileReader} {path : String} (h : Unusable read path)
    (key : String) : fileValue? read key path = none := by
  rw [fileValue?, Properties.load]
  rcases h with h | ⟨e, h⟩ | ⟨text, h, line, hline, hbad⟩
  · rw [h]
  · rw [h]
  · obtain ⟨e, he⟩ := Properties.parse_of_malformed hline hbad
    simp only [h, he]

theorem fileValue?_of_readable {read : FileReader} {path text : String}
    (h : read path = .ok (some text)) (readable : ∀ line ∈ linesOf text, ¬ line.IsMalformed)
    (key : String) : fileValue? read key path =
      (ofPairs ((linesOf text).filterMap (·.pair?))).get? key := by
  rw [fileValue?, Properties.load]
  simp only [h, Properties.parse_of_readable readable]

theorem fileValue?_eq_some_iff {read : FileReader} {path : String} :
    fileValue? read key path = some value ↔ Defines read path key value := by
  by_cases h : Unusable read path
  · rw [fileValue?_of_unusable h]
    refine ⟨nofun, ?_⟩
    rintro ⟨text, hread, hreadable, -⟩
    rcases h with h | ⟨e, h⟩ | ⟨text', h, line, hline, hbad⟩
    · rw [hread] at h
      cases h
    · rw [hread] at h
      cases h
    · rw [hread] at h
      cases h
      exact absurd hbad (hreadable line hline)
  · simp only [Unusable, not_or, not_exists, not_and] at h
    obtain ⟨hmissing, hunreadable, hreadable⟩ := h
    cases hread : read path with
    | error e => exact absurd hread (hunreadable e)
    | ok content =>
      cases content with
      | none => exact absurd hread hmissing
      | some text =>
        rw [fileValue?_of_readable hread (hreadable text hread), Properties.get?_ofPairs]
        constructor
        · exact fun h => ⟨text, hread, hreadable text hread, h⟩
        · rintro ⟨text', hread', -, h⟩
          rw [hread] at hread'
          cases hread'
          exact h

theorem tierValue_files (s : Setup) (key : String) :
    s.tierValue key .files = s.searchPaths.findSome? (fileValue? s.sources.read key) :=
  rfl

theorem defaultPortKey_ne : defaultPortKey ≠ defaultAdapterKey := by decide

theorem defaultValue_eq_some_iff : defaultValue key = some value ↔
    key = defaultAdapterKey ∧ simulatorName = value ∨
      key = defaultPortKey ∧ simulatorPort = value := by
  rw [defaultValue]
  split
  · rename_i hkey
    simp [hkey, defaultPortKey_ne.symm]
  · rename_i hkey
    split
    · rename_i hport
      simp [hport, defaultPortKey_ne]
    · rename_i hport
      simp [hkey, hport]

/-- What the override says, if there is one. -/
theorem overrideValue_eq_some_iff : s.registry.overrideValue s.bench key = some value ↔
    ∃ number adapter, s.override = some number ∧ s.bench.adapter? number = some adapter ∧
      (key = defaultAdapterKey ∧ adapter.name = value ∨
        key = defaultPortKey ∧ adapter.portName = some value) := by
  simp only [overrideValue, registry, bind, Option.bind_eq_some_iff]
  constructor
  · rintro ⟨number, hnumber, adapter, hadapter, hvalue⟩
    refine ⟨number, adapter, hnumber, hadapter, ?_⟩
    split at hvalue
    · rename_i hkey
      exact .inl ⟨hkey, Option.some.inj hvalue⟩
    · split at hvalue
      · rename_i hkey
        exact .inr ⟨hkey, hvalue⟩
      · cases hvalue
  · rintro ⟨number, adapter, hnumber, hadapter, ⟨rfl, rfl⟩ | ⟨rfl, hport⟩⟩
    · exact ⟨number, hnumber, adapter, hadapter, by simp⟩
    · exact ⟨number, hnumber, adapter, hadapter, by simp [defaultPortKey_ne, hport]⟩

theorem tierValue_eq_some_iff {tier : Tier} :
    s.tierValue key tier = some value ↔ s.Gives key value tier := by
  cases tier with
  | override => exact overrideValue_eq_some_iff
  | program => exact Properties.get?_ofPairs
  | environment => simp [tierValue, Gives, Option.join_eq_some_iff]
  | files =>
    rw [tierValue_files, List.findSome?_eq_some_iff]
    simp only [fileValue?_eq_some_iff, Option.eq_none_iff_forall_ne_some, ne_eq, Gives]
  | defaults => exact defaultValue_eq_some_iff

/-- The registry looks at the places in their order. -/
theorem resolve_eq (s : Setup) (key : String) :
    s.resolve key = Tier.order.findSome? (s.tierValue key) := by
  have hchain : s.resolve key = ((((s.tierValue key .override).or
      ((s.tierValue key .program).or (s.tierValue key .environment))).or
        (s.tierValue key .files)).or (s.tierValue key .defaults)) :=
    rfl
  rw [hchain]
  simp only [Tier.order, List.findSome?_cons, List.findSome?_nil]
  cases s.tierValue key .override <;> cases s.tierValue key .program <;>
    cases s.tierValue key .environment <;> cases s.tierValue key .files <;>
    cases s.tierValue key .defaults <;> rfl

/-! ## All together -/

/-- The same value under every key, from a setup that differs in one place only: a file
that cannot be used is left out. -/
theorem resolve_without {before since : List String} {path : String}
    (paths : s.searchPaths = before ++ path :: since) (unusable : Unusable s.sources.read path) :
    ({ s with searchPaths := before ++ since } : Setup).resolve = s.resolve := by
  funext key
  have hfiles : ({ s with searchPaths := before ++ since } : Setup).tierValue key .files =
      s.tierValue key .files := by
    rw [tierValue_files, tierValue_files, paths, List.findSome?_append, List.findSome?_append,
      List.findSome?_cons, fileValue?_of_unusable unusable]
  have htiers : ({ s with searchPaths := before ++ since } : Setup).tierValue key =
      s.tierValue key := by
    funext tier
    cases tier with
    | files => exact hfiles
    | _ => rfl
  rw [resolve_eq, resolve_eq, htiers]

/-- A setting has the value that the first place in order gives which gives any: the
override, for its name and its port; what the program set last; the environment, if it
counts and the variable is a text; the first file that can be read, every line of it,
and gives the key a value, and then the last value in it; or the value of last resort.
Two setups that agree in a place that gives a value and in all before it give the same
value. A file that is missing, or cannot be read, or has one line that cannot, makes no
difference to any key. -/
theorem first_tier_decides :
    (∀ (s : Setup) (key value : String), s.resolve key = some value ↔
      ∃ higher tier lower, Tier.order = higher ++ tier :: lower ∧ s.Gives key value tier ∧
        ∀ t ∈ higher, ∀ v, ¬ s.Gives key v t) ∧
    (∀ (s s' : Setup) (key : String) (higher : List Tier) (tier : Tier) (lower : List Tier),
      Tier.order = higher ++ tier :: lower → (∃ v, s.Gives key v tier) →
      (∀ t ∈ higher ++ [tier], ∀ v, s'.Gives key v t ↔ s.Gives key v t) →
        s'.resolve key = s.resolve key) ∧
    ∀ (s : Setup) (before : List String) (path : String) (since : List String),
      s.searchPaths = before ++ path :: since → Unusable s.sources.read path →
        ({ s with searchPaths := before ++ since } : Setup).resolve = s.resolve := by
  refine ⟨fun s key value => ?_, fun s s' key higher tier lower horder hgives hagree => ?_,
    fun s before path since => resolve_without⟩
  · rw [resolve_eq, List.findSome?_eq_some_iff]
    simp only [tierValue_eq_some_iff, Option.eq_none_iff_forall_ne_some, ne_eq]
  · obtain ⟨value, hgives⟩ := hgives
    have hvalue : s.tierValue key tier = some value := tierValue_eq_some_iff.mpr hgives
    have hsame : ∀ t ∈ higher ++ [tier], s'.tierValue key t = s.tierValue key t := by
      intro t ht
      ext v
      rw [tierValue_eq_some_iff, tierValue_eq_some_iff]
      exact hagree t ht v
    have hdecided : ∀ f : Tier → Option String, f tier = some value →
        Tier.order.findSome? f = ((higher ++ [tier]).map f).findSome? id := by
      intro f hf
      rw [horder, List.findSome?_map, Function.id_comp, List.findSome?_append,
        List.findSome?_append, List.findSome?_cons, List.findSome?_cons, hf]
    rw [resolve_eq, resolve_eq, hdecided _ hvalue,
      hdecided _ ((hsame tier (by simp)).trans hvalue), List.map_congr_left hsame]

/-- The override has a name, which counts whatever the program and the files hold, but no
port. The first file gives a port, and after that has a line that cannot be read, so that
the port is that of the second file, as it is without the first. -/
theorem first_tier_decides_of_broken_file :
    let read : FileReader := fun path =>
      .ok <| if path = "broken" then some "onewire.port.default=sim1\nnote=\\u12\n"
        else some "onewire.port.default: sim2\n"
    let s : Setup :=
      { pairs := [(defaultAdapterKey, "Bench")]
        searchPaths := ["broken", "whole"]
        override := some 0
        sources := { read }
        bench := { adapters := [(Hardware.simulated 0 {}).adapter "Serial" "a bench" [{}]] } }
    let s' : Setup := { s with searchPaths := ["whole"] }
    let s'' : Setup := { s with pairs := [], searchPaths := [] }
    (Unusable read "broken" ∧ s.Gives defaultAdapterKey "Serial" .override) ∧
      s.resolve defaultAdapterKey = some "Serial" ∧
      s''.resolve defaultAdapterKey = s.resolve defaultAdapterKey ∧
      s.resolve defaultPortKey = some "sim2" ∧ s'.resolve = s.resolve := by
  intro read s s' s''
  obtain ⟨hdecides, hagree, hwithout⟩ := first_tier_decides
  have hunusable : Unusable read "broken" := by
    refine .inr (.inr ⟨_, rfl, ⟨2, "note=\\u12".toList⟩, by decide +kernel, ?_⟩)
    exact ⟨"\\u12".toList, by decide +kernel, .notEnoughDigits, by decide +kernel⟩
  have hname : s.Gives defaultAdapterKey "Serial" .override :=
    ⟨0, _, rfl, rfl, .inl ⟨rfl, rfl⟩⟩
  have hwhole : s'.resolve = s.resolve := hwithout s [] "broken" ["whole"] rfl hunusable
  refine ⟨⟨hunusable, hname⟩, ?_, ?_, ?_, hwhole⟩
  · exact (hdecides s _ _).mpr ⟨[], _, _, rfl, hname, by simp⟩
  · refine hagree s s'' defaultAdapterKey [] .override _ rfl ⟨_, hname⟩ fun t ht v => ?_
    rw [List.nil_append, List.mem_singleton] at ht
    subst ht
    exact Iff.rfl
  · rw [← hwhole]
    decide +kernel

end Setup

end Registry

end BusMaster
