import BusMaster.Proofs.Record
import BusMaster.Proofs.Wire.Frame

/-!
# The devices of a wire, in the order in which they came

A wire lists its devices. The list is told by what was done to the wire from outside:
which devices were attached and not removed since, each once, and those first that
have been there longest.

* `Network.Change`: what can be done to a wire from outside;
* `OnWire`, `AttachedAt`: whether and since when a device is there, told by the
  changes alone;
* `Network.Listed`: the list against the changes, kept by each of them
  (`Listed.run`).
-/

namespace BusMaster

namespace Network

/-- A change of the wire from outside. -/
inductive Change where
  | attach (a : Address) (alarming : Bool)
  | detach (a : Address)
  | setAlarming (a : Address) (alarming : Bool)
  | queueResponse (a : Address) (bytes : List UInt8)
  | setAdapterPresent (adapterPresent : Bool)
  | setPortError (portError : Bool)
  | setProbeError (probeError : Bool)
  | setShort (short : Bool)
  | clearTraffic
deriving DecidableEq, Repr

/-- What becomes of the wire. -/
def Change.run (net : Network) : Change → Network
  | attach a alarming => net.attach a alarming
  | detach a => (net.detach a).2
  | setAlarming a alarming => (net.setAlarming a alarming).2
  | queueResponse a bytes => (net.queueResponse a bytes).2
  | setAdapterPresent adapterPresent => { net with adapterPresent }
  | setPortError portError => { net with portError }
  | setProbeError probeError => { net with probeError }
  | setShort short => { net with short }
  | clearTraffic => { net with traffic := [] }

variable {net : Network} {changes : List Change} {c : Change} {a b : Address} {n : Nat}

/-! ## What a change does to the list -/

theorem addresses_modify (net : Network) (a : Address) {change : WireDevice → WireDevice}
    (h : ∀ d, (change d).address = d.address) :
    (net.modify a change).addresses = net.addresses := by
  rw [addresses, modify, List.map_map]
  refine List.map_congr_left fun d _ => ?_
  simp only [Function.comp_apply]
  split
  · exact h d
  · rfl

theorem addresses_attach (net : Network) (a : Address) (alarming : Bool) :
    (net.attach a alarming).addresses =
      if a ∈ net.addresses then net.addresses else net.addresses ++ [a] := by
  rw [attach, isAttached]
  by_cases h : a ∈ net.addresses
  · rw [if_pos (List.contains_iff_mem.mpr h), if_pos h]
    exact net.addresses_modify a fun _ => rfl
  · rw [if_neg (mt List.contains_iff_mem.mp h), if_neg h, addresses, List.map_append]
    rfl

theorem addresses_detach (net : Network) (a : Address) :
    (net.detach a).2.addresses = net.addresses.filter (· != a) := by
  rw [detach, addresses, addresses, List.filter_map]
  rfl

/-- Only attaching and removing devices moves the list. -/
theorem Change.addresses_run (attach : ∀ a alarming, c ≠ .attach a alarming)
    (detach : ∀ a, c ≠ .detach a) : (c.run net).addresses = net.addresses := by
  cases c with
  | attach a alarming => exact absurd rfl (attach a alarming)
  | detach a => exact absurd rfl (detach a)
  | setAlarming a alarming => exact net.addresses_modify a fun _ => rfl
  | queueResponse a bytes => exact net.addresses_modify a fun _ => rfl
  | setAdapterPresent | setPortError | setProbeError | setShort | clearTraffic => rfl

/-- No change from outside selects a port for a driver. -/
theorem Change.attachedPorts_run (c : Change) (net : Network) :
    (c.run net).attachedPorts = net.attachedPorts := by
  cases c with
  | attach a alarming =>
    rw [run, Network.attach]
    split <;> rfl
  | detach | setAlarming | queueResponse | setAdapterPresent | setPortError | setProbeError
  | setShort | clearTraffic => rfl

/-- Nor does one make traffic, or switch power. -/
theorem Change.run_silent (c : Change) (net : Network) (h : c ≠ .clearTraffic) :
    (c.run net).traffic = net.traffic ∧ (c.run net).strongPullup = net.strongPullup ∧
      (c.run net).programPulses = net.programPulses := by
  cases c with
  | attach a alarming =>
    rw [run, Network.attach]
    split <;> exact ⟨rfl, rfl, rfl⟩
  | clearTraffic => exact absurd rfl h
  | detach | setAlarming | queueResponse | setAdapterPresent | setPortError | setProbeError
  | setShort => exact ⟨rfl, rfl, rfl⟩

/-! ## The changes as a record -/

/-- The device was attached and has not been removed since. -/
def OnWire (changes : List Change) (a : Address) : Prop :=
  ∃ before alarming since, changes = before ++ .attach a alarming :: since ∧ .detach a ∉ since

/-- The change at place `n` attached the device, which was not there before and has
not been removed since. -/
def AttachedAt (changes : List Change) (a : Address) (n : Nat) : Prop :=
  ∃ before alarming since, changes = before ++ .attach a alarming :: since ∧ .detach a ∉ since ∧
    before.length = n ∧ ¬ OnWire before a

theorem not_onWire_nil (a : Address) : ¬ OnWire [] a := by
  rintro ⟨before, alarming, since, h, -⟩
  simp at h

theorem onWire_snoc : OnWire (changes ++ [c]) a ↔
    (∃ alarming, c = .attach a alarming) ∨ c ≠ .detach a ∧ OnWire changes a := by
  constructor
  · rintro ⟨before, alarming, since, h, hno⟩
    rcases split_snoc h with ⟨-, hc, -⟩ | ⟨since, rfl, hchanges⟩
    · exact .inl ⟨alarming, hc.symm⟩
    · rw [List.mem_append, not_or, List.mem_singleton] at hno
      exact .inr ⟨Ne.symm hno.2, before, alarming, since, hchanges, hno.1⟩
  · rintro (⟨alarming, rfl⟩ | ⟨hne, before, alarming, since, rfl, hno⟩)
    · exact ⟨changes, alarming, [], rfl, List.not_mem_nil⟩
    · refine ⟨before, alarming, since ++ [c], List.append_assoc _ _ _, ?_⟩
      rw [List.mem_append, not_or, List.mem_singleton]
      exact ⟨hno, Ne.symm hne⟩

theorem attachedAt_snoc : AttachedAt (changes ++ [c]) a n ↔
    (∃ alarming, c = .attach a alarming) ∧ n = changes.length ∧ ¬ OnWire changes a ∨
      c ≠ .detach a ∧ AttachedAt changes a n := by
  constructor
  · rintro ⟨before, alarming, since, h, hno, rfl, hbefore⟩
    rcases split_snoc h with ⟨rfl, hc, -⟩ | ⟨since, rfl, hchanges⟩
    · exact .inl ⟨⟨alarming, hc.symm⟩, rfl, hbefore⟩
    · rw [List.mem_append, not_or, List.mem_singleton] at hno
      exact .inr ⟨Ne.symm hno.2, before, alarming, since, hchanges, hno.1, rfl, hbefore⟩
  · rintro (⟨⟨alarming, rfl⟩, rfl, hno⟩ | ⟨hne, before, alarming, since, rfl, hno, hn, hbefore⟩)
    · exact ⟨changes, alarming, [], rfl, List.not_mem_nil, rfl, hno⟩
    · refine ⟨before, alarming, since ++ [c], List.append_assoc _ _ _, ?_, hn, hbefore⟩
      rw [List.mem_append, not_or, List.mem_singleton]
      exact ⟨hno, Ne.symm hne⟩

theorem AttachedAt.lt (h : AttachedAt changes a n) : n < changes.length := by
  obtain ⟨before, alarming, since, rfl, -, rfl, -⟩ := h
  simp

/-- A device that is there came at some time, by induction on the changes. -/
theorem exists_attachedAt (h : OnWire changes a) : ∃ n, AttachedAt changes a n := by
  induction changes using List.reverseRecOn with
  | nil => exact absurd h (not_onWire_nil a)
  | append_singleton changes c ih =>
    rcases onWire_snoc.mp h with ⟨alarming, rfl⟩ | ⟨hne, hon⟩
    · by_cases hon : OnWire changes a
      · obtain ⟨n, hn⟩ := ih hon
        exact ⟨n, attachedAt_snoc.mpr (.inr ⟨nofun, hn⟩)⟩
      · exact ⟨changes.length, attachedAt_snoc.mpr (.inl ⟨⟨alarming, rfl⟩, rfl, hon⟩)⟩
    · obtain ⟨n, hn⟩ := ih hon
      exact ⟨n, attachedAt_snoc.mpr (.inr ⟨hne, hn⟩)⟩

theorem AttachedAt.onWire (h : AttachedAt changes a n) : OnWire changes a := by
  obtain ⟨before, alarming, since, hchanges, hno, -⟩ := h
  exact ⟨before, alarming, since, hchanges, hno⟩

/-- It came at one time only. -/
theorem AttachedAt.unique {m : Nat} (hm : AttachedAt changes a m) (hn : AttachedAt changes a n) :
    m = n := by
  induction changes using List.reverseRecOn with
  | nil => exact absurd hm.onWire (not_onWire_nil a)
  | append_singleton changes c ih =>
    rcases attachedAt_snoc.mp hm with ⟨-, hlast, hnew⟩ | ⟨-, hm⟩ <;>
      rcases attachedAt_snoc.mp hn with ⟨-, hlast', hnew'⟩ | ⟨-, hn⟩
    · rw [hlast, hlast']
    · exact absurd hn.onWire hnew
    · exact absurd hm.onWire hnew'
    · exact ih hm hn

/-! ## The list against the record -/

/-- The wire lists the devices that are there in the order in which they came. -/
structure Listed (changes : List Change) (addresses : List Address) : Prop where
  mem_iff : ∀ a, a ∈ addresses ↔ OnWire changes a
  ordered : addresses.Pairwise fun a b =>
    ∃ m n, AttachedAt changes a m ∧ AttachedAt changes b n ∧ m < n

theorem listed_nil : Listed [] [] where
  mem_iff a := iff_of_false List.not_mem_nil (not_onWire_nil a)
  ordered := .nil

/-- No device is listed twice, since none came before itself. -/
theorem Listed.nodup {addresses : List Address} (h : Listed changes addresses) :
    addresses.Nodup := by
  refine h.ordered.imp ?_
  rintro a _ ⟨m, n, hm, hn, hlt⟩ rfl
  exact Nat.ne_of_lt hlt (hm.unique hn)

/-- A change that removes no device leaves the order of those that are there. -/
theorem Listed.ordered_snoc {addresses : List Address} (h : Listed changes addresses)
    (hc : ∀ a ∈ addresses, c ≠ .detach a) : addresses.Pairwise fun a b =>
      ∃ m n, AttachedAt (changes ++ [c]) a m ∧ AttachedAt (changes ++ [c]) b n ∧ m < n := by
  refine h.ordered.imp_of_mem fun {a b} ha hb hab => ?_
  obtain ⟨m, n, hm, hn, hlt⟩ := hab
  exact ⟨m, n, attachedAt_snoc.mpr (.inr ⟨hc a ha, hm⟩),
    attachedAt_snoc.mpr (.inr ⟨hc b hb, hn⟩), hlt⟩

theorem Listed.attach (h : Listed changes net.addresses) (a : Address) (alarming : Bool) :
    Listed (changes ++ [.attach a alarming]) (net.attach a alarming).addresses := by
  have hordered := h.ordered_snoc (c := .attach a alarming) fun _ _ => nofun
  have hmem : ∀ b, OnWire (changes ++ [.attach a alarming]) b ↔ b = a ∨ b ∈ net.addresses := by
    intro b
    rw [onWire_snoc, h.mem_iff b]
    simp [eq_comm]
  rw [addresses_attach]
  split
  · rename_i ha
    refine ⟨fun b => ?_, hordered⟩
    rw [hmem]
    exact ⟨.inr, fun hb => hb.elim (fun heq => heq ▸ ha) id⟩
  · rename_i ha
    refine ⟨fun b => ?_, ?_⟩
    · rw [hmem, List.mem_append, List.mem_singleton, or_comm]
    · rw [List.pairwise_append]
      refine ⟨hordered, List.pairwise_singleton _ a, fun b hb c hc => ?_⟩
      rw [List.mem_singleton.mp hc]
      -- Whatever was there before the new device came earlier.
      obtain ⟨m, hm⟩ := exists_attachedAt ((h.mem_iff b).mp hb)
      exact ⟨m, changes.length, attachedAt_snoc.mpr (.inr ⟨nofun, hm⟩),
        attachedAt_snoc.mpr (.inl ⟨⟨alarming, rfl⟩, rfl, mt (h.mem_iff a).mpr ha⟩), hm.lt⟩

theorem Listed.detach (h : Listed changes net.addresses) (a : Address) :
    Listed (changes ++ [.detach a]) (net.detach a).2.addresses := by
  rw [addresses_detach]
  refine ⟨fun b => ?_, ?_⟩
  · rw [onWire_snoc, List.mem_filter, h.mem_iff b]
    simp [and_comm, eq_comm (a := a)]
  · refine (h.ordered.filter _).imp_of_mem fun {b c} hb hc hbc => ?_
    have hb : b ≠ a := by simpa using (List.mem_filter.mp hb).2
    have hc : c ≠ a := by simpa using (List.mem_filter.mp hc).2
    obtain ⟨m, n, hm, hn, hlt⟩ := hbc
    exact ⟨m, n, attachedAt_snoc.mpr (.inr ⟨by simpa using hb.symm, hm⟩),
      attachedAt_snoc.mpr (.inr ⟨by simpa using hc.symm, hn⟩), hlt⟩

/-- Every change keeps the list in step with the record. -/
theorem Listed.run (h : Listed changes net.addresses) (c : Change) :
    Listed (changes ++ [c]) (c.run net).addresses := by
  by_cases hattach : ∃ a alarming, c = .attach a alarming
  · obtain ⟨a, alarming, rfl⟩ := hattach
    exact h.attach a alarming
  by_cases hdetach : ∃ a, c = .detach a
  · obtain ⟨a, rfl⟩ := hdetach
    exact h.detach a
  simp only [not_exists] at hattach hdetach
  rw [c.addresses_run hattach hdetach]
  refine ⟨fun a => ?_, h.ordered_snoc fun a _ => hdetach a⟩
  rw [onWire_snoc, h.mem_iff a]
  simp [hattach, hdetach]

end Network

end BusMaster
