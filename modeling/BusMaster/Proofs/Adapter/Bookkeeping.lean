import BusMaster.Proofs.Adapter.History

/-!
# Counters and copies

A wire counts the ports that its drivers have selected, each adapter keeps a copy of its
driver's port, and the wire lists its devices. However the parties and the world outside
take turns, the three stay true.

* `Site.Booked`: the count and the list, kept by every turn (`Booked.turn`);
* `Site.inStep_move`: the copies of the adapters;
* `Site.bookkeeping`: all together, after every history.
-/

namespace BusMaster

namespace Site

open Network (Listed OnWire AttachedAt)

variable {s s' : Site} {m : Move} {history : List Move}

/-! ## The wire's books -/

/-- The wire counts the selected ports, and lists the devices that the changes so far
have left there. -/
structure Booked (changes : List Network.Change) (s : Site) : Prop where
  attachedPorts : s.net.attachedPorts = s.parties.countP (·.selected.isSome)
  listed : Listed changes s.net.addresses

theorem booked_bare : Booked [] bare :=
  ⟨rfl, Network.listed_nil⟩

theorem countP_selected_cons (drv : Driver) (others : List Driver) :
    (drv :: others).countP (·.selected.isSome) =
      others.countP (·.selected.isSome) + drv.selected.isSome.toNat := by
  rw [List.countP_cons]
  cases drv.selected.isSome <;> rfl

/-- A change from outside moves the list and no port, and the work of a party its own
port and no device. -/
theorem Booked.turn {changes : List Network.Change} (h : Booked changes s)
    (turn : Turn s s' m) : Booked (changes ++ m.change?.toList) s' := by
  have hsame : m.change? = none → changes ++ m.change?.toList = changes := by
    intro hm
    rw [hm]
    exact List.append_nil changes
  cases turn with
  | changes change net parties =>
    refine ⟨?_, ?_⟩
    · rw [net, parties, change.attachedPorts_run, h.attachedPorts]
    · rw [net]
      exact h.listed.run change
  | joins ports capabilities net parties =>
    rw [hsame rfl]
    refine ⟨?_, net ▸ h.listed⟩
    rw [net, parties.countP_eq, countP_selected_cons, h.attachedPorts]
    rfl
  | stays quiet net parties =>
    rw [hsame quiet]
    refine ⟨?_, net ▸ h.listed⟩
    rw [net, parties.countP_eq, h.attachedPorts]
  | works drv drv' others quiet before after effect addresses =>
    rw [hsame quiet]
    refine ⟨?_, addresses ▸ h.listed⟩
    rw [after.countP_eq, countP_selected_cons]
    refine effect.attachedPorts _ ?_
    rw [h.attachedPorts, before.countP_eq, countP_selected_cons]

/-- By induction on the history, the latest move last. -/
theorem booked_after (history : List Move) : Booked (changes history) (after history) := by
  induction history using List.reverseRecOn with
  | nil => exact booked_bare
  | append_singleton history m ih =>
    rw [changes_snoc, after_snoc]
    exact ih.turn (turn_move _ m)

/-! ## The copies of the adapters -/

/-- A move leaves the copies of every adapter true, and those of a new one are. -/
theorem inStep_move (h : ∀ a ∈ s.adapters, (a.onWire s.net).arbiter.resource.InStep) (m : Move) :
    ∀ a ∈ (s.move m).adapters, (a.onWire (s.move m).net).arbiter.resource.InStep := by
  have hset : ∀ (net : Network) (a' : Adapter (Driver × List Call)) (i : Nat),
      (a'.onWire net).arbiter.resource.InStep →
      ∀ a ∈ s.adapters.set i a', (a.onWire net).arbiter.resource.InStep := by
    intro net a' i ha' a ha
    rcases List.mem_or_eq_of_mem_set ha with ha | rfl
    · exact ⟨(h a ha).port, (h a ha).capabilities⟩
    · exact ha'
  cases m with
  | join ports capabilities => exact h
  | adapt number name portType =>
    rw [move]
    cases s.drivers[number]? with
    | none => exact h
    | some drv =>
      intro a ha
      rcases List.mem_append.mp ha with ha | ha
      · exact h a ha
      · rw [List.mem_singleton.mp ha]
        have hnew := Adapter.inStep_create name portType ((s.net, drv), [])
        exact ⟨hnew.port, hnew.capabilities⟩
  | step step =>
    cases step with
    | adapter i action =>
      cases hi : s.adapters[i]? with
      | none =>
        rw [move, act, hi]
        exact h
      | some a =>
        rw [move, act_adapter hi]
        have hrun := action.run_inStep (h a (List.mem_of_getElem? hi))
        exact hset _ _ i ⟨hrun.port, hrun.capabilities⟩
    | driver j action =>
      rw [move, act]
      cases s.drivers[j]? with
      | none => exact h
      | some drv => exact fun a ha => ⟨(h a ha).port, (h a ha).capabilities⟩
  | change change => exact fun a ha => ⟨(h a ha).port, (h a ha).capabilities⟩

theorem inStep_after (history : List Move) : ∀ a ∈ (after history).adapters,
    (a.onWire (after history).net).arbiter.resource.InStep := by
  induction history using List.reverseRecOn with
  | nil => exact fun a ha => absurd ha List.not_mem_nil
  | append_singleton history m ih =>
    rw [after_snoc]
    exact inStep_move ih m

/-! ## All together -/

/-- After every history, the wire counts the drivers that have a port selected, so that
the count is never taken below zero, every adapter's copy of the port is its driver's
port, and the wire lists the devices that were attached and not removed since, each
once, those first that came first. -/
theorem bookkeeping (history : List Move) :
    let s := after history
    s.net.attachedPorts = s.parties.countP (·.selected.isSome) ∧
    (∀ drv ∈ s.parties, drv.selected.isSome = true → 0 < s.net.attachedPorts) ∧
    (∀ a ∈ s.adapters, a.portName = a.line.1.selected) ∧
    s.net.addresses.Nodup ∧
    (∀ a, a ∈ s.net.addresses ↔ OnWire (changes history) a) ∧
    s.net.addresses.Pairwise fun a b => ∃ m n,
      AttachedAt (changes history) a m ∧ AttachedAt (changes history) b n ∧ m < n := by
  intro s
  have hbooked := booked_after history
  refine ⟨hbooked.attachedPorts, fun drv hdrv hport => ?_,
    fun a ha => (inStep_after history a ha).port, hbooked.listed.nodup, hbooked.listed.mem_iff,
    hbooked.listed.ordered⟩
  rw [hbooked.attachedPorts]
  exact List.countP_pos_iff.mpr ⟨drv, hdrv, hport⟩

/-- Two ports are counted when an adapter has moved from one to another and a driver beside
it has taken one. Freeing the adapter's port twice takes away one. -/
example :
    let taken : List Move :=
      [.join ["a", "b"] {}, .join ["c"] {}, .adapt 0 "Bench" "test bus",
        .step (.adapter 0 (.selectPort "a")), .step (.driver 0 (.perform (.selectPort "c"))),
        .step (.adapter 0 (.selectPort "b"))]
    let freed := taken ++ [.step (.adapter 0 .freePort), .step (.adapter 0 .freePort)]
    ((after taken).net.attachedPorts = 2 ∧
      (after taken).adapters.map (·.portName) = [some "b"]) ∧
    (after freed).net.attachedPorts = 1 ∧ (after freed).adapters.map (·.portName) = [none] := by
  decide

/-- A device that comes back is listed last, and one that is attached again while it is
there stays in its place. -/
example : (after [.change (.attach ⟨1⟩ false), .change (.attach ⟨2⟩ false),
    .change (.attach ⟨3⟩ false), .change (.detach ⟨1⟩), .change (.attach ⟨1⟩ true),
    .change (.attach ⟨2⟩ true)]).net.addresses = [⟨2⟩, ⟨3⟩, ⟨1⟩] := by
  decide

end Site

end BusMaster
