import BusMaster.Proofs.Adapter.Copies
import BusMaster.Proofs.Wire.Attachment

/-!
# Histories of a wire

A wire starts empty. Drivers join it, adapters are made of drivers, the parties take
their steps in any order, and the wire itself is changed from outside. Nobody leaves.

* `Site.Move`, `Site.after`: what can happen, and what it comes to;
* `Site.parties`: the drivers on the wire, with an adapter or without;
* `Site.Turn`, `Site.turn_move`: all that one move can do to the wire and its
  parties. Whatever each turn keeps holds after every history.
-/

namespace BusMaster

open Driver (Effect recorded)

/-! ## The effect of a step -/

/-- Whatever an adapter does, its driver's work is logged and counted. -/
theorem Adapter.Action.run_effect (a : Adapter ((Network × Driver) × List Call))
    (action : Action) : Effect a.line.1 (action.run recorded a).2.line.1 := by
  have hkeeps : recorded.Keeps fun s => Effect a.line.1 s.1 :=
    ⟨fun _ _ h => h, fun primitive s h => h.trans (Driver.perform_effect primitive s.1)⟩
  exact action.run_keeps a hkeeps (fun s hs => hs.trans (Driver.beginExclusive_effect s.1))
    (fun s hs => hs.trans (Driver.endExclusive_effect s.1)) (.refl _)

theorem Driver.Action.run_effect (action : Driver.Action) (s : Network × Driver) :
    Effect s (action.run s).2 := by
  cases action with
  | begin => exact Driver.beginExclusive_effect s
  | finish => exact Driver.endExclusive_effect s
  | perform primitive => exact Driver.perform_effect primitive s

theorem Network.addresses_eq_of_population {net net' : Network}
    (h : net'.population = net.population) : net'.addresses = net.addresses := by
  have hmap := congrArg (List.map (·.1)) h
  rwa [Network.population, Network.population, List.map_map, List.map_map] at hmap

namespace Site

/-! ## Moves -/

/-- What can happen at a site. -/
inductive Move where
  /-- A driver is put on the wire. -/
  | join (ports : List String) (capabilities : Capabilities)
  /-- A driver that stands alone gets an adapter. -/
  | adapt (number : Nat) (name portType : String)
  | step (step : Step)
  | change (change : Network.Change)
deriving DecidableEq, Repr

/-- A wire with nothing on it. -/
def bare : Site :=
  { net := {}, adapters := [], drivers := [] }

def move (s : Site) : Move → Site
  | .join ports capabilities => { s with drivers := s.drivers ++ [{ ports, capabilities }] }
  | .adapt number name portType =>
    match s.drivers[number]? with
    | none => s
    | some drv =>
      let adapter := Adapter.create recorded name portType ((s.net, drv), [])
      { s with
        adapters := s.adapters ++ [adapter.offWire]
        drivers := s.drivers.eraseIdx number }
  | .step step => (s.act step).2
  | .change change => { s with net := change.run s.net }

/-- What a history comes to. -/
def after (history : List Move) : Site :=
  history.foldl move bare

/-- The change of the wire, if the move is one. -/
def Move.change? : Move → Option Network.Change
  | .change c => some c
  | .join _ _ | .adapt _ _ _ | .step _ => none

/-- The changes of the wire, in order. -/
def changes (history : List Move) : List Network.Change :=
  history.filterMap (·.change?)

/-- The drivers on the wire, first those that stand alone. -/
def parties (s : Site) : List Driver :=
  s.drivers ++ s.adapters.map (·.line.1)

theorem after_snoc (history : List Move) (m : Move) :
    after (history ++ [m]) = (after history).move m := by
  rw [after, List.foldl_append]
  rfl

theorem changes_snoc (history : List Move) (m : Move) :
    changes (history ++ [m]) = changes history ++ m.change?.toList := by
  rw [changes, List.filterMap_append]
  cases h : m.change? <;> simp [changes, h]

/-! ## Turns -/

/-- What a move can do to the wire and its parties. -/
inductive Turn (s s' : Site) : Move → Prop where
  | changes (change : Network.Change) (net : s'.net = change.run s.net)
      (parties : s'.parties = s.parties) : Turn s s' (.change change)
  | joins (ports : List String) (capabilities : Capabilities) (net : s'.net = s.net)
      (parties : s'.parties.Perm ({ ports, capabilities } :: s.parties)) :
      Turn s s' (.join ports capabilities)
  /-- The parties stay, though one of them may be in another place now. -/
  | stays {m : Move} (quiet : m.change? = none) (net : s'.net = s.net)
      (parties : s'.parties.Perm s.parties) : Turn s s' m
  /-- One party does its work. -/
  | works {m : Move} (drv drv' : Driver) (others : List Driver) (quiet : m.change? = none)
      (before : s.parties.Perm (drv :: others)) (after : s'.parties.Perm (drv' :: others))
      (effect : Effect (s.net, drv) (s'.net, drv'))
      (addresses : s'.net.addresses = s.net.addresses) : Turn s s' m

variable {s : Site} {i j : Nat} {drv : Driver} {a : Adapter (Driver × List Call)}

theorem parties_of_driver (h : s.drivers[j]? = some drv) :
    s.parties.Perm (drv :: (s.drivers.eraseIdx j ++ s.adapters.map (·.line.1))) := by
  obtain ⟨hlt, rfl⟩ := List.getElem?_eq_some_iff.mp h
  exact (List.getElem_cons_eraseIdx_perm hlt).symm.append_right _

theorem parties_of_adapter (h : s.adapters[i]? = some a) :
    s.parties.Perm (a.line.1 :: (s.drivers ++ (s.adapters.eraseIdx i).map (·.line.1))) := by
  obtain ⟨hlt, rfl⟩ := List.getElem?_eq_some_iff.mp h
  have hmap := (List.getElem_cons_eraseIdx_perm hlt).symm.map (·.line.1)
  exact (hmap.append_left _).trans List.perm_middle

theorem turn_adapter (s : Site) (i : Nat) (action : Adapter.Action) :
    Turn s (s.move (.step (.adapter i action))) (.step (.adapter i action)) := by
  cases hi : s.adapters[i]? with
  | none =>
    rw [move, act, hi]
    exact .stays rfl rfl (.refl _)
  | some a =>
    have hlt : i < s.adapters.length := (List.getElem?_eq_some_iff.mp hi).1
    rw [move, act_adapter hi]
    refine .works a.line.1 (action.run recorded (a.onWire s.net)).2.line.1.2
      (s.drivers ++ (s.adapters.eraseIdx i).map (·.line.1)) rfl (parties_of_adapter hi) ?_
      (action.run_effect (a.onWire s.net)) ?_
    · have hset := (List.set_perm_cons_eraseIdx hlt
        (action.run recorded (a.onWire s.net)).2.offWire).map (·.line.1)
      exact (hset.append_left _).trans List.perm_middle
    · exact Network.addresses_eq_of_population (action.run_population (a.onWire s.net)).2

theorem turn_driver (s : Site) (j : Nat) (action : Driver.Action) :
    Turn s (s.move (.step (.driver j action))) (.step (.driver j action)) := by
  cases hj : s.drivers[j]? with
  | none =>
    rw [move, act, hj]
    exact .stays rfl rfl (.refl _)
  | some drv =>
    have hlt : j < s.drivers.length := (List.getElem?_eq_some_iff.mp hj).1
    rw [move, act_driver hj]
    refine .works drv (action.run (s.net, drv)).2.2
      (s.drivers.eraseIdx j ++ s.adapters.map (·.line.1)) rfl (parties_of_driver hj) ?_
      (action.run_effect (s.net, drv)) ?_
    · exact (List.set_perm_cons_eraseIdx hlt _).append_right _
    · exact Network.addresses_eq_of_population (action.run_population (s.net, drv)).2

/-- Every move is one of these turns. -/
theorem turn_move (s : Site) (m : Move) : Turn s (s.move m) m := by
  cases m with
  | join ports capabilities =>
    refine .joins ports capabilities rfl ?_
    rw [parties, move, List.append_assoc]
    exact List.perm_middle
  | adapt number name portType =>
    rw [move]
    cases hj : s.drivers[number]? with
    | none => exact .stays rfl rfl (.refl _)
    | some drv =>
      refine .stays rfl rfl ?_
      -- The driver goes from one of the two lists of parties to the other.
      refine List.Perm.trans ?_ (parties_of_driver hj).symm
      rw [parties, List.map_append, ← List.append_assoc]
      exact List.perm_append_singleton _ _
  | step step =>
    cases step with
    | adapter i action => exact s.turn_adapter i action
    | driver j action => exact s.turn_driver j action
  | change change => exact .changes change rfl rfl

end Site

end BusMaster
