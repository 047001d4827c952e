import BusMaster.Transport.Basic

/-!
# Recording a transport

`Transport.recorded t` does what `t` does and keeps a list of the calls, the latest one last.
-/

namespace BusMaster

/-- A call of a transport. -/
inductive Call where
  | asked (query : Query)
  /-- An attempt at the exclusive open, and whether it was granted. -/
  | began (granted : Bool)
  | ended
  | performed (primitive : Primitive)
deriving DecidableEq, Repr

/-- The transport `t` with the calls made so far. -/
def Transport.recorded {σ : Type} (t : Transport σ) : Transport (σ × List Call) where
  ask query s :=
    let (answer, inner) := t.ask query s.1
    (answer, inner, s.2 ++ [.asked query])
  beginExclusive s :=
    let (granted, inner) := t.beginExclusive s.1
    (granted, inner, s.2 ++ [.began granted])
  endExclusive s := (t.endExclusive s.1, s.2 ++ [.ended])
  perform primitive s :=
    let (answer, inner) := t.perform primitive s.1
    (answer, inner, s.2 ++ [.performed primitive])
  passLimit s := t.passLimit s.1

end BusMaster
