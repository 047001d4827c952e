/-!
# Exclusive sessions

An arbiter guards one resource that can be opened for one party alone. Who holds its session, and
nobody else, reaches the resource; ending the session closes the resource, exactly once.

* `ExclusiveAccess`: how a resource is opened and closed.
* `Arbiter`: the resource with the session that is held, if there is one.
* `Arbiter.tryAcquire`, `close`, `drop`, `release`, `abandon`: the life of a session.
* `Arbiter.withSession`, `Arbiter.withResource`: work inside a session and outside of any.
-/

namespace BusMaster

/-- How a resource is opened exclusively, and closed. -/
structure ExclusiveAccess (ρ : Type) where
  /-- Tries once to open. -/
  tryBegin : ρ → Bool × ρ
  finish : ρ → ρ

/-- A session that is held. -/
structure Session where
  /-- The resource is closed already, though the session is not over yet. -/
  closed : Bool := false
deriving DecidableEq, Repr

/-- A resource and the session that locks it. -/
structure Arbiter (ρ : Type) where
  resource : ρ
  session : Option Session := none
  /-- Some holder was cut short. The resource is as it was left, and the next session takes it over
  like that. -/
  poisoned : Bool := false

namespace Arbiter

variable {ρ α : Type}

/-- A session is held. -/
def isHeld (a : Arbiter ρ) : Bool :=
  a.session.isSome

/-- One attempt at a session. It fails while one is held, and if the resource does not open. -/
def tryAcquire (access : ExclusiveAccess ρ) (a : Arbiter ρ) : Bool × Arbiter ρ :=
  if a.isHeld then (false, a)
  else
    let (granted, resource) := access.tryBegin a.resource
    (granted, { a with resource, session := if granted then some {} else none })

/-- Closes the resource, unless the session has done that already. -/
def close (access : ExclusiveAccess ρ) (a : Arbiter ρ) : Arbiter ρ :=
  match a.session with
  | some { closed := false } =>
    { a with resource := access.finish a.resource, session := some { closed := true } }
  | _ => a

/-- Ends the session. -/
def drop (access : ExclusiveAccess ρ) (a : Arbiter ρ) : Arbiter ρ :=
  { a.close access with session := none }

/-- Closes the resource and then ends the session. -/
def release (access : ExclusiveAccess ρ) (a : Arbiter ρ) : Arbiter ρ :=
  (a.close access).drop access

/-- The holder is cut short, and its session ends with it. -/
def abandon (access : ExclusiveAccess ρ) (a : Arbiter ρ) : Arbiter ρ :=
  { a.drop access with poisoned := a.poisoned || a.isHeld }

/-- Work of the session's holder; nothing if no session is held. -/
def withSession (f : ρ → α × ρ) (a : Arbiter ρ) : Option (α × Arbiter ρ) :=
  if a.isHeld then
    let (answer, resource) := f a.resource
    some (answer, { a with resource })
  else none

/-- Work on the resource outside of any session; nothing while one is held, since it would have to
wait. -/
def withResource (f : ρ → α × ρ) (a : Arbiter ρ) : Option (α × Arbiter ρ) :=
  if a.isHeld then none
  else
    let (answer, resource) := f a.resource
    some (answer, { a with resource })

end Arbiter

end BusMaster
