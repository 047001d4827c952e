import BusMaster.Adapter.Devices

/-!
# Adapters

An adapter is a transport with a name and the session on it. A session is acquired, used and ended;
some operations need none and wait until no session is held.

* `Adapter.create`: an adapter on a transport's state.
* `Adapter.tryAcquire`, `release`, `drop`, `abandon`, `withSession`: sessions.
* `Adapter.selectPort`, `freePort`, `portNames`, `transportVersion`: without a session.
-/

namespace BusMaster

/-- A transport's state with a name and at most one session. -/
structure Adapter (σ : Type) where
  name : String
  /-- The kind of ports that the adapter is attached to, in words. -/
  portType : String
  capabilities : Capabilities
  arbiter : Arbiter (Bus σ)

namespace Adapter

variable {σ τ α : Type}

/-- An adapter on a transport's state. -/
def create (t : Transport σ) (name portType : String) (line : σ) : Adapter σ :=
  let (capabilities, line) := t.ask .capabilities line
  let (port, line) := t.ask .portName line
  { name, portType, capabilities, arbiter := { resource := { line, capabilities, port } } }

/-- The same adapter on a transport's state seen in another way. -/
def map (f : σ → τ) (a : Adapter σ) : Adapter τ :=
  { a with arbiter := { a.arbiter with resource := a.arbiter.resource.map f } }

/-- The state of the transport. -/
def line (a : Adapter σ) : σ :=
  a.arbiter.resource.line

/-- The selected port as last recorded; this never waits. -/
def portName (a : Adapter σ) : Option String :=
  a.arbiter.resource.port

/-- A session is held. -/
def isHeld (a : Adapter σ) : Bool :=
  a.arbiter.isHeld

/-! ## Sessions -/

def tryAcquire (t : Transport σ) (a : Adapter σ) : Bool × Adapter σ :=
  let (granted, arbiter) := a.arbiter.tryAcquire (Bus.access t)
  (granted, { a with arbiter })

def release (t : Transport σ) (a : Adapter σ) : Adapter σ :=
  { a with arbiter := a.arbiter.release (Bus.access t) }

def drop (t : Transport σ) (a : Adapter σ) : Adapter σ :=
  { a with arbiter := a.arbiter.drop (Bus.access t) }

def abandon (t : Transport σ) (a : Adapter σ) : Adapter σ :=
  { a with arbiter := a.arbiter.abandon (Bus.access t) }

/-- Work in the session; nothing if none is held. -/
def withSession (f : Bus σ → α × Bus σ) (a : Adapter σ) : Option (α × Adapter σ) :=
  (a.arbiter.withSession f).map fun (answer, arbiter) => (answer, { a with arbiter })

/-! ## Without a session -/

/-- Work outside of any session; nothing while one is held. -/
def withResource (f : Bus σ → α × Bus σ) (a : Adapter σ) : Option (α × Adapter σ) :=
  (a.arbiter.withResource f).map fun (answer, arbiter) => (answer, { a with arbiter })

def portNames (t : Transport σ) (a : Adapter σ) : Option (List String × Adapter σ) :=
  a.withResource (·.ask t .portNames)

/-- The version that the transport reports. -/
def transportVersion (t : Transport σ) (a : Adapter σ) : Option (String × Adapter σ) :=
  a.withResource (·.ask t .version)

/-- Attaches to a port; the answer is whether that can be done. -/
def selectPort (t : Transport σ) (port : String) (a : Adapter σ) :
    Option (Except BusError Bool × Adapter σ) :=
  a.withResource (·.perform t (.selectPort port))

def freePort (t : Transport σ) (a : Adapter σ) : Option (Except BusError Unit × Adapter σ) :=
  a.withResource (·.perform t .freePort)

end Adapter

end BusMaster
