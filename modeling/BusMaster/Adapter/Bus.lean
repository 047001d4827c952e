import BusMaster.Lease.Arbiter
import BusMaster.Search.Walk

/-!
# The bus of an adapter

What a session works on: the transport's state, the search on it, and what the adapter can do.

* `Bus.perform`: a primitive, which does not reach the transport if the adapter lacks the service.
* `Bus.findFirst`, `Bus.findNext`, `Bus.isPresent`, `Bus.isAlarming`, `Bus.select`: the search.
* `Bus.access`: how the bus is opened for one session.
-/

namespace BusMaster

/-- The service that a primitive takes. -/
def Primitive.required : Primitive → Option Capability
  | setSpeed speed => speed.required
  | setPowerDuration _ | startPower _ => some .powerDelivery
  | setPulseDuration _ | startPulse _ => some .programPulse
  | _ => none

/-- The primitive can change the selected port. -/
def Primitive.movesPort : Primitive → Bool
  | selectPort _ | freePort => true
  | _ => false

/-- A transport's state with the search on it. -/
structure Bus (σ : Type) where
  line : σ
  cursor : SearchCursor := {}
  filter : FamilyFilter := .all
  /-- What the adapter can do, as its transport said when the adapter was made. -/
  capabilities : Capabilities
  /-- The selected port as last recorded. It can be read while a session is held. -/
  port : Option String

namespace Bus

variable {σ τ : Type}

/-- The same bus on a transport's state seen in another way. -/
def map (f : σ → τ) (b : Bus σ) : Bus τ :=
  { b with line := f b.line }

/-- Opening and closing the bus for one session. -/
def access (t : Transport σ) : ExclusiveAccess (Bus σ) where
  tryBegin b :=
    let (granted, line) := t.beginExclusive b.line
    (granted, { b with line })
  finish b := { b with line := t.endExclusive b.line }

/-- Records the port that the transport has selected. -/
def recordPort (t : Transport σ) (b : Bus σ) : Bus σ :=
  let (port, line) := t.ask .portName b.line
  { b with line, port }

def ask (t : Transport σ) (query : Query) (b : Bus σ) : query.Answer × Bus σ :=
  let (answer, line) := t.ask query b.line
  (answer, { b with line })

/-- A primitive of the transport. One that takes a service which the adapter lacks fails without
reaching the transport. -/
def perform (t : Transport σ) (primitive : Primitive) (b : Bus σ) :
    Except BusError primitive.Answer × Bus σ :=
  match primitive.required.filter (!b.capabilities.supports ·) with
  | some missing => (.error (.capabilityUnsupported missing), b)
  | none =>
    let (answer, line) := t.perform primitive b.line
    let b := { b with line }
    (answer, if primitive.movesPort then b.recordPort t else b)

/-! ## Search -/

/-- The first address of a new enumeration. -/
def findFirst (t : Transport σ) (alarmOnly skipReset : Bool) (b : Bus σ) : Found × Bus σ :=
  let (found, cursor, line) :=
    Search.findFirst t b.filter (t.passLimit b.line) alarmOnly skipReset b.cursor b.line
  (found, { b with cursor, line })

/-- The next address of the enumeration. -/
def findNext (t : Transport σ) (b : Bus σ) : Found × Bus σ :=
  let (found, cursor, line) :=
    Search.findNext t b.filter (t.passLimit b.line) b.cursor b.line
  (found, { b with cursor, line })

/-- Exactly this address answers the search. A failure counts as no. -/
def verify (t : Transport σ) (a : Address) (command : SearchCommand) (b : Bus σ) : Bool × Bus σ :=
  let (answer, line) := Search.verify t a command b.cursor.skipReset b.line
  (match answer with
    | .ok found => found
    | .error _ => false,
    { b with line })

/-- Exactly this address answers a search of all devices. -/
def isPresent (t : Transport σ) (a : Address) (b : Bus σ) : Bool × Bus σ :=
  b.verify t a .normal

/-- Exactly this address answers a search of the devices in alarm. -/
def isAlarming (t : Transport σ) (a : Address) (b : Bus σ) : Bool × Bus σ :=
  b.verify t a .alarm

/-- Addresses one device for what follows; whether any device was there. -/
def select (t : Transport σ) (a : Address) (b : Bus σ) : Except BusError Bool × Bus σ :=
  let (answer, line) := Search.select t a b.line
  (answer, { b with line })

def setFilter (filter : FamilyFilter) (b : Bus σ) : Bus σ :=
  { b with filter }

end Bus

end BusMaster
