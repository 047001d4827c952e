import BusMaster.Transport.Basic

/-!
# Scripted transports

A transport that plays prepared answers: each operation takes the next one of its queue, and a
default once the queue is empty. It stands in for adapter hardware where an exact course of answers
is wanted.

* `Script`: the answers still to come, the port and the speed.
* `Script.transport`: the transport.
-/

namespace BusMaster

/-- A prepared answer to a search pass. Without an address the pass keeps its seed. -/
structure ScriptedPass where
  lastDiscrepancy : Nat
  address : Option Address := none
deriving DecidableEq, Repr

/-- The answers that a scripted transport has still to give, and what it was set to. -/
structure Script where
  capabilities : Capabilities := {}
  select : List (Except BusError Bool) := []
  free : List (Except BusError Unit) := []
  detect : List (Except BusError Bool) := []
  begins : List Bool := []
  reset : List (Except BusError ResetResult) := []
  search : List (Except BusError ScriptedPass) := []
  block : List (Except BusError (List UInt8)) := []
  byte : List (Except BusError UInt8) := []
  bit : List (Except BusError Bool) := []
  port : Option String := none
  speed : Speed := .regular

namespace Script

def ask (s : Script) : (query : Query) → query.Answer
  | .capabilities => s.capabilities
  | .version => "scripted"
  | .portNames => ["script"]
  | .portName => s.port
  | .speed => s.speed

/-- The next answer of each queue and the script without it. Attaching takes effect if the answer is
yes and detaches if it is no; an error changes no port. -/
def perform (s : Script) : (primitive : Primitive) → Except BusError primitive.Answer × Script
  | .selectPort port =>
    let rest := { s with select := s.select.tail }
    match s.select.headD (.ok true) with
    | .ok true => (.ok true, { rest with port := some port })
    | .ok false => (.ok false, { rest with port := none })
    | .error e => (.error e, rest)
  | .freePort =>
    let rest := { s with free := s.free.tail }
    match s.free.headD (.ok ()) with
    | .ok () => (.ok (), { rest with port := none })
    | .error e => (.error e, rest)
  | .detect => (s.detect.headD (.ok true), { s with detect := s.detect.tail })
  | .reset => (s.reset.headD (.ok .presence), { s with reset := s.reset.tail })
  | .search pass =>
    let answer := (s.search.headD (.error .portNotSelected)).map fun found =>
      ⟨found.lastDiscrepancy, found.address.getD pass.seed⟩
    (answer, { s with search := s.search.tail })
  | .writeBit _ => ((s.bit.headD (.ok true)).map fun _ => (), { s with bit := s.bit.tail })
  | .readBit => (s.bit.headD (.ok true), { s with bit := s.bit.tail })
  | .writeByte _ => ((s.byte.headD (.ok 0xFF)).map fun _ => (), { s with byte := s.byte.tail })
  | .readByte => (s.byte.headD (.ok 0xFF), { s with byte := s.byte.tail })
  | .transfer block =>
    let answer := (s.block.headD (.ok [])).map fun played =>
      played.take block.length ++ block.drop played.length
    (answer, { s with block := s.block.tail })
  | .setSpeed speed => (.ok (), { s with speed })
  | .setPowerDuration _ | .setPulseDuration _ | .setPowerNormal => (.ok (), s)
  | .startPower _ | .startPulse _ => (.ok true, s)

/-- The transport that plays its state. -/
def transport : Transport Script where
  ask query s := (s.ask query, s)
  beginExclusive s := (s.begins.headD true, { s with begins := s.begins.tail })
  endExclusive s := s
  perform primitive s := s.perform primitive
  passLimit s := s.search.length + 2

end Script

end BusMaster
