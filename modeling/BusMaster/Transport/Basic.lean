import BusMaster.Address.Basic
import BusMaster.Error
import BusMaster.Signal

/-!
# Transports

A transport is what an adapter drives its bus through: a state, and what each operation does to it.
Nothing is assumed of the answers.

* `Primitive`: the operations that can fail, with the type of their answers, `Primitive.Answer`.
* `Query`: the operations that cannot.
* `Transport σ`: a transport with states in `σ`.
-/

namespace BusMaster

/-- The number of address bits that a search walks. -/
def addressBits : Nat := 64

/-- What one search pass is asked. Positions are counted from 1 to 64; 0 stands before the first. -/
structure SearchPass where
  /-- The address whose bits are replayed below `lastDiscrepancy`. -/
  seed : Address
  lastDiscrepancy : Nat
  command : SearchCommand
  /-- The bus is not reset before the pass. -/
  skipReset : Bool
deriving DecidableEq, Repr

/-- What one search pass finds. A discrepancy above 64 says that no device answered. -/
structure SearchAnswer where
  /-- The deepest position where devices disagreed and the pass took the branch of the zeros, or the
  position that the pass was given if there is none. -/
  lastDiscrepancy : Nat
  /-- The address along the path taken. -/
  address : Address
deriving DecidableEq, Repr

/-- The discrepancy that says that no device answered. -/
def noDevice : Nat := addressBits + 1

/-- The operations of a transport that can fail. -/
inductive Primitive where
  /-- Attach to a port; the answer is whether that can be done. -/
  | selectPort (port : String)
  /-- Detach from the port. -/
  | freePort
  /-- Ask whether adapter hardware answers on the port. -/
  | detect
  | reset
  | search (pass : SearchPass)
  | writeBit (bit : Bool)
  | readBit
  | writeByte (byte : UInt8)
  | readByte
  /-- Send every byte of a block; the answer is the block as read back. -/
  | transfer (block : List UInt8)
  | setSpeed (speed : Speed)
  | setPowerDuration (duration : PowerDuration)
  /-- Start strong power, or arm it. -/
  | startPower (condition : PowerCondition)
  | setPulseDuration (duration : PowerDuration)
  /-- Deliver a program pulse, or arm one. -/
  | startPulse (condition : PowerCondition)
  /-- Back to the weak pull-up. -/
  | setPowerNormal
deriving DecidableEq, Repr

/-- The answer to a primitive that does not fail. -/
abbrev Primitive.Answer : Primitive → Type
  | selectPort _ | detect | readBit | startPower _ | startPulse _ => Bool
  | reset => ResetResult
  | search _ => SearchAnswer
  | readByte => UInt8
  | transfer _ => List UInt8
  | freePort | writeBit _ | writeByte _ | setSpeed _ | setPowerDuration _ | setPulseDuration _
  | setPowerNormal => Unit

/-- The operations of a transport that only ask and cannot fail. -/
inductive Query where
  | capabilities
  /-- The version of the driver or of its firmware. -/
  | version
  /-- The ports to which the transport can be attached. -/
  | portNames
  /-- The port to which it is attached. -/
  | portName
  | speed
deriving DecidableEq, Repr

abbrev Query.Answer : Query → Type
  | capabilities => Capabilities
  | version => String
  | portNames => List String
  | portName => Option String
  | speed => Speed

/-- What drives a bus. -/
structure Transport (σ : Type) where
  ask : (query : Query) → σ → query.Answer × σ
  /-- Try once to open the bus for itself alone. -/
  beginExclusive : σ → Bool × σ
  /-- Close the exclusive open. -/
  endExclusive : σ → σ
  perform : (primitive : Primitive) → σ → Except BusError primitive.Answer × σ
  /-- How many search passes one request may take. A walk that would go on beyond it is given up; on
  a bus that works it ends before. -/
  passLimit : σ → Nat

end BusMaster
