import BusMaster.Version
import BusMaster.Wire.Descent
import BusMaster.Wire.Network

/-!
# Drivers of a simulated wire

A driver is one party on a wire. It has ports of its own, a speed, and a place in the sequence of
commands that selects a device; the wire's claim excludes it while another driver holds it.

* `Driver`: the driver.
* `Driver.exchange`: one byte sent and one read back.
* `Driver.searchStep`, `Driver.transferBlock`: the primitives that work in a buffer of the caller.
* `Driver.perform`: every primitive, on the driver and its wire.
* `Driver.transport`: the two as a transport.
-/

namespace BusMaster

/-- Where a driver is in the sequence that selects a device. -/
inductive Phase where
  | idle
  /-- The bus was reset, and devices are present. -/
  | awaitCommand
  /-- The select command was sent, and these address bytes after it. -/
  | matchRom (received : List UInt8)
  | selected (device : Address)
deriving DecidableEq, Repr

/-- One party on a wire. -/
structure Driver where
  ports : List String := ["sim0", "sim1", "sim2", "sim3"]
  capabilities : Capabilities :=
    { overdrive := true, flexSpeed := true, powerDelivery := true, programPulse := true }
  selected : Option String := none
  speed : Speed := .regular
  /-- The wire's claim is this driver's. -/
  holding : Bool := false
  phase : Phase := .idle
  /-- Strong power that waits for the next bit or byte. -/
  armed : Option PowerCondition := none
deriving DecidableEq, Repr

namespace Driver

def ask (drv : Driver) : (query : Query) → query.Answer
  | .capabilities => drv.capabilities
  | .version => s!"simulator {version}"
  | .portNames => drv.ports
  | .portName => drv.selected
  | .speed => drv.speed

/-! ## The claim -/

def beginExclusive : Network × Driver → Bool × Network × Driver
  | (net, drv) =>
    if net.claimed then (false, net, drv)
    else (true, { net with claimed := true }, { drv with holding := true })

/-- Only the holder's closing has an effect. -/
def endExclusive : Network × Driver → Network × Driver
  | (net, drv) =>
    if drv.holding then ({ net with claimed := false }, { drv with holding := false })
    else (net, drv)

/-! ## Bytes -/

/-- One byte on the wire: the byte read back, which is the one sent unless a selected device
answers. A device answers only where all ones are sent. -/
def exchange (byte : UInt8) : Network × Driver → UInt8 × Network × Driver
  | (net, drv) =>
    match drv.phase with
    | .idle => (byte, net, drv)
    | .awaitCommand =>
      (byte, net, { drv with phase := if byte = matchRom then .matchRom [] else .idle })
    | .matchRom received =>
      let received := received ++ [byte]
      let phase :=
        if received.length < 8 then .matchRom received
        else if net.isAttached (.ofBytes received) then .selected (.ofBytes received)
        else .idle
      (byte, net, { drv with phase })
    | .selected device =>
      if byte = 0xFF then
        let (reply, net) := net.takeResponse device
        (reply.getD byte, net, drv)
      else (byte, net, drv)

/-- The bytes of a block one after the other, each replaced with the one read back. -/
def exchangeAll : List UInt8 → Network × Driver → List UInt8 × Network × Driver
  | [], s => ([], s)
  | byte :: block, s =>
    let (reply, s) := exchange byte s
    let (replies, s) := exchangeAll block s
    (reply :: replies, s)

/-- Turns on strong power that was armed for the unit just transferred. -/
def fire (unit : PowerCondition) : Network × Driver → Network × Driver
  | (net, drv) =>
    if drv.armed = some unit then
      ({ net with strongPullup := true }.log .strongPullup, { drv with armed := none })
    else (net, drv)

/-! ## Ports -/

/-- Takes another port, or none, and keeps the wire's count of attached drivers. -/
def attachTo (port : Option String) : Network × Driver → Network × Driver
  | (net, drv) =>
    let attachedPorts :=
      match drv.selected.isSome, port.isSome with
      | false, true => net.attachedPorts + 1
      | true, false => net.attachedPorts - 1
      | _, _ => net.attachedPorts
    ({ net with attachedPorts }, { drv with selected := port })

/-! ## Primitives in a buffer of the caller -/

/-- One search pass. The buffer seeds it, and the address found is written over the seed. -/
def searchStep (lastDiscrepancy : Nat) (command : SearchCommand) (skipReset : Bool) :
    Address × Network × Driver → Except BusError Nat × Address × Network × Driver
  | (buffer, net, drv) =>
    if drv.selected.isNone then (.error .portNotSelected, buffer, net, drv)
    else
      let participants :=
        if skipReset || net.resetResult.isPresent then net.participants command else []
      let answer :=
        SearchPass.answer { seed := buffer, lastDiscrepancy, command, skipReset } participants
      (.ok answer.lastDiscrepancy, answer.address,
        net.log (.search command.opcode lastDiscrepancy skipReset), { drv with phase := .idle })

/-- Every byte of the buffer is sent and replaced with the one read back. -/
def transferBlock :
    List UInt8 × Network × Driver → Except BusError Unit × List UInt8 × Network × Driver
  | (buffer, net, drv) =>
    if drv.selected.isNone then (.error .portNotSelected, buffer, net, drv)
    else
      let (replies, s) := exchangeAll buffer (net.log (.block buffer), drv)
      (.ok (), replies, s)

/-! ## Primitives -/

/-- What a primitive does once it is known that a port is selected, where it takes one. -/
def performAttached (primitive : Primitive) :
    Network × Driver → Except BusError primitive.Answer × Network × Driver
  | (net, drv) =>
    match primitive with
    | .selectPort port =>
      if net.portError then (.error (.io s!"cannot open {port}"), net, drv)
      else if port ∈ drv.ports then (.ok true, attachTo (some port) (net, drv))
      else (.ok false, attachTo none (net, drv))
    | .freePort => (.ok (), attachTo none (net, drv))
    | .detect =>
      if drv.selected.isNone then (.ok false, net, drv)
      else if net.probeError then (.error (.io "adapter probe timed out"), net, drv)
      else (.ok net.adapterPresent, net, drv)
    | .reset =>
      let result := net.resetResult
      (.ok result, net.log (.reset result),
        { drv with phase := if result.isPresent then .awaitCommand else .idle })
    | .search pass =>
      let (found, address, s) :=
        searchStep pass.lastDiscrepancy pass.command pass.skipReset (pass.seed, net, drv)
      (found.map fun lastDiscrepancy => { lastDiscrepancy, address }, s)
    | .writeBit bit => (.ok (), fire .afterNextBit (net.log (.writeBit bit), drv))
    -- Nothing holds the line down while no device is asked for a bit.
    | .readBit => (.ok true, fire .afterNextBit (net.log (.readBit true), drv))
    | .writeByte byte =>
      let (_, s) := exchange byte (net.log (.writeByte byte), drv)
      (.ok (), fire .afterNextByte s)
    | .readByte =>
      let (byte, net, drv) := exchange 0xFF (net, drv)
      (.ok byte, fire .afterNextByte (net.log (.readByte byte), drv))
    | .transfer block =>
      let (sent, replies, s) := transferBlock (block, net, drv)
      (sent.map fun () => replies, s)
    | .setSpeed speed =>
      match speed.required.filter (!drv.capabilities.supports ·) with
      | some missing => (.error (.capabilityUnsupported missing), net, drv)
      | none => (.ok (), net.log (.speed speed), { drv with speed })
    | .setPowerDuration duration =>
      if duration = .infinite then (.ok (), net, drv)
      else (.error (.unsupportedSetting "only infinite power duration is supported"), net, drv)
    | .startPower condition =>
      if condition = .now then
        (.ok true, { net with strongPullup := true }.log .strongPullup, drv)
      else (.ok true, net, { drv with armed := some condition })
    | .setPulseDuration duration =>
      if duration = .eprom then (.ok (), net, drv)
      else
        let setting := "only the EPROM program pulse duration is supported"
        (.error (.unsupportedSetting setting), net, drv)
    | .startPulse condition =>
      if condition = .now then
        (.ok true, { net with programPulses := net.programPulses + 1 }.log .programPulse, drv)
      else
        (.error (.unsupportedSetting "program pulse after bit/byte is not supported"), net, drv)
    | .setPowerNormal =>
      (.ok (), { net with strongPullup := false }.log .powerNormal, { drv with armed := none })

/-- The primitive drives the line, and a selected port is asked for before it. A search and a block
ask for it themselves. -/
def needsPort : Primitive → Bool
  | .reset | .writeBit _ | .readBit | .writeByte _ | .readByte | .startPower _ | .startPulse _ =>
    true
  | .selectPort _ | .freePort | .detect | .search _ | .transfer _ | .setSpeed _
  | .setPowerDuration _ | .setPulseDuration _ | .setPowerNormal => false

/-- What a primitive does to the driver and its wire. -/
def perform (primitive : Primitive) (s : Network × Driver) :
    Except BusError primitive.Answer × Network × Driver :=
  if needsPort primitive && s.2.selected.isNone then (.error .portNotSelected, s)
  else performAttached primitive s

/-- A driver on its wire as a transport. A walk meets each device once, and then the end. -/
def transport : Transport (Network × Driver) where
  ask query s := (s.2.ask query, s)
  beginExclusive := beginExclusive
  endExclusive := endExclusive
  perform := perform
  passLimit s := s.1.devices.length + 2

end Driver

end BusMaster
