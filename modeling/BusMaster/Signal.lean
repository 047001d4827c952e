/-!
# Signals on the bus

What a reset pulse can show, the two search commands, and the words in which power and program
pulses are asked for.
-/

namespace BusMaster

/-- What answered a reset pulse. -/
inductive ResetResult where
  /-- No device. -/
  | noPresence
  /-- At least one device. -/
  | presence
  /-- At least one device, and one of them signals an alarm. -/
  | alarmPresence
  /-- The line is held down. -/
  | short
deriving DecidableEq, Repr

/-- Some device answered. -/
def ResetResult.isPresent : ResetResult → Bool
  | presence | alarmPresence => true
  | noPresence | short => false

/-- Which devices a search addresses. -/
inductive SearchCommand where
  | normal
  | alarm
deriving DecidableEq, Repr

namespace SearchCommand

/-- The byte that starts the search. -/
def opcode : SearchCommand → UInt8
  | normal => 0xF0
  | alarm => 0xEC

def ofAlarmOnly (alarmOnly : Bool) : SearchCommand :=
  if alarmOnly then alarm else normal

end SearchCommand

/-- The command that selects one device by the eight address bytes that follow it. -/
def matchRom : UInt8 := 0x55

/-- When a change of power takes effect. -/
inductive PowerCondition where
  | now
  | afterNextBit
  | afterNextByte
deriving DecidableEq, Repr

/-- How long strong power or a program pulse lasts. -/
inductive PowerDuration where
  | halfSecond
  | oneSecond
  | twoSeconds
  | fourSeconds
  | smartDone
  | infinite
  | currentDetect
  /-- The pulse that programs an EPROM. -/
  | eprom
deriving DecidableEq, Repr

end BusMaster
