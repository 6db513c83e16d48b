import PulseAnalyzer.Calibration
import PulseAnalyzer.Device.Command

set_option autoImplicit false

namespace PulseAnalyzer

structure Module where
  channel : Nat
  board : Board
  serial : SerialNumber
deriving DecidableEq, Repr

structure Session where
  calibration : Calibration
  modules : List Module

def highVoltageName : String := "high_voltage"

-- Acquisition values under their own names; the setpoint of the voltage has a second one.
def canonicalName (name : String) : String :=
  if name = "set_voltage" then highVoltageName else name

def opcodeVolts : UInt8 := 0x40
def opcodeTemperature : UInt8 := 0x41
def opcodeLed : UInt8 := 0xC0

namespace Session

def readModule (channel : Nat) : Procedure Module := do
  let board ← Procedure.ofExcept (Board.decode (← Procedure.api (.boardInfo channel)))
  let serial ← Procedure.ofExcept (SerialNumber.decode (← Procedure.api (.serialNumber channel)))
  return ⟨channel, board, serial⟩

def readModules : List Nat → Procedure (List Module)
  | [] => return []
  | channel :: rest => do
    let first ← readModule channel
    return first :: (← readModules rest)

def start (calibration : Calibration) (channels : Nat) : Procedure Session := do
  Procedure.ofExcept calibration.validate
  return ⟨calibration, ← readModules (List.range channels)⟩

def channels (s : Session) : List Nat := s.modules.map Module.channel

def module (s : Session) (channel : Nat) : Except Fault Module :=
  match s.modules[channel]? with
  | some m => .ok m
  | none => .error (.range (.channel channel s.modules.length))

def select (s : Session) (index : Int) : List Nat :=
  if 0 ≤ index ∧ index < s.modules.length then [index.toNat] else s.channels

-- The channels of a run and the target that starts it. Here an index that is too large is
-- refused.
def selectForRun (s : Session) (index : Int) : Except Fault (List Nat × Target) :=
  if index < 0 then .ok (s.channels, .all)
  else (s.module index.toNat).map fun _ => ([index.toNat], .channel index.toNat)

def readValue (s : Session) (channel : Nat) (name : String) : Procedure Float := do
  let value ← Procedure.api (.getValue channel (canonicalName name))
  return if canonicalName name = highVoltageName then s.calibration.voltsOfSetpoint value else value

def rawValue (s : Session) (name : String) (value : Float) : Except Fault Float :=
  if canonicalName name = highVoltageName then s.calibration.setpoint value else .ok value

-- Writes an acquisition value and reads it back. Nothing is sent for volts out of range.
def writeValue (s : Session) (channel : Nat) (name : String) (value : Float) : Procedure Float := do
  let raw ← Procedure.ofExcept (s.rawValue name value)
  Procedure.api (.setValue channel (canonicalName name) raw)
  s.readValue channel (canonicalName name)

def setVolts (s : Session) (channel : Nat) (volts : Float) : Procedure Float :=
  s.writeValue channel highVoltageName volts

def request (channel : Nat) (opcode : UInt8) (arguments : List Argument) (sends size : Nat) :
    Procedure Bytes := do
  let command ← Procedure.ofExcept ((Command.start channel opcode).appendAll arguments)
  command.transact sends size

def byteArg (value : Nat) : Argument := ⟨.byte, value⟩
def wordArg (value : Nat) : Argument := ⟨.word, value⟩

-- The monitor voltage. The converter wakes on the first of two requests.
def readVolts (s : Session) (channel : Nat) : Procedure Float := do
  let payload ← request channel opcodeVolts
    [wordArg 4, byteArg 0, byteArg 0x29, byteArg 0, byteArg 2] 2 (Response.size 3)
  let raw ← Procedure.ofExcept (Response.bigEndian (payload.drop 1))
  return s.calibration.monitorVolts raw

def temperatureOf (payload : Bytes) : Except Fault Float := do
  return decodeTemperature (← Response.byteAt payload 1) (← Response.byteAt payload 2)

def readTemperature (channel : Nat) : Procedure Float := do
  let payload ← request channel opcodeTemperature [wordArg 0] 1 (Response.size 3)
  Procedure.ofExcept (temperatureOf payload)

def ledOf (s : Session) (payload : Bytes) : Except Fault LedStatus := do
  let commandStatus ← Response.byteAt payload 0
  let enabled ← Response.byteAt payload 1
  let period ← Response.wordAt payload 2
  let width ← Response.wordAt payload 4
  return ⟨commandStatus, enabled ≠ 0, s.calibration.periodMicros period,
    s.calibration.widthNanos width⟩

def readLed (s : Session) (channel : Nat) : Procedure LedStatus := do
  let payload ← request channel opcodeLed [wordArg 1, byteArg 1] 1 (Response.size 6)
  Procedure.ofExcept (s.ledOf payload)

def ledWords (s : Session) (enable : Nat) (periodMicros widthNanos : Float) :
    Except Fault (UInt16 × UInt16) := do
  if 1 < enable then .error (.range (.ledEnable enable))
  let period ← s.calibration.ledPeriod.checkedWord "led period" periodMicros
  let width ← s.calibration.ledWidth.checkedWord "led width" widthNanos
  return (period, width)

def setLed (s : Session) (channel enable : Nat) (periodMicros widthNanos : Float) :
    Procedure LedStatus := do
  let words ← Procedure.ofExcept (s.ledWords enable periodMicros widthNanos)
  let payload ← request channel opcodeLed
    [wordArg 6, byteArg 0, byteArg enable, wordArg words.1.toNat, wordArg words.2.toNat] 1
    (Response.size 6)
  Procedure.ofExcept (s.ledOf payload)

def toggleLed (s : Session) (channel : Nat) : Procedure LedStatus := do
  let current ← s.readLed channel
  s.setLed channel (if current.enabled then 0 else 1) current.periodMicros current.widthNanos

def raw (channel : Nat) (opcode : UInt8) (arguments : List Argument) (size : Nat) :
    Procedure Bytes :=
  request channel opcode arguments 1 size

end Session
end PulseAnalyzer
