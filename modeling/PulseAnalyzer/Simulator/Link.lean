import PulseAnalyzer.Device.Session
import PulseAnalyzer.Simulator.Injection

set_option autoImplicit false

namespace PulseAnalyzer

structure Registers where
  hvAdc : UInt16
  tempBase : UInt8
  tempFraction : UInt8
  ledEnabled : Bool
  ledPeriod : UInt16
  ledWidth : UInt16
deriving DecidableEq, Repr

namespace Registers

def standard : Registers := ⟨0x0C80, 31, 0x50, false, 2000, 10⟩

-- The LED words of a write command: a length word, a zero, then enable, period and width.
def program (r : Registers) : Bytes → Registers
  | _ :: _ :: 0 :: enable :: p0 :: p1 :: w0 :: w1 :: _ =>
    { r with
      ledEnabled := enable ≠ 0
      ledPeriod := UInt16.ofNat (p0.toNat + 256 * p1.toNat)
      ledWidth := UInt16.ofNat (w0.toNat + 256 * w1.toNat) }
  | _ => r

def after (r : Registers) (opcode : UInt8) (arguments : Bytes) : Registers :=
  if opcode = opcodeLed then r.program arguments else r

-- The payload that answers a command, from the registers as they stand afterwards. Commands of no
-- meaning get their arguments back.
def payload (r : Registers) (opcode : UInt8) (arguments : Bytes) : Bytes :=
  if opcode = opcodeVolts then
    [0, UInt8.ofNat (r.hvAdc.toNat / 256), UInt8.ofNat r.hvAdc.toNat]
  else if opcode = opcodeTemperature then [0, r.tempBase, r.tempFraction]
  else if opcode = opcodeLed then
    [0, if r.ledEnabled then 1 else 0] ++ wordBytes r.ledPeriod ++ wordBytes r.ledWidth
  else arguments

end Registers

structure SimulatedLink where
  devices : Nat
  registers : Table Nat Registers
  handles : Table Nat Nat
  pending : Table Nat Bytes
  frames : Array Bytes
  nextHandle : Nat
  acquired : Nat
  released : Nat
  corruptNext : Option Nat
  injection : Injection

namespace SimulatedLink

def frameRejected : Int := -20
def noResponse : Int := -21
def badHandle : Int := -22
def badAddress : Int := -23

def make (devices : Nat) : SimulatedLink := ⟨devices, [], [], [], #[], 1, 0, 0, none, .none⟩

def registersOf (l : SimulatedLink) (device : Nat) : Registers :=
  (Table.lookup device l.registers).getD .standard

def setRegisters (l : SimulatedLink) (device : Nat) (r : Registers) : SimulatedLink :=
  { l with registers := Table.put device r l.registers }

def spoil (bytes : Bytes) (index : Nat) : Bytes :=
  bytes.modify index (· ^^^ 0xFF)

def resize (bytes : Bytes) (size : Nat) : Bytes :=
  bytes.take size ++ List.replicate (size - bytes.length) 0

def enter (l : SimulatedLink) (operation : String) : Except LinkFault Unit × SimulatedLink :=
  let found := l.injection.check operation
  (found.1.mapError .status, { l with injection := found.2 })

def acquire (l : SimulatedLink) (device : Nat) : Except LinkFault Handle × SimulatedLink :=
  match l.enter "open" with
  | (.error fault, l) => (.error fault, l)
  | (.ok (), l) =>
    if l.devices ≤ device then (.error (.unknownDevice device), l)
    else (.ok ⟨l.nextHandle⟩,
      { l with
        handles := Table.put l.nextHandle device l.handles
        nextHandle := l.nextHandle + 1
        acquired := l.acquired + 1 })

def serve (l : SimulatedLink) (handle device : Nat) (opcode : UInt8) (arguments : Bytes) :
    SimulatedLink :=
  let registers := (l.registersOf device).after opcode arguments
  let response := Response.encode opcode (registers.payload opcode arguments)
  let response := match l.corruptNext with
    | some index => spoil response index
    | none => response
  { l.setRegisters device registers with
    pending := Table.put handle response l.pending
    corruptNext := none }

def write (l : SimulatedLink) (handle : Handle) (address : Nat) (data : Bytes) :
    Except LinkFault Unit × SimulatedLink :=
  match l.enter "write" with
  | (.error fault, l) => (.error fault, l)
  | (.ok (), l) =>
    if address ≠ Link.tunnel then (.error (.status badAddress), l)
    else match Table.lookup handle.number l.handles with
      | none => (.error (.status badHandle), l)
      | some device =>
        let l := { l with frames := l.frames.push data }
        match Frame.decode? data with
        | none => (.error (.status frameRejected), l)
        | some (opcode, arguments) => (.ok (), l.serve handle.number device opcode arguments)

def read (l : SimulatedLink) (handle : Handle) (address size : Nat) :
    Except LinkFault Bytes × SimulatedLink :=
  match l.enter "read" with
  | (.error fault, l) => (.error fault, l)
  | (.ok (), l) =>
    if address ≠ Link.tunnel then (.error (.status badAddress), l)
    else match Table.lookup handle.number l.handles with
      | none => (.error (.status badHandle), l)
      | some _ => match Table.lookup handle.number l.pending with
        | none => (.error (.status noResponse), l)
        | some response =>
          (.ok (resize response size),
            { l with pending := Table.erase handle.number l.pending })

-- A known handle is released even when the release is made to fail.
def release (l : SimulatedLink) (handle : Handle) : Except LinkFault Unit × SimulatedLink :=
  match Table.lookup handle.number l.handles with
  | none => (.error (.status badHandle), l)
  | some _ =>
    { l with
      handles := Table.erase handle.number l.handles
      pending := Table.erase handle.number l.pending
      released := l.released + 1 }.enter "close"

def answer (l : SimulatedLink) : (call : Link.Call) → call.Answer × SimulatedLink
  | .acquire device => l.acquire device
  | .write handle address data => l.write handle address data
  | .read handle address size => l.read handle address size
  | .release handle => l.release handle

end SimulatedLink
end PulseAnalyzer
