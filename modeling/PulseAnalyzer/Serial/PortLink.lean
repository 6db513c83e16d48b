import PulseAnalyzer.Device.Interface
import PulseAnalyzer.Simulator.Table

set_option autoImplicit false

namespace PulseAnalyzer

structure Pipe where
  toHost : Bytes
  toDevice : Bytes
  hostOpen : Bool
  deviceOpen : Bool
deriving DecidableEq, Repr

structure PortLink where
  ports : List String
  patience : Duration
  pipes : Table Nat Pipe
  nextHandle : Nat
deriving DecidableEq, Repr

namespace PortLink

def make (ports : List String) (patience : Duration) : PortLink := ⟨ports, patience, [], 1⟩

def attach (l : PortLink) : Handle × PortLink :=
  (⟨l.nextHandle⟩,
    { l with
      pipes := Table.put l.nextHandle ⟨[], [], true, true⟩ l.pipes
      nextHandle := l.nextHandle + 1 })

def openCount (l : PortLink) : Nat := (l.pipes.filter fun entry => entry.2.hostOpen).length

def pipe? (l : PortLink) (handle : Handle) : Option Pipe :=
  (Table.lookup handle.number l.pipes).filter Pipe.hostOpen

def setPipe (l : PortLink) (handle : Handle) (p : Pipe) : PortLink :=
  { l with pipes := Table.put handle.number p l.pipes }

-- No port of the list can be opened by its path: the ports in use are attached.
def acquire (l : PortLink) (device : Nat) : Except LinkFault Handle :=
  match l.ports[device]? with
  | none => .error (.unknownDevice device)
  | some _ => .error .noSuchFile

def write (l : PortLink) (handle : Handle) (data : Bytes) : Except LinkFault Unit × PortLink :=
  match l.pipe? handle with
  | none => (.error (.notOpen handle), l)
  | some p =>
    if p.deviceOpen ∨ data = [] then
      (.ok (), l.setPipe handle { p with toDevice := p.toDevice ++ data })
    else (.error .brokenPipe, l)

structure Reading where
  result : Except LinkFault Bytes
  elapsed : Duration
  left : Bytes

-- Waits until `size` bytes have arrived. The device end may write more in the meantime, each time a while after the
-- time before. What comes after the end of the wait stays in the pipe.
def awaitBytes (size : Nat) (patience : Duration) (arrived : Bytes) (waited : Duration) :
    List (Duration × Bytes) → Reading
  | [] =>
    if size ≤ arrived.length then ⟨.ok (arrived.take size), waited, arrived.drop size⟩
    else ⟨.error (.timedOut size patience), patience, []⟩
  | (gap, bytes) :: rest =>
    let late := bytes ++ rest.flatMap Prod.snd
    if size ≤ arrived.length then ⟨.ok (arrived.take size), waited, arrived.drop size ++ late⟩
    else if patience.nanos < waited.nanos + gap.nanos then
      ⟨.error (.timedOut size patience), patience, late⟩
    else awaitBytes size patience (arrived ++ bytes) ⟨waited.nanos + gap.nanos⟩ rest

def readPipe (p : Pipe) (size : Nat) (patience : Duration) (during : List (Duration × Bytes)) : Reading :=
  if size ≤ p.toHost.length ∨ p.deviceOpen then awaitBytes size patience p.toHost ⟨0⟩ during
  else ⟨.error .earlyEnd, ⟨0⟩, []⟩

def readDuring (l : PortLink) (handle : Handle) (size : Nat) (during : List (Duration × Bytes)) :
    Except LinkFault Bytes × Duration × PortLink :=
  match l.pipe? handle with
  | none => (.error (.notOpen handle), ⟨0⟩, l)
  | some p =>
    let reading := readPipe p size l.patience during
    (reading.result, reading.elapsed, l.setPipe handle { p with toHost := reading.left })

def read (l : PortLink) (handle : Handle) (size : Nat) (later : Option (Duration × Bytes)) :
    Except LinkFault Bytes × Duration × PortLink :=
  l.readDuring handle size later.toList

def release (l : PortLink) (handle : Handle) : Except LinkFault Unit × PortLink :=
  match l.pipe? handle with
  | none => (.error (.notOpen handle), l)
  | some p => (.ok (), l.setPipe handle { p with hostOpen := false })

def answer (l : PortLink) : (call : Link.Call) → call.Answer × Duration × PortLink
  | .acquire device => (l.acquire device, ⟨0⟩, l)
  | .write handle _ data => let done := l.write handle data; (done.1, ⟨0⟩, done.2)
  | .read handle _ size => l.read handle size none
  | .release handle => let done := l.release handle; (done.1, ⟨0⟩, done.2)

def deviceWrite (l : PortLink) (handle : Handle) (data : Bytes) : Bool × PortLink :=
  match (Table.lookup handle.number l.pipes).filter Pipe.deviceOpen with
  | none => (false, l)
  | some p =>
    if p.hostOpen ∨ data = [] then
      (true, l.setPipe handle { p with toHost := p.toHost ++ data })
    else (false, l)

def deviceRead (l : PortLink) (handle : Handle) (size : Nat) : Option Bytes × PortLink :=
  match (Table.lookup handle.number l.pipes).filter Pipe.deviceOpen with
  | none => (none, l)
  | some p =>
    if size ≤ p.toDevice.length then
      (some (p.toDevice.take size), l.setPipe handle { p with toDevice := p.toDevice.drop size })
    else (none, l.setPipe handle { p with toDevice := [] })

def deviceClose (l : PortLink) (handle : Handle) : Bool × PortLink :=
  match (Table.lookup handle.number l.pipes).filter Pipe.deviceOpen with
  | none => (false, l)
  | some p => (true, l.setPipe handle { p with deviceOpen := false })

end PortLink
end PulseAnalyzer
