import PulseAnalyzer.Program.Basic
import PulseAnalyzer.Wire.Argument
import PulseAnalyzer.Wire.Response

set_option autoImplicit false

namespace PulseAnalyzer

inductive Stage where
  | building
  | framed
  | holding (handle : Handle)
  | released
deriving DecidableEq, Repr

def Stage.label : Stage → String
  | .building => "building"
  | .framed => "finalized"
  | .holding handle => "opened " ++ handle.label
  | .released => "closed"

-- The bytes are the opcode with the arguments so far, and the frame once it is made.
structure Command where
  device : Nat
  bytes : Bytes
  stage : Stage
deriving DecidableEq, Repr

namespace Command

def start (device : Nat) (opcode : UInt8) : Command := ⟨device, [opcode], .building⟩

def isFramed (c : Command) : Bool := c.stage ≠ .building

def append (c : Command) (a : Argument) : Except Fault Command :=
  if c.isFramed then .error (.state (.alreadyFinal a.kind a.value))
  else if a.kind.maxValue < a.value then .error (.range (.argument a.kind a.value))
  else .ok { c with bytes := c.bytes ++ a.bytes }

-- Appends a value whose kind is given by name; an unknown name is reported first.
def appendNamed (c : Command) (value : Nat) (kind : String) : Except Fault Command := do
  c.append ⟨← ArgumentKind.parse kind, value⟩

def appendAll (c : Command) : List Argument → Except Fault Command
  | [] => .ok c
  | a :: rest => do (← c.append a).appendAll rest

-- Makes the frame, unless it is made already.
def finalize (c : Command) : Command :=
  if c.isFramed then c else { c with bytes := Frame.encode c.bytes, stage := .framed }

def link (call : Link.Call) : Program (Except Fault call.Value) :=
  (Program.request (.link call)).bind fun answer =>
    .done (answer.mapError (.link call.action ·))

def write (c : Command) (handle : Handle) : Program (Except Fault Unit × Command) := do
  return (← link (.write handle Link.tunnel c.bytes), c)

def send (c : Command) : Program (Except Fault Unit × Command) := do
  let c := c.finalize
  match c.stage with
  | .holding handle => c.write handle
  | _ => match ← link (.acquire c.device) with
    | .error fault => return (.error fault, c)
    | .ok handle => Command.write { c with stage := .holding handle } handle

def receive (c : Command) (size : Nat) : Program (Except Fault Bytes × Command) := do
  match c.stage with
  | .holding handle =>
    return ((← link (.read handle Link.tunnel size)).bind Response.payload, c)
  | _ => return (.error (.state .notSent), c)

-- Releases the handle if one is held. It counts as released also when the link reports a failure.
def close (c : Command) : Program (Except Fault Unit × Command) := do
  match c.stage with
  | .holding handle => return (← link (.release handle), { c with stage := .released })
  | _ => return (.ok (), c)

def discard (c : Command) : Program Unit := do
  let _ ← c.close

-- The time an ADC needs to wake up between two requests, in milliseconds.
def wakeMillis : Nat := 100

def resend (c : Command) : Nat → Program (Except Fault Unit × Command)
  | 0 => return (.ok (), c)
  | times + 1 => do
    Program.request (.pause wakeMillis)
    match ← c.send with
    | (.error fault, c) => return (.error fault, c)
    | (.ok (), c) => c.resend times

def sendAll (c : Command) (sends : Nat) : Program (Except Fault Unit × Command) := do
  match sends with
  | 0 => return (.ok (), c)
  | again + 1 => match ← c.send with
    | (.error fault, c) => return (.error fault, c)
    | (.ok (), c) => c.resend again

def transact (c : Command) (sends size : Nat) : Procedure Bytes := ExceptT.mk do
  let (sent, c) ← c.sendAll sends
  let (result, c) ← match sent with
    | .error fault => pure (.error fault, c)
    | .ok () => c.receive size
  let (closed, c) ← c.close
  c.discard
  return withCleanup result closed

end Command
end PulseAnalyzer
