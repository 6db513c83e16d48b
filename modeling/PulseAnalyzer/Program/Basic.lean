import PulseAnalyzer.Device.Interface
import PulseAnalyzer.Record

/-!
Programs that talk to a device and its surroundings. A program asks for one thing at a time and
goes on with the answer, so its behaviour is fixed for all surroundings at once; running it takes a
function that answers.
-/

set_option autoImplicit false

namespace PulseAnalyzer

inductive Phase where
  | idle
  | running
  | stopping
deriving DecidableEq, Repr

def Phase.label : Phase → String
  | .idle => "idle"
  | .running => "running"
  | .stopping => "stopping"

-- Points in time are nanoseconds since some start.
abbrev Instant := Nat

-- The last point in time that can be told, in the last of 2 ^ 63 seconds.
def Instant.last : Instant := Nat.pow 2 63 * 1000000000 - 1

inductive Request where
  | api (call : Acquisition.Call)
  | link (call : Link.Call)
  | pause (millis : Nat)
  | now
  | isCancelled
  -- Wait for a deadline or for cancellation, whichever is first.
  | await (deadline : Instant)
  | enter (phase : Phase)
  | emit (measurement : Measurement)
  | print (line : Json)

-- The answer to a wait is the time it ended at its deadline, or nothing when cancelled.
@[reducible]
def Request.Answer : Request → Type
  | .api call => call.Answer
  | .link call => call.Answer
  | .pause _ => Unit
  | .now => Instant
  | .isCancelled => Bool
  | .await _ => Option Instant
  | .enter _ => Unit
  | .emit _ => Unit
  | .print _ => Unit

/-- A program is done, asks and goes on, or has spent its budget of repetitions. -/
inductive Program (α : Type) where
  | done (value : α)
  | ask (request : Request) (next : request.Answer → Program α)
  | spent

namespace Program

def bind {α β : Type} : Program α → (α → Program β) → Program β
  | .done a, f => f a
  | .ask request next, f => .ask request fun answer => (next answer).bind f
  | .spent, _ => .spent

instance : Monad Program where
  pure := .done
  bind := .bind

def request (r : Request) : Program r.Answer := .ask r .done

-- Runs a program against surroundings with a state. There is no result when the budget of
-- repetitions is spent.
def run {σ α : Type} (answer : (r : Request) → σ → r.Answer × σ) :
    Program α → σ → Option α × σ
  | .done a, s => (some a, s)
  | .ask r next, s =>
    let step := answer r s
    run answer (next step.1) step.2
  | .spent, s => (none, s)

def runIn {m : Type → Type} [Monad m] {α : Type} (answer : (r : Request) → m r.Answer) :
    Program α → m (Option α)
  | .done a => pure (some a)
  | .ask r next => do
    let value ← answer r
    runIn answer (next value)
  | .spent => pure none

end Program

abbrev Procedure := ExceptT Fault Program

namespace Procedure

def ask (r : Request) : Procedure r.Answer := ExceptT.lift (Program.request r)

def ofExcept {α : Type} (result : Except Fault α) : Procedure α := ExceptT.mk (.done result)

-- A call of the acquisition interface; a status code becomes a fault that names the operation.
def api (call : Acquisition.Call) : Procedure call.Value :=
  ExceptT.mk ((Program.request (.api call)).bind fun answer =>
    .done (checkStatus call.title answer))

end Procedure
end PulseAnalyzer
