import PulseAnalyzer.Device.Session
import PulseAnalyzer.Run.Sequencer

set_option autoImplicit false

namespace PulseAnalyzer

structure Monitor where
  channels : List Nat
  period : Duration
deriving DecidableEq, Repr

namespace Monitor

def minPeriod : Duration := .ofMillis 1

def of (channels : List Nat) : Monitor := ⟨channels, .ofSecs 15⟩

def withPeriodSecs (m : Monitor) (secs : Float) : Except Fault Monitor :=
  match Duration.ofSeconds? secs with
  | none => .error (.range (.monitorPeriod secs))
  | some period => (checkPeriod "monitor" period minPeriod).map fun _ => { m with period }

-- The readings of the channels, or nothing when cancelled before the last has begun.
def readAll (session : Session) : List Nat → Procedure (Option (List Measurement))
  | [] => return some []
  | channel :: rest => do
    if ← Procedure.ask .isCancelled then return none
    let volts ← session.readVolts channel
    if ← Procedure.ask .isCancelled then return none
    let celsius ← Session.readTemperature channel
    match ← readAll session rest with
    | none => return none
    | some others => return some (.reading channel volts celsius :: others)

-- Reads at every tick, at most `budget` times; the result counts on top of `emitted`.
def cycles (m : Monitor) (session : Session) : Nat → Ticker → Nat → Procedure Nat
  | 0, _, _ => ExceptT.mk .spent
  | budget + 1, ticker, emitted => do
    match ← Procedure.ask (.await ticker.deadline) with
    | none => return emitted
    | some now => match ← readAll session m.channels with
      | none => return emitted
      | some readings =>
        Sequencer.emitAll readings
        cycles m session budget (ticker.taken now) (emitted + readings.length)

def run (m : Monitor) (session : Session) (budget : Nat) : Procedure Nat := do
  Procedure.ofExcept (checkPeriod "monitor" m.period minPeriod)
  let now ← Procedure.ask .now
  m.cycles session budget (.startingAt now m.period) 0

end Monitor
end PulseAnalyzer
