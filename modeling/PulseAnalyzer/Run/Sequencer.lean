import PulseAnalyzer.Program.Basic
import PulseAnalyzer.Run.Plan
import PulseAnalyzer.Time.Ticker

/-!
The sequence of device calls that makes up a run. A run that was started is stopped exactly once,
whatever ends it. Cancellation is no fault; measurements are handed out when a read-out is complete.
-/

set_option autoImplicit false

namespace PulseAnalyzer

inductive Outcome where
  | completed
  | cancelled
deriving DecidableEq, Repr

def Outcome.label : Outcome → String
  | .completed => "completed"
  | .cancelled => "cancelled"

structure Summary where
  outcome : Outcome
  records : Nat
deriving DecidableEq, Repr

-- The channels that are configured and read, and the target that is started and stopped.
structure Sequencer where
  channels : List Nat
  target : Target
deriving DecidableEq, Repr

namespace Sequencer

def pollInterval : Duration := .ofSecs 1

def snapshotLength : Nat := 4096

def configure (settings : List (String × Float)) : List Nat → Procedure Unit
  | [] => return
  | channel :: rest => do
    write channel settings
    configure settings rest
where
  write (channel : Nat) : List (String × Float) → Procedure Unit
    | [] => return
    | (name, value) :: rest => do
      Procedure.api (.setValue channel name value)
      write channel rest

def begin (s : Sequencer) (resume : Bool) : Procedure Unit := do
  Procedure.api (.startRun s.target resume)
  Procedure.ask (.enter .running)

def finish (s : Sequencer) : Procedure Unit := do
  Procedure.ask (.enter .stopping)
  Procedure.api (.stopRun s.target)

-- A ticker whose first deadline is one period from now. An empty period has none, nor has one
-- that leads past the last point in time.
def ticker (period : Duration) : Procedure Ticker := do
  let now ← Procedure.ask .now
  if period.nanos = 0 ∨ Instant.last < now + period.nanos then
    Procedure.ofExcept (.error (.range (.unschedulable period)))
  else return .startingAt (now + period.nanos) period

def emitAll : List Measurement → Procedure Unit
  | [] => return
  | m :: rest => do
    Procedure.ask (.emit m)
    emitAll rest

def readSpectra : List Nat → Procedure (List Measurement)
  | [] => return []
  | channel :: rest => do
    let length ← Procedure.api (.spectrumLength channel)
    let bins ← Procedure.api (.spectrum channel length)
    let statistics ← Procedure.api (.statistics channel)
    return .spectrum channel statistics bins :: (← readSpectra rest)

-- Polls a channel once per tick, at most `budget` times, until it is inactive or the run is
-- cancelled.
def poll (channel : Nat) : Nat → Ticker → Procedure Outcome
  | 0, _ => ExceptT.mk .spent
  | budget + 1, ticker => do
    if ← Procedure.ask .isCancelled then return .cancelled
    if !(← Procedure.api (.runActive channel)) then return .completed
    match ← Procedure.ask (.await ticker.deadline) with
    | none => return .cancelled
    | some now => poll channel budget (ticker.taken now)

-- Runs `body` between the start and the stop of a run. A fault of the body comes before one of
-- the stop.
def between {α : Type} (s : Sequencer) (resume : Bool) (body : Procedure α) : Procedure α := do
  s.begin resume
  let result ← ExceptT.lift body.run
  let stopped ← ExceptT.lift s.finish.run
  Procedure.ofExcept (withCleanup result stopped)

-- A run to a preset. The channel `first` is polled; data is read after the stop.
def bounded (s : Sequencer) (first budget : Nat) (plan : BoundedPlan) : Procedure Summary := do
  configure [("preset_type", plan.presetType.code), ("preset_value", plan.presetValue)] s.channels
  if ← Procedure.ask .isCancelled then return ⟨.cancelled, 0⟩
  let outcome ← s.between plan.resume do
    poll first budget (← ticker pollInterval)
  let measurements ← readSpectra s.channels
  emitAll measurements
  return ⟨outcome, measurements.length⟩

-- The snapshot of the channels, or nothing when the run is cancelled before it is complete.
def readSnapshot : List Nat → Procedure (Option (List Measurement))
  | [] => return some []
  | channel :: rest => do
    if ← Procedure.ask .isCancelled then return none
    let bins ← Procedure.api (.snapshotSpectrum channel snapshotLength)
    if ← Procedure.ask .isCancelled then return none
    let statistics ← Procedure.api (.snapshotStatistics channel)
    match ← readSnapshot rest with
    | none => return none
    | some others => return some (.spectrum channel statistics bins :: others)

-- Takes a snapshot at every tick, at most `budget` times, until the run is cancelled. The result
-- counts the measurements on top of `emitted`.
def takeSnapshots (s : Sequencer) (clear : Bool) : Nat → Ticker → Nat → Procedure Nat
  | 0, _, _ => ExceptT.mk .spent
  | budget + 1, ticker, emitted => do
    match ← Procedure.ask (.await ticker.deadline) with
    | none => return emitted
    | some now =>
      if ← Procedure.ask .isCancelled then return emitted
      Procedure.api (.special s.target (.snapshot clear))
      match ← readSnapshot s.channels with
      | none => return emitted
      | some measurements =>
        emitAll measurements
        takeSnapshots s clear budget (ticker.taken now) (emitted + measurements.length)

def snapshots (s : Sequencer) (budget : Nat) (plan : SnapshotPlan) : Procedure Summary := do
  configure [("number_mca_channels", Float.ofNat snapshotLength), ("preset_type", 0.0)] s.channels
  if ← Procedure.ask .isCancelled then return ⟨.cancelled, 0⟩
  let records ← s.between false do
    s.takeSnapshots plan.clear budget (← ticker plan.period) 0
  return ⟨.cancelled, records⟩

def readTraces : List Nat → Procedure (Option (List Measurement))
  | [] => return some []
  | channel :: rest => do
    if ← Procedure.ask .isCancelled then return none
    let length ← Procedure.api (.traceLength channel)
    let samples ← Procedure.api (.trace channel length)
    match ← readTraces rest with
    | none => return none
    | some others => return some (.trace channel samples :: others)

def trace (s : Sequencer) (plan : TracePlan) : Procedure Summary := do
  if ← Procedure.ask .isCancelled then return ⟨.cancelled, 0⟩
  Procedure.api (.special s.target (.adcTrace plan.samplePeriod))
  match ← readTraces s.channels with
  | none => return ⟨.cancelled, 0⟩
  | some measurements =>
    emitAll measurements
    return ⟨.completed, measurements.length⟩

def perform (s : Sequencer) (first budget : Nat) : Plan → Procedure Summary
  | .bounded plan => s.bounded first budget plan
  | .snapshot plan => s.snapshots budget plan
  | .trace plan => s.trace plan

/-- Carries out a plan with at most `budget` polls or snapshots. Nothing is asked of the device
without a channel or for an invalid plan; afterwards the phase is idle again. -/
def run (s : Sequencer) (budget : Nat) (plan : Plan) : Procedure Summary :=
  match s.channels with
  | [] => Procedure.ofExcept (.error (.state .noChannels))
  | first :: _ => do
    Procedure.ofExcept plan.validate
    let result ← ExceptT.lift (s.perform first budget plan).run
    Procedure.ask (.enter .idle)
    Procedure.ofExcept result

end Sequencer
end PulseAnalyzer
