import PulseAnalyzer.Program.Basic
import PulseAnalyzer.Simulator.Injection
import PulseAnalyzer.Simulator.Noise

set_option autoImplicit false

namespace PulseAnalyzer

structure SimulatedApi where
  channels : Nat
  values : Table (Nat × String) Float
  calls : Array Acquisition.Call
  -- Answers for the next polls, whatever the state of the run.
  script : List Bool
  running : Bool
  startedAt : Option Nat
  snapshots : UInt32
  lastClear : Bool
  samplePeriod : Float
  key : Noise.Key
  drawn : Nat
  injection : Injection

namespace SimulatedApi
open Acquisition

def badChannel : Int := -501
def standardSeed : UInt64 := 0x5EED
def standardLength : Nat := 2048
def traceSamples : Nat := 8192

def make (channels : Nat) (seed : UInt64) : SimulatedApi :=
  ⟨channels, [], #[], [], false, none, 0, true, 25.0, .ofSeed seed, 0, .none⟩

def value? (s : SimulatedApi) (channel : Nat) (name : String) : Option Float :=
  Table.lookup (channel, name) s.values

def store (s : SimulatedApi) (channel : Nat) (name : String) (value : Float) : SimulatedApi :=
  { s with values := Table.put (channel, name) value s.values }

def elapsed (s : SimulatedApi) (now : Instant) : Float :=
  match s.startedAt with
  | some start => Duration.toSecs ⟨now - start⟩
  | none => 0.0

-- The larger of two numbers, where NaN loses.
def atLeast (least x : Float) : Float := if least < x then x else least

def mean (length : Nat) (exposure : Float) (index : Nat) : Float :=
  let centre := Float.ofNat length / 3.0
  let sigma := atLeast 1.0 (Float.ofNat length / 100.0)
  let x := (Float.ofNat index - centre) / sigma
  exposure * (2.0 + 200.0 * Float.exp (-0.5 * x * x))

-- The count of a bin, its noise being a random number in units of the square root of the mean.
def bin (length : Nat) (exposure : Float) (index : Nat) (noise : Float) : UInt32 :=
  let mean := mean length exposure index
  (atLeast 0.0 (mean + noise * mean.sqrt)).round.toUInt32

-- The bins from `index` on. The block of random words at hand is renewed every eighth draw.
def bins (key : Noise.Key) (start length : Nat) (exposure : Float) :
    Nat → Nat → Noise.Block → Array UInt32 → Array UInt32
  | 0, _, _, acc => acc
  | left + 1, index, block, acc =>
    let position := start + index
    let block := if position % 8 = 0 then Noise.block key (UInt64.ofNat (position / 8)) else block
    bins key start length exposure left (index + 1) block
      (acc.push (bin length exposure index (Noise.unit (block.pair (position % 8)))))

def spectrumAt (key : Noise.Key) (start length : Nat) (exposure : Float) : Array UInt32 :=
  bins key start length exposure length 0 (Noise.block key (UInt64.ofNat (start / 8))) #[]

def rate (count time : Float) : Float := if 0.0 < time then count / time else 0.0

def statisticsOf (runTime events : Float) : Statistics :=
  let live := runTime * 0.98
  { runTime
    triggerLivetime := live
    energyLivetime := live
    triggers := events * 1.02
    events
    inputRate := rate (events * 1.02) live
    outputRate := rate events runTime
    underflows := 0.0
    overflows := 0.0 }

def sample (samplePeriod : Float) (pulseEvery index : Nat) : UInt32 :=
  let t := Float.ofNat (index % pulseEvery) * samplePeriod
  (1000.0 + 800.0 * Float.exp (-t / 400.0)).round.toUInt32

def traceOf (samplePeriod : Float) (length : Nat) : Array UInt32 :=
  let pulseEvery := (atLeast 1.0 (2000.0 / samplePeriod)).toUInt64.toNat
  Array.ofFn fun i : Fin length => sample samplePeriod pulseEvery i

def boardBytes : Bytes :=
  [1, 3, 7, 0, 4, 2, 40, 1, 3] ++ List.replicate 8 0 ++ [2, 1, 0, 4, 1, 0, 8, 1, 0]

-- The serial number ends in the channel, of at least four digits.
def serialBytes (channel : Nat) : Bytes :=
  let digits := Nat.toDigits 10 channel
  ("SNHUD01A45190".toList ++ List.replicate (4 - digits.length) '0' ++ digits).map
    fun c => UInt8.ofNat c.toNat

def channelOf? : Call → Option Nat
  | .boardInfo c | .serialNumber c | .getValue c _ | .setValue c _ _ | .runActive c
  | .spectrumLength c | .spectrum c _ | .statistics c | .snapshotSpectrum c _
  | .snapshotStatistics c | .traceLength c | .trace c _ => some c
  | .startRun target _ | .stopRun target | .special target _ =>
    match target with
    | .all => none
    | .channel c => some c

def enter (s : SimulatedApi) (call : Call) : Except Int Unit × SimulatedApi :=
  let found := s.injection.check call.operation
  let s := { s with calls := s.calls.push call, injection := found.2 }
  match found.1 with
  | .error code => (.error code, s)
  | .ok () =>
    match channelOf? call with
    | some c => if s.channels ≤ c then (.error badChannel, s) else (.ok (), s)
    | none => (.ok (), s)

def spectrumLength (s : SimulatedApi) (channel : Nat) : Nat :=
  match s.value? channel "number_mca_channels" with
  | some n => n.toUInt64.toNat
  | none => standardLength

def timeLimit? (s : SimulatedApi) (channel : Nat) : Option Float :=
  let presetType := (s.value? channel "preset_type").getD 0.0
  let limit := (s.value? channel "preset_value").getD 0.0
  if (presetType == 1.0 || presetType == 2.0) && 0.0 < limit then some limit else none

-- A poll takes the next scripted answer; without one it looks at the run, and ends it when its
-- time is over.
def poll (s : SimulatedApi) (now : Instant) (channel : Nat) : Bool × SimulatedApi :=
  match s.script with
  | active :: rest => (active, { s with script := rest })
  | [] =>
    if s.running then
      match s.timeLimit? channel with
      | some limit =>
        if s.elapsed now < limit then (true, s) else (false, { s with running := false })
      | none => (true, s)
    else (false, s)

def drawSpectrum (s : SimulatedApi) (length : Nat) (exposure : Float) :
    Array UInt32 × SimulatedApi :=
  (spectrumAt s.key s.drawn length exposure, { s with drawn := s.drawn + length })

-- The exposure of a snapshot: one unit after each clearing trigger, else one for every trigger.
def snapshotExposure (s : SimulatedApi) : Float :=
  if s.lastClear then 1.0 else Float.ofNat (max s.snapshots.toNat 1)

def perform (s : SimulatedApi) (now : Instant) : (call : Call) → call.Value × SimulatedApi
  | .boardInfo _ => (boardBytes, s)
  | .serialNumber channel => (serialBytes channel, s)
  | .getValue channel name => ((s.value? channel name).getD 0.0, s)
  | .setValue channel name value => ((), s.store channel name value)
  | .startRun _ resume =>
    ((), { s with
      running := true
      startedAt := some now
      snapshots := if resume then s.snapshots else 0 })
  | .stopRun _ => ((), { s with running := false })
  | .runActive channel => s.poll now channel
  | .spectrumLength channel => (s.spectrumLength channel, s)
  | .spectrum _ length => s.drawSpectrum length (atLeast 1.0 (s.elapsed now))
  | .statistics _ => (statisticsOf (s.elapsed now) (s.elapsed now * 1000.0), s)
  | .special _ (.snapshot clear) =>
    ((), { s with snapshots := s.snapshots + 1, lastClear := clear })
  | .special _ (.adcTrace samplePeriod) => ((), { s with samplePeriod })
  | .snapshotSpectrum _ length => s.drawSpectrum length s.snapshotExposure
  | .snapshotStatistics _ =>
    (statisticsOf (s.elapsed now) (Float.ofNat s.snapshots.toNat * 1000.0), s)
  | .traceLength _ => (traceSamples, s)
  | .trace _ length => (traceOf s.samplePeriod length, s)

def answer (s : SimulatedApi) (now : Instant) (call : Call) : call.Answer × SimulatedApi :=
  match s.enter call with
  | (.error code, s) => (.error code, s)
  | (.ok (), s) =>
    let performed := s.perform now call
    (.ok performed.1, performed.2)

-- Whether a call counts one snapshot more than the counter holds. The counter wraps.
def overflows (s : SimulatedApi) : Call → Bool
  | .special _ (.snapshot _) => s.snapshots + 1 = 0
  | _ => false

def reaches (s : SimulatedApi) (call : Call) : Bool :=
  match channelOf? call with
  | some c => c < s.channels
  | none => true

-- A call where all counters have 32 bits and their arithmetic may be checked. One that overflows a checked counter is
-- noted and abandoned before it does anything else, and gives no answer.
def attempt (s : SimulatedApi) (checked : Bool) (now : Instant) (call : Call) : Option call.Answer × SimulatedApi :=
  let found := s.injection.attempt checked call.operation
  let s := { s with calls := s.calls.push call, injection := found.2 }
  match found.1 with
  | none => (none, s)
  | some (.error code) => (some (.error code), s)
  | some (.ok ()) =>
    if !s.reaches call then (some (.error badChannel), s)
    else if checked && s.overflows call then (none, s)
    else
      let performed := s.perform now call
      (some (.ok performed.1), performed.2)

def count (s : SimulatedApi) (operation : String) : Nat :=
  (s.calls.toList.filter fun call => call.operation = operation).length

end SimulatedApi
end PulseAnalyzer
