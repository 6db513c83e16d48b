import PulseAnalyzer.Fault
import PulseAnalyzer.Text.Ascii

set_option autoImplicit false

namespace PulseAnalyzer

inductive PresetType where
  | none
  | real
  | live
  | event
  | trigger
deriving DecidableEq, Repr

namespace PresetType

def code : PresetType → Float
  | .none => 0.0
  | .real => 1.0
  | .live => 2.0
  | .event => 3.0
  | .trigger => 4.0

def isTimed : PresetType → Bool
  | .real | .live => true
  | _ => false

def label : PresetType → String
  | .none => "none"
  | .real => "real"
  | .live => "live"
  | .event => "event"
  | .trigger => "trigger"

def ofLabel? : String → Option PresetType
  | "none" => some .none
  | "real" => some .real
  | "live" => some .live
  | "event" => some .event
  | "trigger" => some .trigger
  | _ => Option.none

def parse (name : String) : Except Fault PresetType :=
  match ofLabel? (lowerAscii name) with
  | some preset => .ok preset
  | Option.none => .error (.range (.presetType (lowerAscii name)))

end PresetType

def checkPeriod (what : String) (period least : Duration) : Except Fault Unit :=
  if period.nanos < least.nanos ∨ maxPeriod.nanos < period.nanos ∨ period.nanos = 0 then
    .error (.range (.period what period least))
  else .ok ()

structure BoundedPlan where
  presetType : PresetType
  presetValue : Float
  resume : Bool

namespace BoundedPlan

def validate (p : BoundedPlan) : Except Fault Unit :=
  if !p.presetValue.isFinite || p.presetValue < 0.0 then
    .error (.range (.presetValue p.presetValue))
  else .ok ()

def make (presetType : PresetType) (presetValue : Float) (resume : Bool) :
    Except Fault BoundedPlan :=
  let plan : BoundedPlan := ⟨presetType, presetValue, resume⟩
  plan.validate.map fun _ => plan

end BoundedPlan

structure SnapshotPlan where
  period : Duration
  clear : Bool
deriving DecidableEq, Repr

namespace SnapshotPlan

def minPeriod : Duration := .ofSecs 1

def standard : SnapshotPlan := ⟨.ofSecs 5, true⟩

def validate (p : SnapshotPlan) : Except Fault Unit := checkPeriod "snapshot" p.period minPeriod

-- The plan with a period in seconds; one out of range changes nothing.
def withPeriodSecs (p : SnapshotPlan) (secs : Float) : SnapshotPlan :=
  match Duration.ofSeconds? secs with
  | some period =>
    match checkPeriod "snapshot" period minPeriod with
    | .ok () => { p with period }
    | .error _ => p
  | none => p

def withClear (p : SnapshotPlan) (clear : Nat) : Except Fault SnapshotPlan :=
  match clear with
  | 0 => .ok { p with clear := false }
  | 1 => .ok { p with clear := true }
  | other => .error (.range (.clearFlag other))

end SnapshotPlan

structure TracePlan where
  samplePeriod : Float

namespace TracePlan

def accepts (nanos : Float) : Bool := minSamplePeriod <= nanos && nanos <= maxSamplePeriod

def standard : TracePlan := ⟨minSamplePeriod⟩

def validate (p : TracePlan) : Except Fault Unit :=
  if accepts p.samplePeriod then .ok () else .error (.range (.samplePeriod p.samplePeriod))

-- The plan with a sample period in nanoseconds; one out of range changes nothing.
def withSamplePeriod (p : TracePlan) (nanos : Float) : TracePlan :=
  if accepts nanos then ⟨nanos⟩ else p

end TracePlan

inductive Plan where
  | bounded (plan : BoundedPlan)
  | snapshot (plan : SnapshotPlan)
  | trace (plan : TracePlan)

namespace Plan

def label : Plan → String
  | .bounded _ => "mca"
  | .snapshot _ => "snapshot"
  | .trace _ => "trace"

def validate : Plan → Except Fault Unit
  | .bounded plan => plan.validate
  | .snapshot plan => plan.validate
  | .trace plan => plan.validate

end Plan
end PulseAnalyzer
