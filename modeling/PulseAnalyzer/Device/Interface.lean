import PulseAnalyzer.Device.Descriptor

set_option autoImplicit false

namespace PulseAnalyzer

inductive Target where
  | all
  | channel (index : Nat)
deriving DecidableEq, Repr

namespace Target

-- The number that stands for the target; all channels together are -1.
def number : Target → Int
  | .all => -1
  | .channel index => index

def ofIndex (index : Int) : Target := if index < 0 then .all else .channel index.toNat

end Target

inductive SpecialRun where
  | snapshot (clear : Bool)
  | adcTrace (samplePeriod : Float)

namespace SpecialRun

def label : SpecialRun → String
  | .snapshot _ => "snapshot"
  | .adcTrace _ => "adc_trace"

def parameters : SpecialRun → List Float
  | .snapshot clear => [if clear then 1.0 else 0.0]
  | .adcTrace samplePeriod => [0.0, samplePeriod]

end SpecialRun

namespace Acquisition

inductive Call where
  | boardInfo (channel : Nat)
  | serialNumber (channel : Nat)
  | getValue (channel : Nat) (name : String)
  | setValue (channel : Nat) (name : String) (value : Float)
  | startRun (target : Target) (resume : Bool)
  | stopRun (target : Target)
  | runActive (channel : Nat)
  | spectrumLength (channel : Nat)
  | spectrum (channel length : Nat)
  | statistics (channel : Nat)
  | special (target : Target) (run : SpecialRun)
  | snapshotSpectrum (channel length : Nat)
  | snapshotStatistics (channel : Nat)
  | traceLength (channel : Nat)
  | trace (channel length : Nat)

namespace Call

@[reducible]
def Value : Call → Type
  | .boardInfo _ => Bytes
  | .serialNumber _ => Bytes
  | .getValue _ _ => Float
  | .setValue _ _ _ => Unit
  | .startRun _ _ => Unit
  | .stopRun _ => Unit
  | .runActive _ => Bool
  | .spectrumLength _ => Nat
  | .spectrum _ _ => Array UInt32
  | .statistics _ => Statistics
  | .special _ _ => Unit
  | .snapshotSpectrum _ _ => Array UInt32
  | .snapshotStatistics _ => Statistics
  | .traceLength _ => Nat
  | .trace _ _ => Array UInt32

abbrev Answer (call : Call) : Type := Except Int call.Value

def operation : Call → String
  | .boardInfo _ => "get_board_info"
  | .serialNumber _ => "get_serial_number"
  | .getValue _ _ => "get_acquisition_value"
  | .setValue _ _ _ => "set_acquisition_value"
  | .startRun _ _ => "start_run"
  | .stopRun _ => "stop_run"
  | .runActive _ => "run_active"
  | .spectrumLength _ => "mca_length"
  | .spectrum _ _ => "mca"
  | .statistics _ => "module_statistics_2"
  | .special _ run => run.label
  | .snapshotSpectrum _ _ => "snapshot_mca"
  | .snapshotStatistics _ => "snapshot_statistics"
  | .traceLength _ => "adc_trace_length"
  | .trace _ _ => "adc_trace"

-- The operation as failures name it; reads and writes of values carry the name of the value.
def title : Call → String
  | .getValue _ name => "get_acquisition_value(" ++ name ++ ")"
  | .setValue _ name _ => "set_acquisition_value(" ++ name ++ ")"
  | call => call.operation

end Call
end Acquisition

def checkStatus {α : Type} (operation : String) (answer : Except Int α) : Except Fault α :=
  answer.mapError (.device operation ·)

namespace Link

def tunnel : Nat := 0x01000000

inductive Call where
  | acquire (device : Nat)
  | write (handle : Handle) (address : Nat) (data : Bytes)
  | read (handle : Handle) (address size : Nat)
  | release (handle : Handle)

namespace Call

@[reducible]
def Value : Call → Type
  | .acquire _ => Handle
  | .write _ _ _ => Unit
  | .read _ _ _ => Bytes
  | .release _ => Unit

abbrev Answer (call : Call) : Type := Except LinkFault call.Value

def action : Call → LinkAction
  | .acquire _ => .acquire
  | .write _ _ _ => .write
  | .read _ _ _ => .read
  | .release _ => .release

end Call
end Link
end PulseAnalyzer
