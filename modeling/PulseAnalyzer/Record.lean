import PulseAnalyzer.Device.Descriptor
import PulseAnalyzer.Text.Json
import PulseAnalyzer.Time.Timestamp

set_option autoImplicit false

namespace PulseAnalyzer

inductive Measurement where
  | spectrum (channel : Nat) (statistics : Statistics) (bins : Array UInt32)
  | trace (channel : Nat) (samples : Array UInt32)
  | reading (channel : Nat) (volts celsius : Float)

namespace Measurement

def channel : Measurement → Nat
  | .spectrum c _ _ => c
  | .trace c _ => c
  | .reading c _ _ => c

def counts (values : Array UInt32) : Json :=
  .array (values.toList.map fun n => .integer n.toNat)

-- The fields after the time. The statistics stand among the fields of their spectrum.
def fields : Measurement → List (String × Json)
  | .spectrum c statistics bins =>
    [("detnum", .integer c)] ++ statistics.fields.map (fun f => (f.1, .real f.2))
      ++ [("mca", counts bins)]
  | .trace c samples => [("id", .integer c), ("trace", counts samples)]
  | .reading c volts celsius =>
    [("detnum", .integer c), ("monitor_voltage", .real volts), ("temp_c", .real celsius)]

end Measurement

structure Record where
  time : Timestamp
  measurement : Measurement

namespace Record

def toJson (stamp : Timestamp → String) (r : Record) : Json :=
  .object (("timestamp", .text (stamp r.time)) :: r.measurement.fields)

def line (stamp : Timestamp → String) (real : Float → String) (r : Record) : String :=
  (r.toJson stamp).render real

def text (r : Record) : String := r.line Timestamp.text Json.realText

end Record
end PulseAnalyzer
