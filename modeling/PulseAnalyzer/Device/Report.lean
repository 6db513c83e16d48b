import PulseAnalyzer.Device.Descriptor
import PulseAnalyzer.Text.Json

set_option autoImplicit false

namespace PulseAnalyzer

def byteJson (b : UInt8) : Json := .integer b.toNat

namespace FilterBlock

def toJson (b : FilterBlock) : Json :=
  .object [("decimation", byteJson b.decimation), ("version", byteJson b.version),
    ("variant", byteJson b.variant)]

end FilterBlock

namespace Board

def scalarNames : List String :=
  ["pic_variant", "pic_major", "pic_minor", "dsp_variant", "dsp_major", "dsp_minor",
    "clock_speed_mhz", "clock_enable", "fippi_count", "gain_mode", "gain_low", "gain_high",
    "gain_exponent", "nyquist_filter", "adc_speed_grade", "fpga_speed_grade", "analog_power"]

def toJson (b : Board) : Json :=
  .object (scalarNames.zip (b.scalars.map byteJson)
    ++ [("fippi", .array (b.filters.map FilterBlock.toJson))])

end Board

def SerialNumber.toJson (s : SerialNumber) : Json :=
  .object [("header", .text s.header), ("variant", .text s.variant), ("revision", .text s.revision),
    ("batch_week", .text s.batchWeek), ("batch_year", .text s.batchYear), ("sn", .text s.number)]

def Statistics.toJson (s : Statistics) : Json :=
  .object (s.fields.map fun f => (f.1, .real f.2))

def LedStatus.toJson (s : LedStatus) : Json :=
  .object [("cmd_status", byteJson s.commandStatus), ("enabled", .bool s.enabled),
    ("period_us", .real s.periodMicros), ("width_ns", .real s.widthNanos)]

end PulseAnalyzer
