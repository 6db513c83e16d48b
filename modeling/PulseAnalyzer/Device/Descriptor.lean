import PulseAnalyzer.Fault
import PulseAnalyzer.Text.Utf8

set_option autoImplicit false

namespace PulseAnalyzer

structure FilterBlock where
  decimation : UInt8
  version : UInt8
  variant : UInt8
deriving DecidableEq, Repr

def FilterBlock.bytes (b : FilterBlock) : Bytes := [b.decimation, b.version, b.variant]

structure Board where
  picVariant : UInt8
  picMajor : UInt8
  picMinor : UInt8
  dspVariant : UInt8
  dspMajor : UInt8
  dspMinor : UInt8
  clockMegahertz : UInt8
  clockEnable : UInt8
  filterCount : UInt8
  gainMode : UInt8
  gainLow : UInt8
  gainHigh : UInt8
  gainExponent : UInt8
  nyquistFilter : UInt8
  adcSpeedGrade : UInt8
  fpgaSpeedGrade : UInt8
  analogPower : UInt8
  filter0 : FilterBlock
  filter1 : FilterBlock
  filter2 : FilterBlock
deriving DecidableEq, Repr

namespace Board

def size : Nat := 26

def filters (b : Board) : List FilterBlock := [b.filter0, b.filter1, b.filter2]

def scalars (b : Board) : Bytes :=
  [b.picVariant, b.picMajor, b.picMinor, b.dspVariant, b.dspMajor, b.dspMinor, b.clockMegahertz,
    b.clockEnable, b.filterCount, b.gainMode, b.gainLow, b.gainHigh, b.gainExponent,
    b.nyquistFilter, b.adcSpeedGrade, b.fpgaSpeedGrade, b.analogPower]

def bytes (b : Board) : Bytes := b.scalars ++ b.filters.flatMap FilterBlock.bytes

def decode (raw : Bytes) : Except Fault Board :=
  match raw with
  | b0 :: b1 :: b2 :: b3 :: b4 :: b5 :: b6 :: b7 :: b8 :: b9 :: b10 :: b11 :: b12 :: b13 :: b14
      :: b15 :: b16 :: b17 :: b18 :: b19 :: b20 :: b21 :: b22 :: b23 :: b24 :: b25 :: _ =>
    .ok ⟨b0, b1, b2, b3, b4, b5, b6, b7, b8, b9, b10, b11, b12, b13, b14, b15, b16,
      ⟨b17, b18, b19⟩, ⟨b20, b21, b22⟩, ⟨b23, b24, b25⟩⟩
  | _ => .error (.length (UInt8.ofNat size) raw.length)

end Board

structure SerialNumber where
  header : String
  variant : String
  revision : String
  batchWeek : String
  batchYear : String
  number : String
deriving DecidableEq, Repr

namespace SerialNumber

def size : Nat := 17

-- The text of a field up to its first zero byte.
def fieldText (field : Bytes) : String := Utf8.decode (field.takeWhile (· ≠ 0))

def slice (raw : Bytes) (offset width : Nat) : Bytes := (raw.drop offset).take width

def decode (raw : Bytes) : Except Fault SerialNumber :=
  if raw.length < size then .error (.length (UInt8.ofNat size) raw.length)
  else .ok
    { header := fieldText (slice raw 0 3)
      variant := fieldText (slice raw 3 2)
      revision := fieldText (slice raw 5 2)
      batchWeek := fieldText (slice raw 7 2)
      batchYear := fieldText (slice raw 9 2)
      number := fieldText (slice raw 11 6) }

end SerialNumber

structure Statistics where
  runTime : Float
  triggerLivetime : Float
  energyLivetime : Float
  triggers : Float
  events : Float
  inputRate : Float
  outputRate : Float
  underflows : Float
  overflows : Float

namespace Statistics

def size : Nat := 9

def ofList (values : List Float) : Except Fault Statistics :=
  match values with
  | a :: b :: c :: d :: e :: f :: g :: h :: i :: _ => .ok ⟨a, b, c, d, e, f, g, h, i⟩
  | _ => .error (.length (UInt8.ofNat size) values.length)

def toList (s : Statistics) : List Float :=
  [s.runTime, s.triggerLivetime, s.energyLivetime, s.triggers, s.events, s.inputRate,
    s.outputRate, s.underflows, s.overflows]

def names : List String :=
  ["run_time", "trigger_livetime", "energy_livetime", "triggers", "events", "icr", "ocr",
    "underflows", "overflows"]

def fields (s : Statistics) : List (String × Float) := names.zip s.toList

end Statistics

structure LedStatus where
  commandStatus : UInt8
  enabled : Bool
  periodMicros : Float
  widthNanos : Float

end PulseAnalyzer
