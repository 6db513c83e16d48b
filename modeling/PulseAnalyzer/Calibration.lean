import PulseAnalyzer.Fault

set_option autoImplicit false

namespace PulseAnalyzer

def toPhysical (raw scale offset : Float) : Float := raw * scale + offset

-- The nearest raw count, half a count going to the even neighbour.
def toRaw (physical scale offset : Float) : Int := toWord64 .toEven ((physical - offset) / scale)

-- Bits 4 to 7 of the fraction are sixteenths, eighths, quarters and halves of a degree.
def decodeTemperature (base fraction : UInt8) : Float :=
  [(4, 0.0625), (5, 0.125), (6, 0.25), (7, 0.5)].foldl
    (fun (sum : Float) (bit : Nat × Float) =>
      if fraction.toNat.testBit bit.1 then sum + bit.2 else sum)
    base.toFloat

structure Quantity where
  low : Float
  high : Float
  offset : Float
  scale : Float
  unit : String

namespace Quantity

def contains (q : Quantity) (value : Float) : Bool := q.low <= value && value <= q.high

def raw (q : Quantity) (physical : Float) : Int := PulseAnalyzer.toRaw physical q.scale q.offset

def physical (q : Quantity) (raw : Float) : Float := toPhysical raw q.scale q.offset

def checkedWord (q : Quantity) (name : String) (physical : Float) : Except Fault UInt16 :=
  if q.contains physical then
    let raw := q.raw physical
    if 0 ≤ raw ∧ raw < 65536 then .ok (UInt16.ofNat raw.toNat)
    else .error (.range (.wordOverflow name raw))
  else .error (.range (.quantity name physical q.low q.high q.unit))

def validate (q : Quantity) (name : String) : Except Fault Unit :=
  if q.high < q.low then .error (.configuration (.inverted name q.low q.high))
  else if q.scale == 0.0 || !q.scale.isFinite then
    .error (.configuration (.degenerateScale name))
  else .ok ()

end Quantity

-- How volts relate to the device: by the factors `set` and `monitor` with an excluded upper
-- bound, or by the linear transform with an included one.
inductive Profile where
  | factor
  | linear
deriving DecidableEq, Repr

def Profile.label : Profile → String
  | .factor => "factor"
  | .linear => "linear"

structure HighVoltage where
  quantity : Quantity
  set : Float
  monitor : Float

structure Calibration where
  profile : Profile
  hv : HighVoltage
  ledPeriod : Quantity
  ledWidth : Quantity

namespace Calibration

def standard : Calibration where
  profile := .factor
  hv := ⟨⟨0.0, 1500.0, 0.0, 1.0, "V"⟩, 1.0, 1.0⟩
  ledPeriod := ⟨1.0, 1000.0, 0.0, 0.05, "us"⟩
  ledWidth := ⟨10.0, 1000.0, 0.0, 5.0, "ns"⟩

def validate (c : Calibration) : Except Fault Unit := do
  c.hv.quantity.validate "hv"
  c.ledPeriod.validate "led_period"
  c.ledWidth.validate "led_width"
  if c.hv.set == 0.0 || c.hv.monitor == 0.0 then .error (.configuration .zeroFactor)

-- Zero volts is always accepted and switches the supply off.
def voltsInRange (c : Calibration) (volts : Float) : Bool :=
  if volts == 0.0 then true
  else match c.profile with
    | .factor => c.hv.quantity.low <= volts && volts < c.hv.quantity.high
    | .linear => c.hv.quantity.contains volts

def setpoint (c : Calibration) (volts : Float) : Except Fault Float :=
  if c.voltsInRange volts then
    if volts == 0.0 then .ok 0.0
    else match c.profile with
      | .factor => .ok (volts / c.hv.set)
      | .linear => .ok (Float.ofInt (c.hv.quantity.raw volts))
  else
    let q := c.hv.quantity
    .error (.range (.highVoltage volts q.low q.high (c.profile == .linear) q.unit))

def voltsOfSetpoint (c : Calibration) (value : Float) : Float :=
  if value == 0.0 then 0.0
  else match c.profile with
    | .factor => value * c.hv.set
    | .linear => c.hv.quantity.physical value

def monitorVolts (c : Calibration) (raw : Nat) : Float :=
  let count := Float.ofNat raw
  let volts := match c.profile with
    | .factor => count * c.hv.monitor
    | .linear => c.hv.quantity.physical count
  roundTo volts 3

def periodMicros (c : Calibration) (raw : UInt16) : Float :=
  roundTo (c.ledPeriod.physical raw.toFloat) 2

def widthNanos (c : Calibration) (raw : UInt16) : Float :=
  roundTo (c.ledWidth.physical raw.toFloat) 2

end Calibration
end PulseAnalyzer
