import PulseAnalyzer.Number.Decimal

set_option autoImplicit false

namespace PulseAnalyzer

structure Duration where
  nanos : Nat
deriving DecidableEq, Repr, Inhabited

namespace Duration
open Binary

def ofMillis (ms : Nat) : Duration := ⟨ms * 1000000⟩
def ofSecs (s : Nat) : Duration := ⟨s * 1000000000⟩

def wholeSecs (d : Duration) : Nat := d.nanos / 1000000000
def subsecNanos (d : Duration) : Nat := d.nanos % 1000000000

-- The length in seconds as a double: the whole seconds and the fraction are converted apart.
def toSecs (d : Duration) : Float :=
  Float.ofNat d.wholeSecs + Float.ofNat d.subsecNanos / 1000000000.0

-- A count of seconds to the nearest nanosecond, half of one going to the even neighbour. There is
-- none for NaN, negative counts and 2 ^ 64 seconds or more.
def ofSeconds? (x : Float) : Option Duration :=
  match view x with
  | .finite e =>
    if e.negative ∧ e.significand ≠ 0 then none
    else
      let nanos := Exact.roundAbs .toEven ⟨false, e.significand * 1000000000, e.exponent⟩
      if nanos < Nat.pow 2 64 * 1000000000 then some ⟨nanos⟩ else none
  | _ => none

def unitText (count places : Nat) (unit : String) : String :=
  let d := Decimal.trim ⟨count, -(places : Int)⟩
  d.positional "" ++ unit

def text (d : Duration) : String :=
  if 1000000000 ≤ d.nanos then unitText d.nanos 9 "s"
  else if 1000000 ≤ d.nanos then unitText d.nanos 6 "ms"
  else if 1000 ≤ d.nanos then unitText d.nanos 3 "µs"
  else unitText d.nanos 0 "ns"

end Duration
end PulseAnalyzer
