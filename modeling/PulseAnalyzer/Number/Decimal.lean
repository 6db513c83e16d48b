import PulseAnalyzer.Number.Binary

set_option autoImplicit false

namespace PulseAnalyzer

-- The value `coefficient · 10 ^ exponent`.
structure Decimal where
  coefficient : Nat
  exponent : Int
deriving DecidableEq, Repr

namespace Decimal
open Binary

-- The numbers that read back to one positive double, as `low / unit` to `high / unit` around
-- `value / unit`; the ends belong to it when `closed`.
structure Neighbourhood where
  low : Nat
  value : Nat
  high : Nat
  unit : Nat
  closed : Bool

-- Half way to both neighbouring doubles; below a power of two the lower one is twice as near.
def neighbourhood (x : Exact) : Neighbourhood :=
  let m := x.significand
  let below := if m = Nat.pow 2 52 ∧ -1074 < x.exponent then 1 else 2
  let scale := match x.exponent - 2 with
    | .ofNat e => (Nat.pow 2 e, 1)
    | .negSucc e => (1, Nat.pow 2 (e + 1))
  ⟨(4 * m - below) * scale.1, 4 * m * scale.1, (4 * m + 2) * scale.1, scale.2, m % 2 = 0⟩

def digitCount (n : Nat) : Nat := (Nat.toDigits 10 n).length

def leadingPower (num den : Nat) : Int :=
  if den ≤ num then (digitCount (num / den) : Int) - 1
  else -(digitCount ((den + num - 1) / num - 1) : Int)

def onGrid (n den : Nat) (power : Int) : Nat × Nat :=
  match power with
  | .ofNat p => (n, den * Nat.pow 10 p)
  | .negSucc p => (n * Nat.pow 10 (p + 1), den)

def Neighbourhood.contains (hood : Neighbourhood) (coefficient : Nat) (power : Int) : Bool :=
  let low := onGrid hood.low hood.unit power
  let high := onGrid hood.high hood.unit power
  if hood.closed then low.1 ≤ coefficient * low.2 && coefficient * high.2 ≤ high.1
  else low.1 < coefficient * low.2 && coefficient * high.2 < high.1

def Neighbourhood.nearest? (hood : Neighbourhood) (tie : Tie) (power : Int) : Option Decimal :=
  let value := onGrid hood.value hood.unit power
  let below := value.1 / value.2
  let nearest := roundDiv tie value.1 value.2
  let other := if nearest = below then below + 1 else below
  if hood.contains nearest power then some ⟨nearest, power⟩
  else if hood.contains other power then some ⟨other, power⟩
  else none

def Neighbourhood.coarsest (hood : Neighbourhood) (tie : Tie) (power : Int) :
    Nat → Option Decimal
  | 0 => none
  | places + 1 => match hood.nearest? tie power with
    | some d => some d
    | none => hood.coarsest tie (power - 1) places

def trim (d : Decimal) : Decimal :=
  if h : d.coefficient = 0 then ⟨0, 0⟩
  else if d.coefficient % 10 = 0 then trim ⟨d.coefficient / 10, d.exponent + 1⟩
  else d
termination_by d.coefficient
decreasing_by exact Nat.div_lt_self (Nat.pos_of_ne_zero h) (by decide)

-- The value of `x` in full, without its sign.
def exactly (x : Exact) : Decimal :=
  match x.exponent with
  | .ofNat e => ⟨x.significand * Nat.pow 2 e, 0⟩
  | .negSucc e => ⟨x.significand * Nat.pow 5 (e + 1), .negSucc e⟩

def shortest (tie : Tie) (x : Exact) : Decimal :=
  if x.significand = 0 then ⟨0, 0⟩
  else
    let hood := neighbourhood x
    trim ((hood.coarsest tie (leadingPower hood.value hood.unit) 17).getD (exactly x))

def zeros (n : Nat) : String := String.ofList (List.replicate n '0')

def positional (d : Decimal) (wholeEnd : String) : String :=
  let digits := (Nat.toDigits 10 d.coefficient)
  match d.exponent with
  | .ofNat e => String.ofList digits ++ (if d.coefficient = 0 then "" else zeros e) ++ wholeEnd
  | .negSucc e =>
    let places := e + 1
    if places < digits.length then
      String.ofList (digits.take (digits.length - places)) ++ "."
        ++ String.ofList (digits.drop (digits.length - places))
    else "0." ++ zeros (places - digits.length) ++ String.ofList digits

def scientific (d : Decimal) : String :=
  let digits := Nat.toDigits 10 d.coefficient
  let power : Int := d.exponent + digits.length - 1
  let fraction := digits.drop 1
  String.ofList (digits.take 1)
    ++ (if fraction.isEmpty then "" else "." ++ String.ofList fraction)
    ++ (if power < 0 then "e-" else "e+") ++ Nat.repr power.natAbs

end Decimal

open Binary

-- Numbers in messages: no exponent, no point after whole numbers, and of two equally near
-- decimals the larger.
def messageText (x : Float) : String :=
  match view x with
  | .nan => "NaN"
  | .infinite negative => if negative then "-inf" else "inf"
  | .finite e => (if e.negative then "-" else "") ++ (Decimal.shortest .away e).positional ""

-- Numbers in records: positional when the leading digit stands for a power of ten from -5 to 15,
-- with an exponent otherwise. There is no text for NaN and the infinities.
def recordText? (x : Float) : Option String :=
  match view x with
  | .finite e =>
    let d := Decimal.shortest .toEven e
    let power : Int := d.exponent + Decimal.digitCount d.coefficient - 1
    let text := if d.coefficient = 0 ∨ (-5 ≤ power ∧ power ≤ 15)
      then d.positional ".0" else d.scientific
    some ((if e.negative then "-" else "") ++ text)
  | _ => none

end PulseAnalyzer
