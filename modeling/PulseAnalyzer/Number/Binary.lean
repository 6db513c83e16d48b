/-!
Floating-point numbers as exact values: a finite double is a sign, a significand and a power of
two. Rounding to whole numbers is done on that exact value.
-/

set_option autoImplicit false

namespace PulseAnalyzer

inductive Tie where
  | toEven
  | away
deriving DecidableEq, Repr

def roundDiv (tie : Tie) (num den : Nat) : Nat :=
  let quotient := num / den
  let twice := 2 * (num % den)
  if twice < den then quotient
  else if den < twice then quotient + 1
  else match tie with
    | .away => quotient + 1
    | .toEven => quotient + quotient % 2

namespace Binary

-- The value `± significand · 2 ^ exponent`.
structure Exact where
  negative : Bool
  significand : Nat
  exponent : Int
deriving DecidableEq, Repr

inductive View where
  | finite (value : Exact)
  | infinite (negative : Bool)
  | nan
deriving DecidableEq, Repr

def exponentField (bits : Nat) : Nat := bits / Nat.pow 2 52 % Nat.pow 2 11
def fractionField (bits : Nat) : Nat := bits % Nat.pow 2 52

-- Subnormal values share the smallest exponent and have no implicit leading bit.
def view (x : Float) : View :=
  let bits := x.toBits.toNat
  let negative := Nat.pow 2 63 ≤ bits
  let field := exponentField bits
  let fraction := fractionField bits
  if field = 2047 then
    if fraction = 0 then .infinite negative else .nan
  else if field = 0 then .finite ⟨negative, fraction, -1074⟩
  else .finite ⟨negative, Nat.pow 2 52 + fraction, (field : Int) - 1075⟩

def Exact.roundAbs (tie : Tie) (x : Exact) : Nat :=
  match x.exponent with
  | .ofNat e => x.significand * Nat.pow 2 e
  | .negSucc e => roundDiv tie x.significand (Nat.pow 2 (e + 1))

def Exact.round (tie : Tie) (x : Exact) : Int :=
  if x.negative then -(x.roundAbs tie : Int) else x.roundAbs tie

end Binary

open Binary

def clampWord64 (n : Int) : Int := max (-(Int.pow 2 63)) (min n (Int.pow 2 63 - 1))

-- The nearest 64-bit signed whole number. Values beyond the range stop at its ends; NaN is 0.
def toWord64 (tie : Tie) (x : Float) : Int :=
  match view x with
  | .finite e => clampWord64 (e.round tie)
  | .infinite negative => if negative then -(Int.pow 2 63) else Int.pow 2 63 - 1
  | .nan => 0

-- The nearest whole number as a double, half a unit going away from zero. Values without a
-- fractional part, infinities and NaN are kept, and so is the sign of a result of zero.
def roundAway (x : Float) : Float :=
  match view x with
  | .finite e =>
    if e.exponent < 0 then
      let magnitude := Float.ofNat (e.roundAbs .away)
      if e.negative then -magnitude else magnitude
    else x
  | _ => x

-- The power `base ^ n` by repeated squaring, from the lowest bit of `n` up.
def powNat (base : Float) (n : Nat) : Float := go base n 1.0
where
  go (square : Float) (n : Nat) (acc : Float) : Float :=
    let acc := if n % 2 = 1 then acc * square else acc
    if n / 2 = 0 then acc else go (square * square) (n / 2) acc
  termination_by n
  decreasing_by omega

def powTen (digits : Int) : Float :=
  let p := powNat 10.0 digits.natAbs
  if digits < 0 then 1.0 / p else p

def roundTo (value : Float) (digits : Int) : Float :=
  let factor := powTen digits
  roundAway (value * factor) / factor

end PulseAnalyzer
