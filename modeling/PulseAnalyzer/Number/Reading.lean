import PulseAnalyzer.Number.Decimal
import PulseAnalyzer.Number.Digits

set_option autoImplicit false

namespace PulseAnalyzer

namespace Binary

def scaled (n den : Nat) : Int → Nat × Nat
  | .ofNat e => (n, den * Nat.pow 2 e)
  | .negSucc e => (n * Nat.pow 2 (e + 1), den)

def leadingBit (num den : Nat) : Int :=
  let guess : Int := (Nat.log2 num : Int) - Nat.log2 den
  let unit := scaled num den guess
  if unit.2 ≤ unit.1 then guess else guess - 1

-- The double nearest to `num / den`, half a step going to the even neighbour and infinite beyond
-- the largest. A significand that fills all its 53 places carries into the field of the exponent.
def nearestDouble (num den : Nat) : Float :=
  if num = 0 then 0.0
  else
    let exponent := max (-1074) (leadingBit num den - 52)
    let unit := scaled num den exponent
    let significand := roundDiv .toEven unit.1 unit.2
    if 971 < exponent ∨ (exponent = 971 ∧ Nat.pow 2 53 ≤ significand) then 1.0 / 0.0
    else Float.ofBits (UInt64.ofNat ((exponent + 1074).toNat * Nat.pow 2 52 + significand))

end Binary

namespace Decimal
open Binary

def quotient (d : Decimal) : Nat × Nat :=
  match d.exponent with
  | .ofNat e => (d.coefficient * Nat.pow 10 e, 1)
  | .negSucc e => (d.coefficient, Nat.pow 10 (e + 1))

-- Whether a decimal is smaller or larger than all doubles, by the place of its first digit.
def isTiny (d : Decimal) : Bool :=
  d.coefficient = 0 || decide (d.exponent + digitCount d.coefficient < -330)

def isHuge (d : Decimal) : Bool := decide (310 < d.exponent + digitCount d.coefficient)

def signed (negative : Bool) (x : Float) : Float := if negative then -x else x

def toFloat (negative : Bool) (d : Decimal) : Float :=
  signed negative <|
    if d.isTiny then 0.0
    else if d.isHuge then 1.0 / 0.0
    else nearestDouble d.quotient.1 d.quotient.2

def realOfInt (n : Int) : Float := toFloat (n < 0) ⟨n.natAbs, 0⟩

end Decimal

def exponentPart? : List Char → Option Int
  | [] => some 0
  | c :: rest =>
    let signed := splitSign rest
    if (c = 'e' ∨ c = 'E') ∧ signed.2 ≠ [] ∧ signed.2.all isDigit then
      some (if signed.1 then -(digitsNat signed.2 : Int) else digitsNat signed.2)
    else none

def unsignedDecimal? (cs : List Char) : Option Decimal :=
  let whole := cs.takeWhile isDigit
  let tail := cs.dropWhile isDigit
  let fraction := match tail with
    | '.' :: rest => rest.takeWhile isDigit
    | _ => []
  let tail := match tail with
    | '.' :: rest => rest.dropWhile isDigit
    | _ => tail
  if whole.isEmpty && fraction.isEmpty then none
  else (exponentPart? tail).map fun e =>
    ⟨digitsNat (whole ++ fraction), e - fraction.length⟩

def parseReal? (s : String) : Option Float :=
  let signed := splitSign s.toList
  let name := String.ofList (signed.2.map Char.toLower)
  if name = "nan" then some (0.0 / 0.0)
  else if name = "inf" ∨ name = "infinity" then
    some (if signed.1 then -(1.0 / 0.0) else 1.0 / 0.0)
  else (unsignedDecimal? signed.2).map (Decimal.toFloat signed.1)

end PulseAnalyzer
