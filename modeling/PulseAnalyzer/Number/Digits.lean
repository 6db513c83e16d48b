set_option autoImplicit false

namespace PulseAnalyzer

def isDigit (c : Char) : Bool := '0' ≤ c && c ≤ '9'

-- The number written by decimal digits; other characters count as if they were not there.
def digitsNat (cs : List Char) : Nat :=
  cs.foldl (fun n c => if isDigit c then n * 10 + (c.toNat - 48) else n) 0

def splitSign : List Char → Bool × List Char
  | '-' :: rest => (true, rest)
  | '+' :: rest => (false, rest)
  | cs => (false, cs)

def digitValue? (base : Nat) (c : Char) : Option Nat :=
  let value :=
    if '0' ≤ c ∧ c ≤ '9' then some (c.toNat - '0'.toNat)
    else if 'a' ≤ c ∧ c ≤ 'f' then some (c.toNat - 'a'.toNat + 10)
    else if 'A' ≤ c ∧ c ≤ 'F' then some (c.toNat - 'A'.toNat + 10)
    else none
  value.filter (· < base)

def digitsValue? (base : Nat) : Nat → List Char → Option Nat
  | acc, [] => some acc
  | acc, c :: rest => match digitValue? base c with
    | some d => digitsValue? base (acc * base + d) rest
    | none => none

def unsigned? (base limit : Nat) (cs : List Char) : Option Nat :=
  let digits := match cs with
    | '+' :: rest => rest
    | _ => cs
  if digits.isEmpty then none else (digitsValue? base 0 digits).filter (· < limit)

def integer? (low high : Int) (cs : List Char) : Option Int :=
  let signed := splitSign cs
  let n : Int := if signed.1 then -(digitsNat signed.2 : Int) else digitsNat signed.2
  if signed.2 ≠ [] ∧ signed.2.all isDigit ∧ low ≤ n ∧ n ≤ high then some n else none

end PulseAnalyzer
