import PulseAnalyzer.Simulator.Table

set_option autoImplicit false

namespace PulseAnalyzer

inductive Scenario where
  | always (operation : String) (code : Int)
  | after (operation : String) (passes : Nat) (code : Int)
deriving DecidableEq, Repr

def Scenario.operation : Scenario → String
  | .always operation _ => operation
  | .after operation _ _ => operation

structure Injection where
  scenarios : List Scenario
  counts : Table String Nat
deriving DecidableEq, Repr

namespace Injection

def none : Injection := ⟨[], []⟩

def ofList (scenarios : List Scenario) : Injection := ⟨scenarios, []⟩

def push (i : Injection) (s : Scenario) : Injection := { i with scenarios := i.scenarios ++ [s] }

def count (i : Injection) (operation : String) : Nat := (Table.lookup operation i.counts).getD 0

-- Goes through the scenarios of one operation: the first that fires decides. The second result is
-- the count afterwards.
def consult : List Scenario → Nat → Except Int Unit × Nat
  | [], seen => (.ok (), seen)
  | .always _ code :: _, seen => (.error code, seen)
  | .after _ passes code :: rest, seen =>
    if passes < seen + 1 then (.error code, seen + 1) else consult rest (seen + 1)

def check (i : Injection) (operation : String) : Except Int Unit × Injection :=
  let found := consult (i.scenarios.filter fun s => s.operation = operation) (i.count operation)
  (found.1, { i with counts := Table.put operation found.2 i.counts })

-- The number after another on a counter of 32 bits. Where its arithmetic is checked the last one has none.
def nextCount? (checked : Bool) (seen : Nat) : Option Nat :=
  if seen + 1 < UInt32.size then some (seen + 1) else if checked then .none else some 0

-- As `consult`, with such a counter. A call that would overflow it is abandoned and gives no answer.
def consultCounter (checked : Bool) : List Scenario → Nat → Option (Except Int Unit) × Nat
  | [], seen => (some (.ok ()), seen)
  | .always _ code :: _, seen => (some (.error code), seen)
  | .after _ passes code :: rest, seen =>
    match nextCount? checked seen with
    | .none => (.none, seen)
    | some next => if passes < next then (some (.error code), next) else consultCounter checked rest next

def attempt (i : Injection) (checked : Bool) (operation : String) : Option (Except Int Unit) × Injection :=
  let found := consultCounter checked (i.scenarios.filter fun s => s.operation = operation) (i.count operation)
  (found.1, { i with counts := Table.put operation found.2 i.counts })

end Injection
end PulseAnalyzer
