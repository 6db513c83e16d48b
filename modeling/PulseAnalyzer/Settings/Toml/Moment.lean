import PulseAnalyzer.Number.Digits

set_option autoImplicit false

namespace PulseAnalyzer.Toml

def numeral? (width low high : Nat) (cs : List Char) : Option (Nat × List Char) :=
  let word := cs.take width
  let n := digitsNat word
  if word.length = width ∧ word.all isDigit ∧ low ≤ n ∧ n ≤ high then some (n, cs.drop width)
  else none

def expect? (c : Char) : List Char → Option (List Char)
  | [] => none
  | first :: rest => if first = c then some rest else none

def isLeap (year : Nat) : Bool := year % 4 = 0 && (year % 100 ≠ 0 || year % 400 = 0)

def daysOf (year month : Nat) : Nat :=
  match month with
  | 2 => if isLeap year then 29 else 28
  | 4 | 6 | 9 | 11 => 30
  | _ => 31

def date? (cs : List Char) : Option (List Char) := do
  let (year, cs) ← numeral? 4 0 9999 cs
  let (month, cs) ← numeral? 2 1 12 (← expect? '-' cs)
  let (_, cs) ← numeral? 2 1 (daysOf year month) (← expect? '-' cs)
  return cs

def fraction? : List Char → Option (List Char)
  | '.' :: cs => if (cs.takeWhile isDigit).isEmpty then none else some (cs.dropWhile isDigit)
  | cs => some cs

-- What follows a time of day; its last minute may have a leap second.
def clock? (cs : List Char) : Option (List Char) := do
  let (_, cs) ← numeral? 2 0 23 cs
  let (_, cs) ← numeral? 2 0 59 (← expect? ':' cs)
  let (_, cs) ← numeral? 2 0 60 (← expect? ':' cs)
  fraction? cs

def offset? : List Char → Option (List Char)
  | 'Z' :: cs | 'z' :: cs => some cs
  | '+' :: cs | '-' :: cs => do
    let (_, cs) ← numeral? 2 0 23 cs
    let (_, cs) ← numeral? 2 0 59 (← expect? ':' cs)
    return cs
  | cs => some cs

def isMoment (word : List Char) : Bool :=
  match date? word with
  | some [] => true
  | some (mark :: cs) =>
    (mark = 'T' || mark = 't' || mark = ' ') && (clock? cs).bind offset? = some []
  | none => clock? word = some []

end PulseAnalyzer.Toml
