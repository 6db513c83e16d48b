import PulseAnalyzer.Time.Duration

set_option autoImplicit false

namespace PulseAnalyzer

-- Seconds since 1970 and nanoseconds into that second; a second's worth and more of them stand
-- for a leap second after it.
structure Timestamp where
  secs : Int
  nanos : Nat
deriving DecidableEq, Repr

namespace Timestamp

structure Date where
  year : Int
  month : Nat
  day : Nat
deriving DecidableEq, Repr

-- The date `days` after 1 January 1970. Years are counted from March, so that the leap day is the
-- last of its year, in cycles of 400 years.
def dateOfDays (days : Int) : Date :=
  let shifted := days + 719468
  let era := shifted / 146097
  let dayOfEra := (shifted % 146097).toNat
  let yearOfEra := (dayOfEra - dayOfEra / 1460 + dayOfEra / 36524 - dayOfEra / 146096) / 365
  let dayOfYear := dayOfEra - (365 * yearOfEra + yearOfEra / 4 - yearOfEra / 100)
  let marchMonth := (5 * dayOfYear + 2) / 153
  let day := dayOfYear - (153 * marchMonth + 2) / 5 + 1
  let month := if marchMonth < 10 then marchMonth + 3 else marchMonth - 9
  let year : Int := era * 400 + yearOfEra
  ⟨if month ≤ 2 then year + 1 else year, month, day⟩

def padded (width n : Nat) : String :=
  let digits := Nat.toDigits 10 n
  String.ofList (List.replicate (width - digits.length) '0' ++ digits)

def yearText (year : Int) : String :=
  if 0 ≤ year ∧ year ≤ 9999 then padded 4 year.toNat
  else (if year < 0 then "-" else "+") ++ padded 4 year.natAbs

def fractionText (nanos : Nat) : String :=
  if nanos = 0 then ""
  else if nanos % 1000000 = 0 then "." ++ padded 3 (nanos / 1000000)
  else if nanos % 1000 = 0 then "." ++ padded 6 (nanos / 1000)
  else "." ++ padded 9 nanos

def text (t : Timestamp) : String :=
  let date := dateOfDays (t.secs / 86400)
  let second := (t.secs % 86400).toNat
  let leap := if 1000000000 ≤ t.nanos then 1 else 0
  yearText date.year ++ "-" ++ padded 2 date.month ++ "-" ++ padded 2 date.day ++ "T"
    ++ padded 2 (second / 3600) ++ ":" ++ padded 2 (second / 60 % 60) ++ ":"
    ++ padded 2 (second % 60 + leap) ++ fractionText (t.nanos - leap * 1000000000) ++ "Z"

end Timestamp
end PulseAnalyzer
