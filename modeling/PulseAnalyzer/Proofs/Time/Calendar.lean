import Mathlib
import PulseAnalyzer.Time.Timestamp

set_option autoImplicit false

namespace PulseAnalyzer.Timestamp

def daysBefore (month : Nat) : Nat := (153 * ((month + 9) % 12) + 2) / 5

def daysToYear (year : Nat) : Nat := 365 * year + year / 4 - year / 100

def daysOfDate (date : Date) : Int :=
  let year := if date.month ≤ 2 then date.year - 1 else date.year
  year / 400 * 146097 + (daysToYear (year % 400).toNat + daysBefore date.month + date.day - 1 : Nat) - 719468

-- The last day of an era is the leap day of its last year, and every other day falls into a year of its own century.
theorem year_of_era (day year : Nat) (within : day < 146097)
    (found : (day - day / 1460 + day / 36524 - day / 146096) / 365 = year) :
    year < 400 ∧ daysToYear year ≤ day ∧ day - daysToYear year ≤ 365 := by
  unfold daysToYear
  by_cases last : day = 146096
  · subst last
    subst found
    decide
  · have whole : day / 146096 = 0 := by omega
    rw [whole, Nat.sub_zero] at found
    have century : year / 100 = day / 36524 := by omega
    omega

theorem month_of_year (day march month : Nat) (within : day ≤ 365) (found : (5 * day + 2) / 153 = march)
    (named : (if march < 10 then march + 3 else march - 9) = month) :
    daysBefore month ≤ day ∧ daysBefore month = (153 * march + 2) / 5 ∧ (month ≤ 2 ↔ 10 ≤ march) := by
  have counted : (month + 9) % 12 = march := by
    subst named
    split <;> omega
  rw [daysBefore, counted]
  refine ⟨by omega, rfl, ?_⟩
  subst named
  split <;> omega

theorem days_of_date (days : Int) : daysOfDate (dateOfDays days) = days := by
  unfold dateOfDays
  dsimp only
  generalize shifted : days + 719468 = since
  generalize early : (since % 146097).toNat = day
  generalize passed : (day - day / 1460 + day / 36524 - day / 146096) / 365 = year
  have within : day < 146097 := by omega
  obtain ⟨century, begun, short⟩ := year_of_era day year within passed
  unfold daysToYear at begun short
  generalize left : day - (365 * year + year / 4 - year / 100) = ofYear at short
  generalize found : (5 * ofYear + 2) / 153 = march
  generalize named : (if march < 10 then march + 3 else march - 9) = month
  obtain ⟨before, counted, spring⟩ := month_of_year ofYear march month short found named
  unfold daysOfDate
  dsimp only
  have years : (if month ≤ 2 then (if month ≤ 2 then since / 146097 * 400 + (year : Int) + 1
      else since / 146097 * 400 + year) - 1 else (if month ≤ 2 then since / 146097 * 400 + (year : Int) + 1
      else since / 146097 * 400 + year)) = since / 146097 * 400 + year := by
    split <;> omega
  rw [years]
  have era : (since / 146097 * 400 + (year : Int)) / 400 = since / 146097 := by omega
  have rest : ((since / 146097 * 400 + (year : Int)) % 400).toNat = year := by omega
  rw [era, rest, ← counted]
  unfold daysToYear
  omega

theorem date_once (a b : Int) (same : dateOfDays a = dateOfDays b) : a = b := by
  rw [← days_of_date a, ← days_of_date b, same]

end PulseAnalyzer.Timestamp
