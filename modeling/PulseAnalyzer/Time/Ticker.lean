import PulseAnalyzer.Time.Duration

set_option autoImplicit false

namespace PulseAnalyzer

structure Ticker where
  period : Duration
  deadline : Nat
deriving DecidableEq, Repr

namespace Ticker

-- How late a tick may be taken and still count as in time.
def grace : Duration := .ofMillis 5

def startingAt (deadline : Nat) (period : Duration) : Ticker := ⟨period, deadline⟩

def taken (t : Ticker) (now : Nat) : Ticker :=
  if t.deadline + grace.nanos < now then
    { t with deadline := now + t.period.nanos - (now - t.deadline) % t.period.nanos }
  else { t with deadline := t.deadline + t.period.nanos }

end Ticker
end PulseAnalyzer
