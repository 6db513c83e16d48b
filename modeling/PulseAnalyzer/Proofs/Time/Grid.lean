import PulseAnalyzer.Simulator.Bench

set_option autoImplicit false

namespace PulseAnalyzer

theorem wake_le_iff (deadline millis : Nat) : Bench.wakeMillis deadline ≤ millis ↔ deadline ≤ millis * 1000000 := by
  unfold Bench.wakeMillis
  omega

theorem wake_mono (early late : Nat) (ordered : early ≤ late) : Bench.wakeMillis early ≤ Bench.wakeMillis late := by
  rw [wake_le_iff]
  exact Nat.le_trans ordered ((wake_le_iff late _).mp (Nat.le_refl _))

theorem wake_of_millis (millis : Nat) : Bench.wakeMillis (millis * 1000000) = millis := by
  unfold Bench.wakeMillis
  omega

theorem wake_late (deadline : Nat) :
    deadline ≤ Bench.wakeMillis deadline * 1000000 ∧ Bench.wakeMillis deadline * 1000000 < deadline + 1000000 := by
  unfold Bench.wakeMillis
  omega

theorem wake_add (deadline millis : Nat) :
    Bench.wakeMillis (deadline + millis * 1000000) = Bench.wakeMillis deadline + millis := by
  unfold Bench.wakeMillis
  omega

theorem due_at_wake (t deadline : Nat) : deadline ≤ max t (Bench.wakeMillis deadline) * 1000000 :=
  Nat.le_trans (wake_late deadline).1 (Nat.mul_le_mul_right _ (Nat.le_max_right _ _))

theorem grid_first (deadline period : Nat) : deadline + 0 * period = deadline := by
  rw [Nat.zero_mul, Nat.add_zero]

theorem grid_next (deadline period k : Nat) : deadline + (k + 1) * period = deadline + period + k * period := by
  rw [Nat.succ_mul, Nat.add_comm (k * period), Nat.add_assoc]

namespace Ticker

variable (deadline : Nat) (period : Duration)

theorem taken_on_grid (now : Nat) (due : deadline ≤ now) :
    ∃ skipped, (startingAt deadline period).taken now = .startingAt (deadline + (skipped + 1) * period.nanos) period := by
  unfold taken startingAt
  dsimp only
  split
  · refine ⟨(now - deadline) / period.nanos, ?_⟩
    have passed := Nat.div_add_mod (now - deadline) period.nanos
    rw [Nat.succ_mul, Nat.mul_comm]
    congr 1
    omega
  · refine ⟨0, ?_⟩
    rw [Nat.zero_add, Nat.one_mul]

theorem taken_in_time (now : Nat) (punctual : now ≤ deadline + grace.nanos) :
    (startingAt deadline period).taken now = .startingAt (deadline + period.nanos) period :=
  if_neg (Nat.not_lt.mpr punctual)

-- Rounding up to a whole millisecond does not make a tick late.
theorem taken_at_wake :
    (startingAt deadline period).taken (Bench.wakeMillis deadline * 1000000) =
      .startingAt (deadline + period.nanos) period := by
  have late := (wake_late deadline).2
  have rounding : 1000000 ≤ grace.nanos := by decide
  exact taken_in_time deadline period _ (by omega)

end Ticker
end PulseAnalyzer
