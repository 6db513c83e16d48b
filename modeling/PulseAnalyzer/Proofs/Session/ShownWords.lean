import PulseAnalyzer.Proofs.Number.WholeNumbers
import PulseAnalyzer.Calibration

set_option autoImplicit false

namespace PulseAnalyzer
open Binary

namespace Quantity

def shown (q : Quantity) (w : UInt16) : Float := roundTo (q.physical w.toFloat) 2

theorem shown_hundredths (q : Quantity) (w : UInt16) : q.shown w = roundAway (q.physical w.toFloat * 100.0) / 100.0 := by
  rw [shown, roundTo, pow_ten_two]

def Keeps (q : Quantity) (w : UInt16) : Prop := q.raw (q.shown w) = w.toNat

-- A step of the word is wider than the last decimal, and the offset is not too many steps away.
structure CoarseAt (q : Quantity) (scale offset : ℚ) : Prop where
  scaled : value? q.scale = some scale
  shifted : value? q.offset = some offset
  wide : 101 / 10000 ≤ |scale|
  bounded : |scale| ≤ 2 ^ 900
  near : |offset| ≤ 2 ^ 32 * |scale|

def Coarse (q : Quantity) : Prop := ∃ scale offset, q.CoarseAt scale offset

theorem word_small (w : UInt16) : (w.toNat : ℚ) ≤ 2 ^ 16 := by exact_mod_cast w.toNat_lt.le

theorem steps_size (w : UInt16) (scale : ℚ) : |(w.toNat : ℚ) * scale| ≤ |scale| * 2 ^ 16 := by
  have word := word_small w
  rw [abs_mul, Nat.abs_cast, mul_comm]
  gcongr

section coarse
variable (q : Quantity) (scale offset : ℚ) (coarse : q.CoarseAt scale offset)
include coarse

theorem coarse_ordinary (n : Nat) (most : n ≤ 100) : Ordinary (|scale| * 2 ^ n) := by
  constructor
  · have tiny : (2 : ℚ) ^ 7 ≤ 2 ^ 1022 := pow_le_pow_right₀ one_le_two (by decide)
    calc (1 : ℚ) / 2 ^ 1022 ≤ 1 / 2 ^ 7 := one_div_le_one_div_of_le (by positivity) tiny
      _ ≤ 101 / 10000 := by norm_num
      _ ≤ |scale| := coarse.wide
      _ ≤ |scale| * 2 ^ n := le_mul_of_one_le_right (abs_nonneg scale) (one_le_pow₀ one_le_two)
  · have size : |scale| * 2 ^ n ≤ 2 ^ 900 * 2 ^ 100 :=
      mul_le_mul coarse.bounded (pow_le_pow_right₀ one_le_two most) (pow_nonneg zero_le_two n) (pow_nonneg zero_le_two 900)
    calc |scale| * 2 ^ n ≤ 2 ^ (900 + 100) := by rwa [pow_add]
      _ < 2 ^ 1023 := pow_lt_pow_right₀ one_lt_two (by decide)

theorem coarse_physical (w : UInt16) :
    ∃ p, value? (q.physical w.toFloat) = some p ∧ |p - (w.toNat * scale + offset)| ≤ |scale| * 2 ^ 34 / 2 ^ 52 := by
  have positive : 0 < |scale| := lt_of_lt_of_le (by norm_num) coarse.wide
  have size := steps_size w scale
  obtain ⟨p₀, first, near⟩ := mul_close _ _ _ _ _ (value_word w) coarse.scaled
    (q.coarse_ordinary scale offset coarse 16 (by decide)) size
  have offset_near := coarse.near
  rw [abs_le] at size near offset_near
  obtain ⟨p, second, near'⟩ := add_close _ _ _ _ _ first coarse.shifted
    (q.coarse_ordinary scale offset coarse 33 (by decide)) (by rw [abs_le]; constructor <;> linarith)
  refine ⟨p, second, ?_⟩
  rw [abs_le] at near' ⊢
  constructor <;> linarith

theorem coarse_shown (w : UInt16) :
    ∃ r, value? (q.shown w) = some r ∧ |r - (w.toNat * scale + offset)| ≤ 1 / 200 + |scale| / 2 ^ 16 := by
  have size := steps_size w scale
  have offset_near := coarse.near
  have wide := coarse.wide
  obtain ⟨p, told, near⟩ := q.coarse_physical scale offset coarse w
  rw [abs_le] at size near offset_near
  obtain ⟨t, hundredfold, near_t⟩ := mul_close _ _ _ _ _ told hundred
    (q.coarse_ordinary scale offset coarse 40 (by decide)) (by rw [abs_le]; constructor <;> linarith)
  obtain ⟨k, whole, near_k⟩ := round_away_near _ _ hundredfold
  rw [abs_le] at near_t near_k
  obtain ⟨r, shown, near_r⟩ := div_close _ _ _ _ _ whole hundred
    (q.coarse_ordinary scale offset coarse 34 (by decide)) (by norm_num)
    (by rw [abs_le]; constructor <;> linarith)
  refine ⟨r, shown, ?_⟩
  rw [abs_le] at near_r ⊢
  constructor <;> linarith

theorem coarse_raw (w : UInt16) : q.raw (q.shown w) = w.toNat := by
  have word := word_small w
  have wide := coarse.wide
  have positive : 0 < |scale| := lt_of_lt_of_le (by norm_num) wide
  have stepped : scale ≠ 0 := abs_pos.mp positive
  have size := steps_size w scale
  obtain ⟨r, shown, near_r⟩ := q.coarse_shown scale offset coarse w
  rw [abs_le] at near_r size
  obtain ⟨d, apart, near_d⟩ := sub_close _ _ _ _ _ shown coarse.shifted
    (q.coarse_ordinary scale offset coarse 34 (by decide)) (by rw [abs_le]; constructor <;> linarith)
  have off : |d - w.toNat * scale| ≤ |scale| * (499 / 1000) := by
    rw [abs_le] at near_d ⊢
    constructor <;> linarith
  have steps : |d / scale - w.toNat| ≤ 499 / 1000 := by
    have parts : d / scale - w.toNat = (d - w.toNat * scale) / scale := by field_simp
    rw [parts, abs_div, div_le_iff₀ positive, mul_comm (499 / 1000)]
    exact off
  have ordinary : Ordinary (2 ^ 17) := by
    have small : (1 : ℚ) / 2 ^ 1022 ≤ 1 := div_le_self zero_le_one (one_le_pow₀ one_le_two)
    exact ⟨small.trans (by norm_num), pow_lt_pow_right₀ one_lt_two (by decide)⟩
  obtain ⟨n, divided, near_n⟩ := div_close _ _ _ _ _ apart coarse.scaled ordinary stepped
    (by rw [abs_le] at steps ⊢; constructor <;> linarith)
  refine word_of_near .toEven _ n w.toNat divided ?_ ?_ ?_
  · rw [abs_le] at steps near_n
    rw [Int.cast_natCast, abs_lt]
    constructor <;> linarith
  · omega
  · have := w.toNat_lt
    omega

end coarse

theorem coarse_keeps (q : Quantity) (coarse : q.Coarse) (w : UInt16) : q.Keeps w := by
  obtain ⟨scale, offset, coarse⟩ := coarse
  exact q.coarse_raw scale offset coarse w

end Quantity

namespace Calibration

theorem zero_value : value? 0.0 = some 0 := by
  rw [value_of_view _ ⟨false, 0, -1074⟩ (by rfl), Exact.value]
  norm_num

theorem coarse_bound (step : ℚ) (small : step ≤ 2 ^ 3) : step ≤ 2 ^ 900 :=
  small.trans (pow_le_pow_right₀ one_le_two (by decide))

theorem standard_period_coarse : standard.ledPeriod.Coarse := by
  have step : value? 0.05 = some (3602879701896397 / 2 ^ 56) := by
    rw [value_of_view _ ⟨false, 7205759403792794, -57⟩ (by rfl), Exact.value]
    norm_num
  exact ⟨_, _, step, zero_value, by norm_num, coarse_bound _ (by norm_num), by norm_num⟩

theorem standard_width_coarse : standard.ledWidth.Coarse := by
  have step : value? 5.0 = some 5 := by
    rw [value_of_view _ ⟨false, 5 * 2 ^ 50, -50⟩ (by rfl), Exact.value]
    norm_num
  exact ⟨_, _, step, zero_value, by norm_num, coarse_bound _ (by norm_num), by norm_num⟩

end Calibration
end PulseAnalyzer
