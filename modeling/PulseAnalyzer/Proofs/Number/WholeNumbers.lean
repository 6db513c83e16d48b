import PulseAnalyzer.Proofs.Number.Arithmetic

set_option autoImplicit false

namespace PulseAnalyzer

theorem round_div_near (tie : Tie) (num den : Nat) (positive : 0 < den) :
    |(roundDiv tie num den : ℚ) - num / den| ≤ 1 / 2 := by
  have wide : (0 : ℚ) < den := by exact_mod_cast positive
  have short : num % den < den := Nat.mod_lt num positive
  rw [Binary.quotient_parts num den positive]
  unfold roundDiv
  dsimp only
  generalize num / den = q, num % den = r at *
  have positive : (0 : ℚ) ≤ (r : ℚ) / den := by positivity
  have less : (r : ℚ) / den < 1 := (div_lt_one wide).mpr (by exact_mod_cast short)
  split
  case isTrue low =>
    have under : (r : ℚ) / den < 1 / 2 := by
      rw [div_lt_div_iff₀ wide two_pos]
      exact_mod_cast (by omega : r * 2 < 1 * den)
    rw [abs_le]
    constructor <;> linarith
  case isFalse =>
    split
    case isTrue high =>
      have beyond : 1 / 2 < (r : ℚ) / den := by
        rw [div_lt_div_iff₀ two_pos wide]
        exact_mod_cast (by omega : 1 * den < r * 2)
      rw [Nat.cast_add, Nat.cast_one, abs_le]
      constructor <;> linarith
    case isFalse =>
      have middle : (r : ℚ) / den = 1 / 2 := by
        rw [div_eq_div_iff wide.ne' two_ne_zero]
        exact_mod_cast (by omega : r * 2 = 1 * den)
      rw [middle]
      cases tie with
      | away => norm_num
      | toEven =>
          rcases Nat.mod_two_eq_zero_or_one q with even | odd
          · rw [even]
            norm_num
          · rw [odd]
            norm_num

namespace Binary

theorem round_abs_whole (tie : Tie) (x : Exact) (whole : 0 ≤ x.exponent) :
    (x.roundAbs tie : ℚ) = x.significand * 2 ^ x.exponent := by
  obtain ⟨negative, significand, e | e⟩ := x
  · change ((significand * 2 ^ e : Nat) : ℚ) = significand * 2 ^ (e : Int)
    push_cast
    rw [zpow_natCast]
  · exact absurd whole (Int.not_le.mpr (Int.negSucc_lt_zero e))

theorem round_abs_near (tie : Tie) (x : Exact) :
    |(x.roundAbs tie : ℚ) - x.significand * 2 ^ x.exponent| ≤ 1 / 2 := by
  by_cases whole : 0 ≤ x.exponent
  · rw [round_abs_whole tie x whole, sub_self, abs_zero]
    norm_num
  · obtain ⟨negative, significand, e | e⟩ := x
    · exact absurd (Int.natCast_nonneg e) whole
    · have value : (significand : ℚ) * 2 ^ (Int.negSucc e) = significand / (2 ^ (e + 1) : Nat) := by
        rw [zpow_negSucc, ← div_eq_mul_inv]
        push_cast
        rfl
      change |(roundDiv tie significand (2 ^ (e + 1)) : ℚ) - significand * 2 ^ (Int.negSucc e)| ≤ 1 / 2
      rw [value]
      exact round_div_near tie significand (2 ^ (e + 1)) (Nat.two_pow_pos _)

theorem signed_value (x : Exact) : x.value = (if x.negative then -1 else 1) * (x.significand * 2 ^ x.exponent) := by
  rw [Exact.value, mul_assoc]

theorem signed_round (tie : Tie) (x : Exact) : (x.round tie : ℚ) = (if x.negative then -1 else 1) * x.roundAbs tie := by
  rw [Exact.round]
  cases x.negative <;> simp

theorem round_near (tie : Tie) (x : Exact) : |(x.round tie : ℚ) - x.value| ≤ 1 / 2 := by
  have factor : |if x.negative then (-1 : ℚ) else 1| = 1 := by cases x.negative <;> simp
  rw [signed_value, signed_round, ← mul_sub, abs_mul, factor, one_mul]
  exact round_abs_near tie x

theorem word_near (tie : Tie) (x : Float) (a : ℚ) (valued : value? x = some a) :
    ∃ k : Int, |(k : ℚ) - a| ≤ 1 / 2 ∧ toWord64 tie x = clampWord64 k := by
  obtain ⟨e, viewed, rfl⟩ := viewed_of_value x a valued
  exact ⟨e.round tie, round_near tie e, by rw [toWord64, viewed]⟩

theorem word_range (tie : Tie) (x : Float) : -(2 ^ 63) ≤ toWord64 tie x ∧ toWord64 tie x < 2 ^ 63 := by
  unfold toWord64
  split
  · change -(2 ^ 63) ≤ max (-(2 ^ 63)) (min _ (2 ^ 63 - 1)) ∧ max (-(2 ^ 63)) (min _ (2 ^ 63 - 1)) < 2 ^ 63
    omega
  · split <;> decide
  · decide

theorem int_of_near (k n : Int) (a : ℚ) (near : |(k : ℚ) - a| ≤ 1 / 2) (close : |a - n| < 1 / 2) : k = n := by
  have apart : |((k - n : Int) : ℚ)| < 1 := by
    push_cast
    linarith [abs_sub_le (k : ℚ) a n]
  have less : |k - n| < 1 := by exact_mod_cast apart
  rw [Int.abs_lt_one_iff] at less
  omega

theorem word_of_near (tie : Tie) (x : Float) (a : ℚ) (n : Int) (valued : value? x = some a) (close : |a - n| < 1 / 2)
    (low : -(2 ^ 63) ≤ n) (high : n < 2 ^ 63) : toWord64 tie x = n := by
  obtain ⟨k, near, word⟩ := word_near tie x a valued
  rw [word, int_of_near k n a near close]
  change max (-(2 ^ 63)) (min n (2 ^ 63 - 1)) = n
  omega

theorem of_int_zero_iff (n : Int) (low : -(2 ^ 63) ≤ n) (high : n < 2 ^ 63) : (Float.ofInt n == 0.0) = true ↔ n = 0 := by
  have size : |(n : ℚ)| ≤ 2 ^ 63 := by
    rw [abs_le]
    constructor
    · exact_mod_cast low
    · exact_mod_cast high.le
  obtain ⟨r, valued, place, nearest⟩ := value_of_int n (size.trans_lt (pow_lt_pow_right₀ one_lt_two (by decide)))
  rw [is_zero_iff, valued]
  constructor
  · intro zero
    obtain rfl : r = 0 := Option.some.inj zero
    by_contra nonzero
    have least : (1 : ℚ) ≤ |(n : ℚ)| := by exact_mod_cast Int.one_le_abs nonzero
    have tiny : (1 : ℚ) / 2 ^ 1075 ≤ 1 / 2 ^ 2 :=
      one_div_le_one_div_of_le (by positivity) (pow_le_pow_right₀ one_le_two (by decide))
    have off := nearest.error.trans (add_le_add_right tiny _)
    rw [zero_sub, abs_neg] at off
    linarith
  · rintro rfl
    have exact := nearest.exact (by exact_mod_cast representable_int 0 (by decide))
    rw [exact, Int.cast_zero]

theorem round_away_near (x : Float) (a : ℚ) (valued : value? x = some a) :
    ∃ k : Int, value? (roundAway x) = some (k : ℚ) ∧ |(k : ℚ) - a| ≤ 1 / 2 := by
  obtain ⟨e, viewed, rfl⟩ := viewed_of_value x a valued
  refine ⟨e.round .away, ?_, round_near .away e⟩
  rw [roundAway, viewed]
  dsimp only
  by_cases fractional : e.exponent < 0
  · have short : e.roundAbs .away < 2 ^ 53 := by
      have fits : (e.significand : ℚ) < 2 ^ 53 := by exact_mod_cast (view_canonical x e viewed).fits
      have near := round_abs_near .away e
      have half : (2 : ℚ) ^ e.exponent ≤ 2 ^ (-1 : Int) := zpow_le_zpow_right₀ one_le_two (by omega)
      have small : (e.significand : ℚ) * 2 ^ e.exponent < 2 ^ 53 * 2 ^ (-1 : Int) := by
        calc (e.significand : ℚ) * 2 ^ e.exponent ≤ e.significand * 2 ^ (-1 : Int) := by gcongr
          _ < 2 ^ 53 * 2 ^ (-1 : Int) := by gcongr
      rw [abs_le] at near
      norm_num at small
      have : (e.roundAbs .away : ℚ) < (2 ^ 53 : Nat) := by
        push_cast
        linarith
      exact_mod_cast this
    have magnitude := value_of_small _ short
    rw [if_pos fractional, signed_round]
    cases e.negative with
    | false => simpa using magnitude
    | true => simpa using value_neg _ _ magnitude
  · have whole := round_abs_whole .away e (not_lt.mp fractional)
    rw [if_neg fractional, signed_round, whole, ← signed_value]
    exact valued

theorem pow_ten_two : powTen 2 = 100.0 := by
  rw [powTen, if_neg (by decide)]
  change powNat.go 10.0 2 1.0 = _
  rw [powNat.go, powNat.go]
  rfl

theorem hundred : value? (powTen 2) = some 100 := by
  rw [pow_ten_two, value_of_view _ ⟨false, 100 * 2 ^ 46, -46⟩ (by rfl), Exact.value]
  norm_num

end Binary
end PulseAnalyzer
