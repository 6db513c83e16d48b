import PulseAnalyzer.Proofs.Number.DoubleValue

set_option autoImplicit false

namespace PulseAnalyzer
namespace Binary
open Float.Model (Format UnpackedFloat totalExponent)
open Float.Model.UnpackedFloat

-- `r` is a double nearest to `t`: the last of its places stands at `place`, and half of it is the most that it is off.
structure NearestAt (place : Int) (t r : ℚ) : Prop where
  above : -1074 ≤ place
  fits : |t| < 2 ^ (place + 53)
  full : 2 ^ (place + 52) ≤ |t| ∨ place = -1074
  whole : ∃ k : Int, r = k * 2 ^ place
  near : |r - t| ≤ 2 ^ (place - 1)

def Nearest (t r : ℚ) : Prop := ∃ place, NearestAt place t r

def Representable (a : ℚ) : Prop := ∃ k e : Int, |k| < 2 ^ 53 ∧ -1074 ≤ e ∧ a = k * 2 ^ e

theorem representable_int (n : Int) (fits : |n| < 2 ^ 53) : Representable n :=
  ⟨n, 0, fits, by decide, by rw [zpow_zero, mul_one]⟩

theorem representable_nat (n : Nat) (fits : n < 2 ^ 53) : Representable n := by
  exact_mod_cast representable_int n (by rw [Nat.abs_cast]; exact_mod_cast fits)

namespace NearestAt
variable {place : Int} {t r : ℚ}

theorem neg (nearest : NearestAt place t r) : NearestAt place (-t) (-r) := by
  obtain ⟨above, fits, full, ⟨k, whole⟩, near⟩ := nearest
  refine ⟨above, by rwa [abs_neg], by rwa [abs_neg], ⟨-k, by rw [whole]; push_cast; ring⟩, ?_⟩
  rwa [neg_sub_neg, abs_sub_comm]

theorem place_below (nearest : NearestAt place t r) (bounded : |t| < 2 ^ 1023) : place ≤ 970 := by
  rcases nearest.full with full | bottom
  · have less : (2 : ℚ) ^ (place + 52) < 2 ^ (1023 : Int) := full.trans_lt bounded
    have := (zpow_lt_zpow_iff_right₀ one_lt_two).mp less
    omega
  · omega

theorem exact (nearest : NearestAt place t r) (representable : Representable t) : r = t := by
  obtain ⟨k, e, fits, above, rfl⟩ := representable
  obtain ⟨-, -, full, ⟨j, rfl⟩, near⟩ := nearest
  have step : (0 : ℚ) < 2 ^ place := zpow_pos two_pos place
  have under : place ≤ e := by
    rcases full with full | rfl
    · have short : |(k : ℚ)| < 2 ^ 53 := by exact_mod_cast fits
      have less : (2 : ℚ) ^ (place + 52) < 2 ^ (53 + e) := by
        calc (2 : ℚ) ^ (place + 52) ≤ |(k : ℚ) * 2 ^ e| := full
          _ = |(k : ℚ)| * 2 ^ e := by rw [abs_mul, abs_of_pos (zpow_pos (two_pos : (0 : ℚ) < 2) e)]
          _ < 2 ^ 53 * 2 ^ e := by gcongr
          _ = 2 ^ (53 + e) := by rw [zpow_add₀ two_ne_zero]; rfl
      have := (zpow_lt_zpow_iff_right₀ one_lt_two).mp less
      omega
    · exact above
  have moved : (k : ℚ) * 2 ^ e = (k * 2 ^ (e - place).toNat : Int) * 2 ^ place := by
    have reached : e = ((e - place).toNat : Int) + place := by omega
    conv_lhs => rw [reached, zpow_add₀ two_ne_zero, zpow_natCast]
    push_cast
    ring
  rw [moved] at near ⊢
  generalize k * 2 ^ (e - place).toNat = i at near
  rw [← sub_mul, abs_mul, abs_of_pos step, zpow_sub_one₀ two_ne_zero, mul_comm, mul_le_mul_iff_right₀ step] at near
  have apart : |j - i| < 1 := by
    have : |((j - i : Int) : ℚ)| < 1 := by
      push_cast
      exact near.trans_lt (by norm_num)
    exact_mod_cast this
  have : j = i := by
    rw [Int.abs_lt_one_iff] at apart
    omega
  rw [this]

theorem error (nearest : NearestAt place t r) : |r - t| ≤ |t| / 2 ^ 53 + 1 / 2 ^ 1075 := by
  have half : (2 : ℚ) ^ (place - 1) ≤ |t| / 2 ^ 53 + 1 / 2 ^ 1075 := by
    rcases nearest.full with full | rfl
    · have kept : (2 : ℚ) ^ (place - 1) = 2 ^ (place + 52) / 2 ^ 53 := by
        rw [← zpow_natCast, ← zpow_sub₀ two_ne_zero]
        congr 1
        push_cast
        ring
      calc (2 : ℚ) ^ (place - 1) = 2 ^ (place + 52) / 2 ^ 53 := kept
        _ ≤ |t| / 2 ^ 53 := by gcongr
        _ ≤ |t| / 2 ^ 53 + 1 / 2 ^ 1075 := le_add_of_nonneg_right (by positivity)
    · have least : (2 : ℚ) ^ (-1074 - 1 : Int) = 1 / 2 ^ 1075 := by
        rw [one_div, ← zpow_natCast, ← zpow_neg]
        rfl
      rw [least]
      exact le_add_of_nonneg_left (by positivity)
  exact nearest.near.trans half

end NearestAt

theorem quotient_parts (num den : Nat) (positive : 0 < den) :
    (num : ℚ) / den = (num / den : Nat) + ((num % den : Nat) : ℚ) / den := by
  have parts : ((num % den : Nat) : ℚ) + den * (num / den : Nat) = num := by exact_mod_cast Nat.mod_add_div num den
  have nonzero : (den : ℚ) ≠ 0 := by exact_mod_cast positive.ne'
  rw [← parts, add_div, mul_div_cancel_left₀ _ nonzero, add_comm]

-- What a mantissa stands for with the bit after its last place and the sticky bit for all that follows.
structure Stands (em : ExtendedMantissa) (x : ℚ) : Prop where
  lower : (em.mantissa : ℚ) ≤ x
  upper : x < em.mantissa + 1
  round : em.roundBit = true ↔ em.mantissa + 1 / 2 ≤ x
  sticky : em.stickyBit = true ↔ x ≠ em.mantissa ∧ x ≠ em.mantissa + 1 / 2

namespace Stands
variable {em : ExtendedMantissa} {x : ℚ}

theorem exactly (m : Nat) : Stands ⟨m, false, false⟩ m where
  lower := le_refl _
  upper := by linarith
  round := ⟨nofun, fun beyond => by dsimp only at beyond; linarith⟩
  sticky := ⟨nofun, fun other => absurd rfl other.1⟩

theorem inexact (stands : Stands em x) : (em.roundBit || em.stickyBit) = true ↔ x ≠ em.mantissa := by
  rw [Bool.or_eq_true, stands.round, stands.sticky]
  constructor
  · rintro (beyond | ⟨other, -⟩)
    · intro same
      linarith
    · exact other
  · intro other
    rcases le_or_gt ((em.mantissa : ℚ) + 1 / 2) x with beyond | short
    · exact .inl beyond
    · exact .inr ⟨other, short.ne⟩

theorem shift_one (stands : Stands em x) : Stands em.shiftRightOne (x / 2) := by
  obtain ⟨lower, upper, -, -⟩ := id stands
  have inexact := stands.inexact
  have parts : ((em.mantissa % 2 : Nat) : ℚ) + 2 * (em.mantissa / 2 : Nat) = em.mantissa := by
    exact_mod_cast Nat.mod_add_div em.mantissa 2
  -- The last bit of the mantissa becomes the bit after it, and whatever was behind it sticks.
  rcases Nat.mod_two_eq_zero_or_one em.mantissa with last | last
  · rw [last, Nat.cast_zero, zero_add] at parts
    refine ⟨?_, ?_, ?_, ?_⟩ <;> simp only [ExtendedMantissa.shiftRightOne, last, inexact, ← parts] at lower upper ⊢
    · linarith
    · linarith
    · exact ⟨nofun, fun beyond => by linarith⟩
    · exact ⟨fun other => ⟨fun same => other (by linarith), fun same => by linarith⟩,
        fun other same => other.1 (by linarith)⟩
  · rw [last, Nat.cast_one] at parts
    refine ⟨?_, ?_, ?_, ?_⟩ <;> simp only [ExtendedMantissa.shiftRightOne, last, inexact, ← parts] at lower upper ⊢
    · linarith
    · linarith
    · exact ⟨fun _ => by linarith, fun _ => rfl⟩
    · exact ⟨fun other => ⟨fun same => by linarith, fun same => other (by linarith)⟩,
        fun other same => other.2 (by linarith)⟩

theorem shift (stands : Stands em x) (n : Nat) : Stands (em >>> n) (x / 2 ^ n) := by
  induction n with
  | zero =>
      rw [pow_zero, div_one]
      exact stands
  | succ n ih =>
      rw [pow_succ, ← div_div]
      exact ih.shift_one

theorem rounded (stands : Stands em x) : |(em.roundedMantissa : ℚ) - x| ≤ 1 / 2 := by
  obtain ⟨lower, upper, round, sticky⟩ := stands
  have evened : (em.mantissa % 2 : Nat) = (0 : ℚ) ∨ (em.mantissa % 2 : Nat) = (1 : ℚ) := by
    exact_mod_cast Nat.mod_two_eq_zero_or_one em.mantissa
  rcases em with ⟨m, _ | _, _ | _⟩ <;> dsimp only at lower upper round sticky evened <;>
    simp only [ExtendedMantissa.roundedMantissa, ExtendedMantissa.accuracy, Accuracy.roundToNearestEven]
  · rw [abs_le]
    constructor <;> linarith [not_le.mp (mt round.mpr Bool.false_ne_true)]
  · rw [abs_le]
    constructor <;> linarith [not_le.mp (mt round.mpr Bool.false_ne_true)]
  · have middle : x = m + 1 / 2 := by
      by_contra other
      refine Bool.false_ne_true (sticky.mpr ⟨fun same => ?_, other⟩)
      linarith [round.mp rfl]
    rw [middle, Nat.cast_add, abs_le]
    rcases evened with zero | one
    · constructor <;> linarith
    · constructor <;> linarith
  · rw [Nat.cast_add, Nat.cast_one, abs_le]
    constructor <;> linarith [round.mp rfl]

theorem fraction (num den : Nat) (positive : 0 < den) :
    Stands (.ofMantissaAndAccuracy (num / den) (accuracyOfFraction (num % den) den)) (num / den) := by
  have wide : (0 : ℚ) < den := by exact_mod_cast positive
  have short : ((num % den : Nat) : ℚ) < den := by exact_mod_cast Nat.mod_lt num positive
  rw [quotient_parts num den positive]
  generalize num / den = q, num % den = r at *
  by_cases even : r = 0
  · subst even
    rw [Nat.cast_zero, zero_div, add_zero]
    exact exactly q
  · have rest : (0 : ℚ) < r := by exact_mod_cast Nat.pos_of_ne_zero even
    have above : (0 : ℚ) < r / den := div_pos rest wide
    have under : (r : ℚ) / den < 1 := (div_lt_one wide).mpr short
    rw [accuracyOfFraction, if_neg even]
    rcases lt_trichotomy (2 * r) den with less | same | more
    · have low : (r : ℚ) / den < 1 / 2 := by
        rw [div_lt_div_iff₀ wide two_pos]
        exact_mod_cast (by omega : r * 2 < 1 * den)
      rw [Nat.compare_eq_lt.mpr less]
      refine ⟨?_, ?_, ⟨nofun, ?_⟩, ⟨fun _ => ⟨?_, ?_⟩, fun _ => rfl⟩⟩ <;>
        dsimp only [ExtendedMantissa.ofMantissaAndAccuracy] <;> intros <;> linarith
    · have middle : (r : ℚ) / den = 1 / 2 := by
        rw [div_eq_div_iff wide.ne' two_ne_zero]
        exact_mod_cast (by omega : r * 2 = 1 * den)
      rw [Nat.compare_eq_eq.mpr same, middle]
      refine ⟨?_, ?_, ⟨fun _ => ?_, fun _ => rfl⟩, ⟨nofun, fun other => absurd rfl other.2⟩⟩ <;>
        dsimp only [ExtendedMantissa.ofMantissaAndAccuracy] <;> linarith
    · have high : 1 / 2 < (r : ℚ) / den := by
        rw [div_lt_div_iff₀ two_pos wide]
        exact_mod_cast (by omega : 1 * den < r * 2)
      rw [Nat.compare_eq_gt.mpr more]
      refine ⟨?_, ?_, ⟨fun _ => ?_, fun _ => rfl⟩, ⟨fun _ => ⟨?_, ?_⟩, fun _ => rfl⟩⟩ <;>
        dsimp only [ExtendedMantissa.ofMantissaAndAccuracy] <;> linarith

end Stands

def lastPlace (m : Nat) (e : Int) : Int := max ((m.log2 : Int) + e - 52) (-1074)

theorem target_exponent (m : Nat) (e : Int) : Format.binary64.targetExponent (totalExponent m e) = lastPlace m e := by
  simp only [Format.targetExponent, totalExponent, Format.mantissaBits, Format.minExponent, lastPlace]
  omega

theorem shift_to_target (m : Nat) (e : Int) (accuracy : Accuracy) (under : e ≤ lastPlace m e) :
    shiftToTargetExponent .binary64 m e accuracy =
      (ExtendedMantissa.ofMantissaAndAccuracy m accuracy >>> (lastPlace m e - e).toNat, lastPlace m e) := by
  have reached : e + ((lastPlace m e - e).toNat : Int) = lastPlace m e := by omega
  simp only [shiftToTargetExponent, shiftToExponent, target_exponent, reached]

-- Once rounded, only a mantissa that carried into a place of its own is shifted again.
theorem shift_rounded (m : Nat) (e : Int) (fits : m ≤ 2 ^ 53) (above : -1074 ≤ e) :
    shiftToTargetExponent .binary64 m e .exact =
      if m < 2 ^ 53 then (⟨m, false, false⟩, e) else (⟨2 ^ 52, false, false⟩, e + 1) := by
  by_cases small : m < 2 ^ 53
  · have short : m.log2 < 53 := by
      by_cases zero : m = 0
      · rw [zero]
        decide
      · exact (Nat.log2_lt zero).mpr small
    have still : (lastPlace m e - e).toNat = 0 := by
      rw [lastPlace]
      omega
    rw [if_pos small, shiftToTargetExponent, target_exponent, shiftToExponent, still]
    simp only [Nat.cast_zero, add_zero]
    rfl
  · obtain rfl : m = 2 ^ 53 := by omega
    have once : (lastPlace (2 ^ 53) e - e).toNat = 1 := by
      rw [lastPlace, Nat.log2_two_pow]
      omega
    rw [if_neg small, shiftToTargetExponent, target_exponent, shiftToExponent, once]
    rfl

theorem last_place_bounds (m : Nat) (e : Int) (x : ℚ) (lower : (m : ℚ) ≤ x) (upper : x < m + 1)
    (placed : 52 ≤ m.log2 ∨ e ≤ -1074) :
    e ≤ lastPlace m e ∧ x * 2 ^ e < 2 ^ (lastPlace m e + 53) ∧
      (2 ^ (lastPlace m e + 52) ≤ x * 2 ^ e ∨ lastPlace m e = -1074) := by
  have unit : (0 : ℚ) < 2 ^ e := zpow_pos two_pos e
  refine ⟨by rw [lastPlace]; omega, ?_, ?_⟩
  · have within : x < 2 ^ ((m.log2 : Int) + 1) := by
      have next : ((m + 1 : Nat) : ℚ) ≤ (2 ^ (m.log2 + 1) : Nat) := by exact_mod_cast Nat.lt_log2_self
      calc x < m + 1 := upper
        _ = (m + 1 : Nat) := by push_cast; rfl
        _ ≤ (2 ^ (m.log2 + 1) : Nat) := next
        _ = 2 ^ ((m.log2 : Int) + 1) := by push_cast; exact_mod_cast rfl
    calc x * 2 ^ e < 2 ^ ((m.log2 : Int) + 1) * 2 ^ e := by gcongr
      _ = 2 ^ ((m.log2 : Int) + 1 + e) := (zpow_add₀ two_ne_zero _ _).symm
      _ ≤ 2 ^ (lastPlace m e + 53) := zpow_le_zpow_right₀ one_le_two (by rw [lastPlace]; omega)
  · rw [or_iff_not_imp_right]
    intro normal
    have place : lastPlace m e + 52 = (m.log2 : Int) + e := by
      rw [lastPlace] at normal ⊢
      omega
    have nonzero : m ≠ 0 := by
      rintro rfl
      rw [lastPlace, Nat.log2_zero] at normal
      rw [Nat.log2_zero] at placed
      omega
    have least : ((2 ^ m.log2 : Nat) : ℚ) ≤ m := by exact_mod_cast Nat.log2_self_le nonzero
    calc (2 : ℚ) ^ (lastPlace m e + 52) = (2 ^ m.log2 : Nat) * 2 ^ e := by
          rw [place, zpow_add₀ two_ne_zero, zpow_natCast]
          push_cast
          rfl
      _ ≤ x * 2 ^ e := by gcongr; exact least.trans lower

theorem nearest_at_of_rounded (place : Int) (y : ℚ) (r : Nat) (above : -1074 ≤ place) (positive : 0 ≤ y)
    (fits : y * 2 ^ place < 2 ^ (place + 53)) (full : 2 ^ (place + 52) ≤ y * 2 ^ place ∨ place = -1074)
    (rounded : |(r : ℚ) - y| ≤ 1 / 2) :
    r ≤ 2 ^ 53 ∧ (2 ^ 52 ≤ r ∨ place = -1074) ∧ NearestAt place (y * 2 ^ place) (r * 2 ^ place) := by
  have unit : (0 : ℚ) < 2 ^ place := zpow_pos two_pos place
  have size : |y * 2 ^ place| = y * 2 ^ place := abs_of_nonneg (by positivity)
  have near : |r * 2 ^ place - y * 2 ^ place| ≤ 2 ^ (place - 1) := by
    rw [← sub_mul, abs_mul, abs_of_pos unit, zpow_sub_one₀ two_ne_zero]
    calc |(r : ℚ) - y| * 2 ^ place ≤ 1 / 2 * 2 ^ place := by gcongr
      _ = 2 ^ place * 2⁻¹ := by ring
  have nearest : NearestAt place (y * 2 ^ place) (r * 2 ^ place) :=
    ⟨above, by rwa [size], by rwa [size], ⟨r, by rw [Int.cast_natCast]⟩, near⟩
  rw [abs_le] at rounded
  refine ⟨?_, full.imp_left fun large => ?_, nearest⟩
  · rw [add_comm, zpow_add₀ two_ne_zero, mul_lt_mul_iff_left₀ unit] at fits
    norm_num at fits
    have : (r : ℚ) < (2 ^ 53 + 1 : Nat) := by
      push_cast
      linarith
    exact Nat.lt_succ_iff.mp (by exact_mod_cast this)
  · rw [add_comm, zpow_add₀ two_ne_zero, mul_le_mul_iff_left₀ unit] at large
    norm_num at large
    have : ((2 ^ 52 : Nat) : ℚ) < (r + 1 : Nat) := by
      push_cast
      linarith
    exact Nat.lt_succ_iff.mp (by exact_mod_cast this)

theorem first_rounding (m : Nat) (e : Int) (accuracy : Accuracy) (x : ℚ)
    (stands : Stands (.ofMantissaAndAccuracy m accuracy) x) (placed : 52 ≤ m.log2 ∨ e ≤ -1074) :
    ∃ r : Nat, (ExtendedMantissa.ofMantissaAndAccuracy m accuracy >>> (lastPlace m e - e).toNat).roundedMantissa = r ∧
      e ≤ lastPlace m e ∧ r ≤ 2 ^ 53 ∧ (2 ^ 52 ≤ r ∨ lastPlace m e = -1074) ∧
      NearestAt (lastPlace m e) (x * 2 ^ e) (r * 2 ^ lastPlace m e) := by
  have kept : (ExtendedMantissa.ofMantissaAndAccuracy m accuracy).mantissa = m := by
    rcases accuracy with _ | ⟨_ | _ | _⟩ <;> rfl
  obtain ⟨lower, upper, -, -⟩ := id stands
  rw [kept] at lower upper
  obtain ⟨under, fits, full⟩ := last_place_bounds m e x lower upper placed
  have moved : x * 2 ^ e = x / 2 ^ (lastPlace m e - e).toNat * 2 ^ lastPlace m e := by
    have reached : lastPlace m e = ((lastPlace m e - e).toNat : Int) + e := by omega
    conv_rhs => rw [reached, zpow_add₀ two_ne_zero, zpow_natCast]
    rw [← reached]
    field_simp
  have positive : 0 ≤ x / 2 ^ (lastPlace m e - e).toNat := by
    have := (Nat.cast_nonneg m).trans lower
    positivity
  rw [moved] at fits full ⊢
  exact ⟨_, rfl, under, nearest_at_of_rounded _ _ _ (le_max_right _ _) positive fits full (stands.shift _).rounded⟩

theorem round_nearest (sign : Sign) (m : Nat) (e : Int) (accuracy : Accuracy) (x : ℚ)
    (stands : Stands (.ofMantissaAndAccuracy m accuracy) x) (placed : 52 ≤ m.log2 ∨ e ≤ -1074)
    (bounded : |x * 2 ^ e| < 2 ^ 1023) :
    ∃ r, Nearest (x * 2 ^ e) r ∧
      Valued (Float.Model.pack (roundWithAccuracy .binary64 sign m e accuracy)).unpack (unit sign * r) := by
  obtain ⟨r, rounded, under, fits, full, nearest⟩ := first_rounding m e accuracy x stands placed
  refine ⟨r * 2 ^ lastPlace m e, ⟨_, nearest⟩, ?_⟩
  have above := nearest.above
  have below := nearest.place_below bounded
  rw [roundWithAccuracy, shift_to_target m e accuracy under]
  dsimp only
  rw [rounded, shift_rounded r _ fits above]
  by_cases small : r < 2 ^ 53
  · rw [if_pos small]
    by_cases zero : r = 0
    · rw [dif_pos zero, zero]
      rw [Nat.cast_zero, zero_mul, mul_zero, pack_valued _ 0 (.zero sign)]
      exact .zero sign
    · have valued := Valued.finite sign r _ (Nat.pos_of_ne_zero zero) ⟨small, above, by omega, full⟩
      rw [dif_neg zero, pack_valued _ _ valued, ← mul_assoc]
      exact valued
  · obtain rfl : r = 2 ^ 53 := by omega
    have carried : ((2 ^ 53 : Nat) : ℚ) * 2 ^ lastPlace m e = (2 ^ 52 : Nat) * 2 ^ (lastPlace m e + 1) := by
      rw [zpow_add_one₀ two_ne_zero]
      push_cast
      ring
    have valued := Valued.finite sign (2 ^ 52) (lastPlace m e + 1) (by decide)
      ⟨by decide, by omega, by omega, .inl (le_refl _)⟩
    rw [if_neg small, dif_neg (show ¬ 2 ^ 52 = 0 by decide), pack_valued _ _ valued, carried, ← mul_assoc]
    exact valued

end Binary
end PulseAnalyzer
