import PulseAnalyzer.Proofs.Number.Comparison
import PulseAnalyzer.Proofs.Number.DecimalText

set_option autoImplicit false

namespace PulseAnalyzer
namespace Decimal
open Binary

def Neighbourhood.Holds (hood : Neighbourhood) (v : ℚ) : Prop :=
  if hood.closed then (hood.low : ℚ) ≤ v * hood.unit ∧ v * hood.unit ≤ hood.high
  else (hood.low : ℚ) < v * hood.unit ∧ v * hood.unit < hood.high

theorem on_grid_compare (n unit coefficient : Nat) (power : Int) :
    ((onGrid n unit power).1 ≤ coefficient * (onGrid n unit power).2 ↔ (n : ℚ) ≤ coefficient * 10 ^ power * unit) ∧
    (coefficient * (onGrid n unit power).2 ≤ (onGrid n unit power).1 ↔ (coefficient : ℚ) * 10 ^ power * unit ≤ n) := by
  cases power with
  | ofNat p =>
      have scaled : (coefficient : ℚ) * 10 ^ (Int.ofNat p) * unit = (coefficient * (unit * Nat.pow 10 p) : Nat) := by
        change (coefficient : ℚ) * 10 ^ (p : Int) * unit = (coefficient * (unit * 10 ^ p) : Nat)
        push_cast
        rw [zpow_natCast]
        ring
      rw [scaled, Nat.cast_le, Nat.cast_le]
      exact ⟨Iff.rfl, Iff.rfl⟩
  | negSucc p =>
      have unit_pos : (0 : ℚ) < 10 ^ (p + 1) := by positivity
      have scaled : (coefficient : ℚ) * 10 ^ (Int.negSucc p) * unit = (coefficient * unit : Nat) / 10 ^ (p + 1) := by
        rw [zpow_negSucc]
        push_cast
        ring
      have grid : ((n * Nat.pow 10 (p + 1) : Nat) : ℚ) = n * 10 ^ (p + 1) := by
        change ((n * 10 ^ (p + 1) : Nat) : ℚ) = n * 10 ^ (p + 1)
        push_cast
        rfl
      rw [scaled, le_div_iff₀ unit_pos, div_le_iff₀ unit_pos, ← grid, Nat.cast_le, Nat.cast_le]
      exact ⟨Iff.rfl, Iff.rfl⟩

theorem contains_iff (hood : Neighbourhood) (coefficient : Nat) (power : Int) :
    hood.contains coefficient power = true ↔ hood.Holds (coefficient * 10 ^ power) := by
  obtain ⟨low_le, le_low⟩ := on_grid_compare hood.low hood.unit coefficient power
  obtain ⟨high_le, le_high⟩ := on_grid_compare hood.high hood.unit coefficient power
  unfold Neighbourhood.contains Neighbourhood.Holds
  dsimp only
  split
  · rw [Bool.and_eq_true, decide_eq_true_eq, decide_eq_true_eq, low_le, le_high]
  · rw [Bool.and_eq_true, decide_eq_true_eq, decide_eq_true_eq, ← not_le, ← not_le, le_low, high_le, not_le, not_le]

section search
variable (hood : Neighbourhood) (tie : Tie)

theorem nearest_holds (power : Int) (d : Decimal) (found : hood.nearest? tie power = some d) : hood.Holds d.value := by
  unfold Neighbourhood.nearest? at found
  dsimp only at found
  generalize roundDiv tie (onGrid hood.value hood.unit power).1 (onGrid hood.value hood.unit power).2 = nearest at found
  generalize (if nearest = _ then _ else _) = other at found
  split at found
  · rename_i inside
    cases found
    exact (contains_iff hood _ power).mp inside
  · split at found
    · rename_i inside
      cases found
      exact (contains_iff hood _ power).mp inside
    · cases found

theorem coarsest_holds (power : Int) (places : Nat) (d : Decimal) (found : hood.coarsest tie power places = some d) :
    hood.Holds d.value := by
  induction places generalizing power with
  | zero => cases found
  | succ places ih =>
      rw [Neighbourhood.coarsest] at found
      split at found
      · rename_i here
        cases found
        exact nearest_holds hood tie power d here
      · exact ih (power - 1) found

end search

theorem trim_value (d : Decimal) : d.trim.value = d.value := by
  induction d using trim.induct with
  | case1 d zero =>
      rw [trim, dif_pos zero, value, value, zero]
      simp
  | case2 d nonzero even ih =>
      have whole : (d.coefficient : ℚ) = (d.coefficient / 10 : Nat) * 10 := by
        exact_mod_cast (by omega : d.coefficient = d.coefficient / 10 * 10)
      rw [trim, dif_neg nonzero, if_pos even, ih, value, value, whole, zpow_add_one₀ (by norm_num)]
      ring
  | case3 d nonzero odd => rw [trim, dif_neg nonzero, if_neg odd]

theorem exactly_value (x : Exact) : (exactly x).value = x.significand * 2 ^ x.exponent := by
  obtain ⟨negative, significand, e | e⟩ := x
  · change ((significand * 2 ^ e : Nat) : ℚ) * 10 ^ (0 : Int) = significand * 2 ^ (e : Int)
    push_cast
    rw [mul_one, zpow_natCast]
  · change ((significand * 5 ^ (e + 1) : Nat) : ℚ) * 10 ^ (Int.negSucc e) = significand * 2 ^ (Int.negSucc e)
    have split : (10 : ℚ) ^ (e + 1) = 5 ^ (e + 1) * 2 ^ (e + 1) := by rw [← mul_pow]; norm_num
    rw [zpow_negSucc, zpow_negSucc, split]
    push_cast
    field_simp

def lowest (x : Exact) : Nat := 4 * x.significand - if x.significand = 2 ^ 52 ∧ -1074 < x.exponent then 1 else 2
def highest (x : Exact) : Nat := 4 * x.significand + 2

theorem neighbourhood_scaled (x : Exact) : ∃ scale unit : Nat, (0 : ℚ) < unit ∧ (scale : ℚ) = 2 ^ (x.exponent - 2) * unit ∧
    neighbourhood x = ⟨lowest x * scale, 4 * x.significand * scale, highest x * scale, unit, x.significand % 2 = 0⟩ := by
  cases shifted : x.exponent - 2 with
  | ofNat e =>
      refine ⟨2 ^ e, 1, by norm_num, ?_, by rw [neighbourhood, shifted]; rfl⟩
      change ((2 ^ e : Nat) : ℚ) = 2 ^ (e : Int) * (1 : Nat)
      push_cast
      rw [mul_one, zpow_natCast]
  | negSucc e =>
      refine ⟨1, 2 ^ (e + 1), by positivity, ?_, by rw [neighbourhood, shifted]; rfl⟩
      rw [zpow_negSucc]
      push_cast
      field_simp

theorem holds_iff (x : Exact) (v : ℚ) : (neighbourhood x).Holds v ↔
    if x.significand % 2 = 0 then lowest x * 2 ^ (x.exponent - 2) ≤ v ∧ v ≤ highest x * 2 ^ (x.exponent - 2)
    else lowest x * 2 ^ (x.exponent - 2) < v ∧ v < highest x * 2 ^ (x.exponent - 2) := by
  obtain ⟨scale, unit, positive, scaled, known⟩ := neighbourhood_scaled x
  rw [known, Neighbourhood.Holds]
  dsimp only
  rw [Nat.cast_mul, Nat.cast_mul, scaled, ← mul_assoc, ← mul_assoc, mul_le_mul_iff_left₀ positive,
    mul_le_mul_iff_left₀ positive, mul_lt_mul_iff_left₀ positive, mul_lt_mul_iff_left₀ positive]
  by_cases even : x.significand % 2 = 0
  · rw [if_pos even, if_pos (decide_eq_true even)]
  · rw [if_neg even, if_neg (by simpa using even)]

theorem holds_within (x : Exact) (v : ℚ) (holds : (neighbourhood x).Holds v) :
    lowest x * 2 ^ (x.exponent - 2) ≤ v ∧ v ≤ highest x * 2 ^ (x.exponent - 2) := by
  rw [holds_iff] at holds
  split at holds
  · exact holds
  · exact ⟨holds.1.le, holds.2.le⟩

theorem holds_strictly (x : Exact) (v : ℚ) (odd : x.significand % 2 = 1) (holds : (neighbourhood x).Holds v) :
    lowest x * 2 ^ (x.exponent - 2) < v ∧ v < highest x * 2 ^ (x.exponent - 2) := by
  rw [holds_iff, if_neg (by omega)] at holds
  exact holds

-- The upper bound of a double is at most the lower bound of a larger one. Where they meet, one of the two doubles is odd,
-- and then its neighbourhood is open.
theorem bounds_meet (x y : Exact) (left : Canonical x.significand x.exponent) (right : Canonical y.significand y.exponent)
    (less : x.exponent < y.exponent ∨ x.exponent = y.exponent ∧ x.significand < y.significand) :
    ∃ k : Nat, y.exponent = x.exponent + k ∧ highest x ≤ lowest y * 2 ^ k ∧
      (highest x = lowest y * 2 ^ k → x.significand % 2 = 1 ∨ y.significand % 2 = 1) := by
  rcases less with below | ⟨same, fewer⟩
  · have full : 2 ^ 52 ≤ y.significand := right.full.resolve_right (by have := left.above; omega)
    have fits := left.fits
    have above := left.above
    obtain ⟨k, rise⟩ : ∃ k : Nat, y.exponent = x.exponent + (k + 1 : Nat) := ⟨(y.exponent - x.exponent - 1).toNat, by omega⟩
    have doubled : lowest y * 2 ≤ lowest y * 2 ^ (k + 1) := by
      rw [pow_succ]
      exact Nat.mul_le_mul_left _ (Nat.le_mul_of_pos_left 2 (Nat.two_pow_pos k))
    have low : 2 ^ 54 - 1 ≤ lowest y := by
      unfold lowest
      split <;> omega
    refine ⟨k + 1, rise, ?_, fun meet => .inl ?_⟩
    · unfold highest
      omega
    · unfold highest at meet
      omega
  · refine ⟨0, by omega, ?_, fun meet => ?_⟩
    · unfold highest lowest
      split <;> omega
    · unfold highest lowest at meet
      split at meet <;> omega

theorem neighbours_apart (x y : Exact) (left : Canonical x.significand x.exponent)
    (right : Canonical y.significand y.exponent)
    (less : x.exponent < y.exponent ∨ x.exponent = y.exponent ∧ x.significand < y.significand) (v : ℚ)
    (first : (neighbourhood x).Holds v) : ¬ (neighbourhood y).Holds v := by
  intro second
  obtain ⟨k, rise, ordered, parity⟩ := bounds_meet x y left right less
  have unit : (0 : ℚ) < 2 ^ (x.exponent - 2) := by positivity
  have scaled : (lowest y : ℚ) * 2 ^ (y.exponent - 2) = (lowest y * 2 ^ k : Nat) * 2 ^ (x.exponent - 2) := by
    have split : y.exponent - 2 = k + (x.exponent - 2) := by omega
    rw [split, zpow_add₀ two_ne_zero, zpow_natCast]
    push_cast
    ring
  have upper := (holds_within x v first).2
  have lower := (holds_within y v second).1
  rw [scaled] at lower
  have meet : highest x = lowest y * 2 ^ k := by
    have squeezed : ((lowest y * 2 ^ k : Nat) : ℚ) ≤ highest x := (mul_le_mul_iff_left₀ unit).mp (lower.trans upper)
    exact le_antisymm ordered (by exact_mod_cast squeezed)
  rcases parity meet with odd | odd
  · have strictly := (holds_strictly x v odd first).2
    rw [meet] at strictly
    exact absurd lower (not_le.mpr strictly)
  · have strictly := (holds_strictly y v odd second).1
    rw [scaled, ← meet] at strictly
    exact absurd upper (not_le.mpr strictly)

theorem holds_once (x y : Exact) (left : Canonical x.significand x.exponent) (right : Canonical y.significand y.exponent)
    (v : ℚ) (first : (neighbourhood x).Holds v) (second : (neighbourhood y).Holds v) :
    x.significand = y.significand ∧ x.exponent = y.exponent := by
  have apart := neighbours_apart x y left right
  have apart' := neighbours_apart y x right left
  by_contra differ
  by_cases less : x.exponent < y.exponent ∨ x.exponent = y.exponent ∧ x.significand < y.significand
  · exact apart less v first second
  · exact apart' (by omega) v second first

theorem value_holds (x : Exact) (positive : 0 < x.significand) :
    (neighbourhood x).Holds (x.significand * 2 ^ x.exponent) := by
  have unit : (0 : ℚ) < 2 ^ (x.exponent - 2) := by positivity
  have quarters : (x.significand : ℚ) * 2 ^ x.exponent = (4 * x.significand : Nat) * 2 ^ (x.exponent - 2) := by
    have four : (4 : ℚ) = 2 ^ (2 : Int) := by norm_num
    have split : (2 : ℚ) ^ x.exponent = 4 * 2 ^ (x.exponent - 2) := by
      rw [four, ← zpow_add₀ two_ne_zero, add_sub_cancel]
    rw [split]
    push_cast
    ring
  have low : (lowest x : ℚ) * 2 ^ (x.exponent - 2) < (4 * x.significand : Nat) * 2 ^ (x.exponent - 2) := by
    refine (mul_lt_mul_iff_left₀ unit).mpr (Nat.cast_lt.mpr ?_)
    unfold lowest
    split <;> omega
  have high : ((4 * x.significand : Nat) : ℚ) * 2 ^ (x.exponent - 2) < highest x * 2 ^ (x.exponent - 2) := by
    refine (mul_lt_mul_iff_left₀ unit).mpr (Nat.cast_lt.mpr ?_)
    unfold highest
    omega
  rw [holds_iff, quarters]
  split
  · exact ⟨low.le, high.le⟩
  · exact ⟨low, high⟩

theorem holds_positive (x : Exact) (positive : 0 < x.significand) (v : ℚ) (holds : (neighbourhood x).Holds v) : 0 < v := by
  have unit : (0 : ℚ) < 2 ^ (x.exponent - 2) := by positivity
  have low : (0 : ℚ) < lowest x := by
    refine Nat.cast_pos.mpr ?_
    unfold lowest
    split <;> omega
  exact lt_of_lt_of_le (mul_pos low unit) (holds_within x v holds).1

-- The shortest decimal lies in the neighbourhood of its double, whether the search for it ends or not.
theorem shortest_holds (tie : Tie) (x : Exact) (positive : 0 < x.significand) :
    (neighbourhood x).Holds (shortest tie x).value := by
  rw [shortest, if_neg positive.ne']
  dsimp only
  rw [trim_value]
  cases found : (neighbourhood x).coarsest tie (leadingPower (neighbourhood x).value (neighbourhood x).unit) 17 with
  | none =>
      rw [Option.getD_none, exactly_value]
      exact value_holds x positive
  | some d => exact coarsest_holds _ tie _ 17 d found

theorem shortest_zero (tie : Tie) (x : Exact) (zero : x.significand = 0) : (shortest tie x).value = 0 := by
  rw [shortest, if_pos zero, value]
  simp

theorem shortest_told (tie : Tie) (x y : Exact) (left : Canonical x.significand x.exponent)
    (right : Canonical y.significand y.exponent) (same : (shortest tie x).value = (shortest tie y).value) :
    x.significand = y.significand ∧ x.exponent = y.exponent := by
  have smallest (z : Exact) (canonical : Canonical z.significand z.exponent) (zero : z.significand = 0) :
      z.exponent = -1074 := canonical.full.resolve_left (by omega)
  rcases Nat.eq_zero_or_pos x.significand with leftZero | leftPositive
  · rcases Nat.eq_zero_or_pos y.significand with rightZero | rightPositive
    · exact ⟨leftZero.trans rightZero.symm, (smallest x left leftZero).trans (smallest y right rightZero).symm⟩
    · have positive := holds_positive y rightPositive _ (shortest_holds tie y rightPositive)
      rw [← same, shortest_zero tie x leftZero] at positive
      exact absurd positive (lt_irrefl 0)
  · rcases Nat.eq_zero_or_pos y.significand with rightZero | rightPositive
    · have positive := holds_positive x leftPositive _ (shortest_holds tie x leftPositive)
      rw [same, shortest_zero tie y rightZero] at positive
      exact absurd positive (lt_irrefl 0)
    · have holds := shortest_holds tie x leftPositive
      rw [same] at holds
      exact holds_once x y left right _ holds (shortest_holds tie y rightPositive)

end Decimal

namespace Binary

theorem bits_parted (bits : Nat) (bounded : bits < 2 ^ 64) :
    bits = (if Nat.pow 2 63 ≤ bits then 2 ^ 63 else 0) + exponentField bits * 2 ^ 52 + fractionField bits := by
  have pow_52 : Nat.pow 2 52 = 2 ^ 52 := rfl
  have pow_63 : Nat.pow 2 63 = 2 ^ 63 := rfl
  have pow_11 : Nat.pow 2 11 = 2 ^ 11 := rfl
  rw [exponentField, fractionField, pow_52, pow_63, pow_11]
  split <;> omega

theorem view_parted (x : Float) (e : Exact) (viewed : view x = .finite e) :
    e.negative = decide (Nat.pow 2 63 ≤ x.toBits.toNat) ∧
    ((exponentField x.toBits.toNat = 0 ∧ e.significand = fractionField x.toBits.toNat) ∨
      (e.significand = 2 ^ 52 + fractionField x.toBits.toNat ∧ e.exponent = (exponentField x.toBits.toNat : Int) - 1075)) := by
  unfold view at viewed
  dsimp only at viewed
  split at viewed
  · split at viewed <;> cases viewed
  · split at viewed
    · rename_i small
      cases viewed
      exact ⟨rfl, .inl ⟨small, rfl⟩⟩
    · cases viewed
      exact ⟨rfl, .inr ⟨rfl, rfl⟩⟩

theorem view_once (x y : Float) (e : Exact) (left : view x = .finite e) (right : view y = .finite e) : x = y := by
  obtain ⟨sign, parts⟩ := view_parted x e left
  obtain ⟨sign', parts'⟩ := view_parted y e right
  have whole := bits_parted x.toBits.toNat x.toBits.toNat_lt
  have whole' := bits_parted y.toBits.toNat y.toBits.toNat_lt
  have short : fractionField x.toBits.toNat < 2 ^ 52 := Nat.mod_lt _ (Nat.two_pow_pos 52)
  have short' : fractionField y.toBits.toNat < 2 ^ 52 := Nat.mod_lt _ (Nat.two_pow_pos 52)
  have half : (Nat.pow 2 63 ≤ x.toBits.toNat) = (Nat.pow 2 63 ≤ y.toBits.toNat) := by simpa using sign.symm.trans sign'
  have fields : exponentField x.toBits.toNat = exponentField y.toBits.toNat ∧
      fractionField x.toBits.toNat = fractionField y.toBits.toNat := by
    rcases parts with ⟨small, fraction⟩ | ⟨fraction, field⟩ <;>
      rcases parts' with ⟨small', fraction'⟩ | ⟨fraction', field'⟩ <;> omega
  simp only [half, fields.1, fields.2] at whole
  exact Float.toBits_inj.mp (UInt64.toNat_inj.mp (whole.trans whole'.symm))

end Binary
open Binary Decimal

theorem record_text_written (x : Float) (e : Exact) (viewed : view x = .finite e) :
    ∃ text, recordText? x = some ((if e.negative then "-" else "") ++ text) ∧ Writes text.toList (shortest .toEven e) := by
  rw [recordText?, viewed]
  refine ⟨_, rfl, ?_⟩
  split
  · exact positional_writes _
  · exact scientific_writes _

theorem record_text_number (x : Float) (finite : x.isFinite = true) :
    ∃ text, recordText? x = some text ∧ ∀ c ∈ text.toList, DigitOr ['.', 'e', '+', '-'] c := by
  obtain ⟨a, valued⟩ := finite_valued x finite
  obtain ⟨e, viewed, -⟩ := viewed_of_value x a valued
  obtain ⟨text, written, writes⟩ := record_text_written x e viewed
  refine ⟨_, written, fun c member => ?_⟩
  rw [String.toList_append, List.mem_append] at member
  rcases member with sign | digit
  · split at sign
    · cases List.mem_singleton.mp sign
      exact .inr (by decide)
    · cases sign
  · exact writes.number c digit

theorem record_text_once (x y : Float) (first : x.isFinite = true) (second : y.isFinite = true)
    (same : recordText? x = recordText? y) : x = y := by
  obtain ⟨a, valued⟩ := finite_valued x first
  obtain ⟨b, valued'⟩ := finite_valued y second
  obtain ⟨e, viewed, -⟩ := viewed_of_value x a valued
  obtain ⟨f, viewed', -⟩ := viewed_of_value y b valued'
  obtain ⟨text, written, -, r, read, value⟩ := record_text_written x e viewed
  obtain ⟨text', written', -, r', read', value'⟩ := record_text_written y f viewed'
  have unsigned (cs : List Char) : unsignedDecimal? ('-' :: cs) = none := rfl
  rw [written, written'] at same
  have chars := congrArg String.toList (Option.some.inj same)
  rw [String.toList_append, String.toList_append] at chars
  have signs : e.negative = f.negative ∧ text.toList = text'.toList := by
    cases left : e.negative <;> cases right : f.negative <;> simp only [left, right] at chars
    · exact ⟨rfl, chars⟩
    · change text.toList = '-' :: text'.toList at chars
      rw [chars, unsigned] at read
      cases read
    · change '-' :: text.toList = text'.toList at chars
      rw [← chars, unsigned] at read'
      cases read'
    · exact ⟨rfl, (List.cons.inj chars).2⟩
  obtain ⟨sign, alike⟩ := signs
  rw [alike, read'] at read
  cases read
  obtain ⟨significand, exponent⟩ := shortest_told .toEven e f (view_canonical x e viewed) (view_canonical y f viewed')
    (value.symm.trans value')
  have parts : e = f := by
    cases e
    cases f
    simp_all
  exact view_once x y e viewed (parts ▸ viewed')

end PulseAnalyzer
