import PulseAnalyzer.Proofs.Number.NearestDouble

set_option autoImplicit false

namespace PulseAnalyzer
namespace Binary
open Float.Model (Format UnpackedFloat totalExponent)
open Float.Model.UnpackedFloat

theorem log2_shift (m n : Nat) (nonzero : m ≠ 0) : (m <<< n).log2 = m.log2 + n := by
  have parts := (Nat.log2_eq_iff nonzero).mp rfl
  rw [Nat.shiftLeft_eq]
  refine (Nat.log2_eq_iff (Nat.mul_ne_zero nonzero (Nat.two_pow_pos n).ne')).mpr ⟨?_, ?_⟩
  · rw [pow_add]
    exact Nat.mul_le_mul_right _ parts.1
  · rw [Nat.add_right_comm, pow_add]
    exact Nat.mul_lt_mul_of_pos_right parts.2 (Nat.two_pow_pos n)

theorem shift_value (m n : Nat) (e : Int) : ((m <<< n : Nat) : ℚ) * 2 ^ (e - n) = m * 2 ^ e := by
  rw [Nat.shiftLeft_eq, zpow_sub₀ two_ne_zero, zpow_natCast]
  push_cast
  field_simp

theorem Nearest.neg {t r : ℚ} (nearest : Nearest t r) : Nearest (-t) (-r) := by
  obtain ⟨place, at_place⟩ := nearest
  exact ⟨place, at_place.neg⟩

theorem Nearest.signed {t r : ℚ} (nearest : Nearest t r) (sign : Sign) : Nearest (unit sign * t) (unit sign * r) := by
  cases sign with
  | positive => simpa only [unit, one_mul] using nearest
  | negative => simpa only [unit, neg_one_mul] using nearest.neg

theorem valued_nearest (u : UnpackedFloat) (a : ℚ) (valued : Valued u a) : Nearest a a := by
  have still : |a - a| = 0 := by rw [sub_self, abs_zero]
  cases valued with
  | zero sign => exact ⟨-1074, le_refl _, by rw [abs_zero]; positivity, .inr rfl, ⟨0, by simp⟩, by rw [still]; positivity⟩
  | finite sign m e positive canonical =>
      have step : (0 : ℚ) < 2 ^ e := zpow_pos two_pos e
      have size : |unit sign * m * 2 ^ e| = m * 2 ^ e := by
        rw [abs_mul, abs_mul, abs_of_pos step, Nat.abs_cast]
        cases sign <;> simp [unit]
      have fits : (m : ℚ) < 2 ^ 53 := by exact_mod_cast canonical.fits
      refine ⟨e, canonical.above, ?_, canonical.full.imp_left fun full => ?_, ?_, by rw [still]; positivity⟩
      · rw [size, add_comm, zpow_add₀ two_ne_zero]
        gcongr
        exact fits
      · have large : (2 : ℚ) ^ 52 ≤ m := by exact_mod_cast full
        rw [size, add_comm, zpow_add₀ two_ne_zero]
        gcongr
        exact large
      · cases sign with
        | positive => exact ⟨m, by simp [unit]⟩
        | negative => exact ⟨-m, by simp [unit]⟩

theorem round_dyadic (sign : Sign) (m : Nat) (e : Int) (nonzero : m ≠ 0) (bounded : |(m : ℚ) * 2 ^ e| < 2 ^ 1023) :
    ∃ r, Nearest (unit sign * (m * 2 ^ e)) r ∧
      Valued (Float.Model.pack (UnpackedFloat.round .binary64 sign m e)).unpack r := by
  let n := (e - lastPlace m e).toNat
  have placed : 52 ≤ (m <<< n).log2 ∨ e - n ≤ -1074 := by
    rw [log2_shift m n nonzero]
    simp only [n, lastPlace]
    omega
  rw [← shift_value m n e] at bounded ⊢
  obtain ⟨r, nearest, valued⟩ := round_nearest sign (m <<< n) (e - n) .exact _ (.exactly _) placed bounded
  refine ⟨unit sign * r, nearest.signed sign, ?_⟩
  rw [UnpackedFloat.round, target_exponent]
  exact valued

theorem normalize_nearest (m e : Int) (zero : Sign) (bounded : |(m : ℚ) * 2 ^ e| < 2 ^ 1023) :
    ∃ r, Nearest (m * 2 ^ e) r ∧ Valued (Float.Model.pack (UnpackedFloat.normalize .binary64 m e zero)).unpack r := by
  rcases lt_trichotomy m 0 with negative | rfl | positive
  · have size : (((-m).toNat : Nat) : ℚ) = -m := by exact_mod_cast Int.toNat_of_nonneg (by omega : 0 ≤ -m)
    have value : (m : ℚ) * 2 ^ e = unit .negative * (((-m).toNat : Nat) * 2 ^ e) := by rw [size, unit]; ring
    obtain ⟨r, nearest, valued⟩ := round_dyadic .negative (-m).toNat e (by omega) (by rwa [size, neg_mul, abs_neg])
    unfold UnpackedFloat.normalize
    rw [Int.compare_eq_lt.mpr negative, value]
    exact ⟨r, nearest, valued⟩
  · refine ⟨0, ?_, ?_⟩
    · rw [Int.cast_zero, zero_mul]
      exact valued_nearest _ 0 (.zero zero)
    · exact (pack_valued _ 0 (.zero zero)).symm ▸ .zero zero
  · have size : ((m.toNat : Nat) : ℚ) = m := by exact_mod_cast Int.toNat_of_nonneg positive.le
    have value : (m : ℚ) * 2 ^ e = unit .positive * ((m.toNat : Nat) * 2 ^ e) := by rw [size, unit, one_mul]
    obtain ⟨r, nearest, valued⟩ := round_dyadic .positive m.toNat e (by omega) (by rwa [size])
    unfold UnpackedFloat.normalize
    rw [Int.compare_eq_gt.mpr positive, value]
    exact ⟨r, nearest, valued⟩

theorem apply_unit (sign : Sign) (n : Int) : (sign.apply n : ℚ) = unit sign * n := by
  cases sign <;> simp [Sign.apply, unit]

theorem aligned_value (sign : Sign) (m : Nat) (e common : Int) (under : common ≤ e) :
    (sign.apply ((decreaseExponent m e common).1 : Int) : ℚ) * 2 ^ common = unit sign * m * 2 ^ e := by
  have reached : e - ((e - common).toNat : Int) = common := by omega
  have moved := shift_value m (e - common).toNat e
  rw [reached] at moved
  rw [apply_unit, decreaseExponent, Int.cast_natCast, mul_assoc, moved, mul_assoc]

theorem unit_mul (s s' : Sign) : unit (s * s') = unit s * unit s' := by
  cases s <;> cases s' <;> norm_num [unit, Sign.instMul]

theorem unit_div (s s' : Sign) : unit (s / s') = unit s / unit s' := by
  have same : s / s' = s * s' := by cases s <;> cases s' <;> rfl
  rw [same, unit_mul]
  cases s' <;> simp only [unit, mul_one, div_one, mul_neg_one, div_neg]

theorem abs_unit (s : Sign) : |unit s| = 1 := by
  cases s <;> simp [unit]

theorem kept_nearest (u : UnpackedFloat) (a : ℚ) (valued : Valued u a) :
    ∃ r, Nearest a r ∧ Valued (Float.Model.pack u).unpack r := by
  refine ⟨a, valued_nearest u a valued, ?_⟩
  rwa [pack_valued u a valued]

-- A product has 53 places of its own, or its exponent is as small as that of the smallest double.
theorem product_placed (m m' : Nat) (e e' : Int) (positive : 0 < m) (positive' : 0 < m') (canonical : Canonical m e)
    (canonical' : Canonical m' e') : 52 ≤ (m * m').log2 ∨ e + e' ≤ -1074 := by
  have large (full : 2 ^ 52 ≤ m * m') : 52 ≤ (m * m').log2 :=
    (Nat.le_log2 (Nat.mul_pos positive positive').ne').mpr full
  rcases canonical.full with full | bottom
  · exact .inl (large (full.trans (Nat.le_mul_of_pos_right m positive')))
  · rcases canonical'.full with full' | bottom'
    · exact .inl (large (full'.trans (Nat.le_mul_of_pos_left m' positive)))
    · exact .inr (by omega)

theorem quotient_placed (m m' n : Nat) (positive : 0 < m) (positive' : 0 < m') (wide : m'.log2 + 53 ≤ m.log2 + n) :
    52 ≤ ((m <<< n) / m').log2 := by
  have enough : 2 ^ 52 ≤ (m <<< n) / m' := by
    refine (Nat.le_div_iff_mul_le positive').mpr ?_
    calc 2 ^ 52 * m' ≤ 2 ^ 52 * 2 ^ (m'.log2 + 1) := Nat.mul_le_mul_left _ Nat.lt_log2_self.le
      _ = 2 ^ (m'.log2 + 53) := by rw [← pow_add]; congr 1; omega
      _ ≤ 2 ^ (m.log2 + n) := Nat.pow_le_pow_right two_pos wide
      _ = 2 ^ m.log2 * 2 ^ n := pow_add _ _ _
      _ ≤ m * 2 ^ n := Nat.mul_le_mul_right _ (Nat.log2_self_le positive.ne')
      _ = m <<< n := (Nat.shiftLeft_eq m n).symm
  exact (Nat.le_log2 (by omega)).mpr enough

section operations
variable (u v : UnpackedFloat) (a b : ℚ) (left : Valued u a) (right : Valued v b)
include left right

theorem add_valued (bounded : |a + b| < 2 ^ 1023) :
    ∃ r, Nearest (a + b) r ∧ Valued (Float.Model.pack (UnpackedFloat.add .binary64 u v)).unpack r := by
  cases left with
  | zero s =>
      cases right with
      | zero s' =>
          rw [add_zero]
          cases s <;> cases s' <;> exact kept_nearest _ 0 (.zero _)
      | finite s' m' e' positive' canonical' =>
          rw [zero_add]
          exact kept_nearest _ _ (.finite s' m' e' positive' canonical')
  | finite s m e positive canonical =>
      cases right with
      | zero s' =>
          rw [add_zero]
          exact kept_nearest _ _ (.finite s m e positive canonical)
      | finite s' m' e' positive' canonical' =>
          have sum : ((s.apply ((decreaseExponent m e (min e e')).1 : Int) +
              s'.apply ((decreaseExponent m' e' (min e e')).1 : Int) : Int) : ℚ) * 2 ^ min e e' =
              unit s * m * 2 ^ e + unit s' * m' * 2 ^ e' := by
            rw [Int.cast_add, add_mul, aligned_value s m e _ (min_le_left e e'),
              aligned_value s' m' e' _ (min_le_right e e')]
          rw [← sum] at bounded ⊢
          exact normalize_nearest _ _ .positive bounded

theorem mul_valued (bounded : |a * b| < 2 ^ 1023) :
    ∃ r, Nearest (a * b) r ∧ Valued (Float.Model.pack (UnpackedFloat.mul .binary64 u v)).unpack r := by
  cases left with
  | zero s =>
      rw [zero_mul]
      cases right with
      | zero s' => exact kept_nearest _ 0 (.zero (s * s'))
      | finite s' => exact kept_nearest _ 0 (.zero (s * s'))
  | finite s m e positive canonical =>
      cases right with
      | zero s' =>
          rw [mul_zero]
          exact kept_nearest _ 0 (.zero (s * s'))
      | finite s' m' e' positive' canonical' =>
          have product : unit s * m * 2 ^ e * (unit s' * m' * 2 ^ e') =
              unit (s * s') * ((m * m' : Nat) * 2 ^ (e + e')) := by
            rw [unit_mul, zpow_add₀ two_ne_zero]
            push_cast
            ring
          have placed := product_placed m m' e e' positive positive' canonical canonical'
          rw [product, abs_mul, abs_unit, one_mul] at bounded
          obtain ⟨r, nearest, valued⟩ := round_nearest (s * s') (m * m') (e + e') .exact _ (.exactly _) placed bounded
          rw [product]
          exact ⟨_, nearest.signed _, valued⟩

theorem div_valued (nonzero : b ≠ 0) (bounded : |a / b| < 2 ^ 1023) :
    ∃ r, Nearest (a / b) r ∧ Valued (Float.Model.pack (UnpackedFloat.div .binary64 u v)).unpack r := by
  cases right with
  | zero => exact absurd rfl nonzero
  | finite s' m' e' positive' canonical' =>
      cases left with
      | zero s =>
          rw [zero_div]
          exact kept_nearest _ 0 (.zero (s / s'))
      | finite s m e positive canonical =>
          let place := min (e - e') (Format.binary64.targetExponent (totalExponent m e - totalExponent m' e'))
          let n := (e - e' - place).toNat
          have reached : place = e - e' - n := by omega
          have placed : 52 ≤ ((m <<< n) / m').log2 ∨ place ≤ -1074 := by
            rw [or_iff_not_imp_right]
            intro normal
            refine quotient_placed m m' n positive positive' ?_
            simp only [place, n, Format.targetExponent, totalExponent, Format.mantissaBits, Format.minExponent] at normal ⊢
            omega
          have value : unit s * m * 2 ^ e / (unit s' * m' * 2 ^ e') =
              unit (s / s') * (((m <<< n : Nat) : ℚ) / m' * 2 ^ place) := by
            have moved : ((m <<< n : Nat) : ℚ) * 2 ^ place = m * 2 ^ (e - e') := by rw [reached, shift_value]
            rw [unit_div, div_mul_eq_mul_div ((m <<< n : Nat) : ℚ), moved, zpow_sub₀ two_ne_zero]
            ring
          rw [value, abs_mul, abs_unit, one_mul] at bounded
          obtain ⟨r, nearest, valued⟩ := round_nearest (s / s') _ place _ _ (.fraction (m <<< n) m' positive') placed bounded
          rw [value]
          exact ⟨_, nearest.signed _, valued⟩

end operations

theorem neg_valued (u : UnpackedFloat) (a : ℚ) (valued : Valued u a) : Valued u.neg (-a) := by
  cases valued with
  | zero sign =>
      rw [neg_zero]
      exact .zero (-sign)
  | finite sign m e positive canonical =>
      have flipped : -(unit sign * m * 2 ^ e) = unit (-sign) * m * 2 ^ e := by
        have signs : unit (-sign) = -unit sign := by cases sign <;> simp only [unit, neg_neg]
        rw [signs]
        ring
      rw [flipped]
      exact .finite (-sign) m e positive canonical

theorem sub_as_add (u v : UnpackedFloat) : UnpackedFloat.sub .binary64 u v = UnpackedFloat.add .binary64 u v.neg := by
  have twice (s : Sign) : - -s = s := by cases s <;> rfl
  have apart (s : Sign) (n : Int) : (-s).apply n = -s.apply n := by
    cases s
    · exact (Int.neg_neg n).symm
    · rfl
  cases u <;> cases v <;> grind [UnpackedFloat.sub, UnpackedFloat.add, UnpackedFloat.neg]

end Binary
end PulseAnalyzer
