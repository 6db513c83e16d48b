import PulseAnalyzer.Proofs.Number.UnpackedArithmetic

set_option autoImplicit false

namespace PulseAnalyzer
namespace Binary
open Float.Model (Format UnpackedFloat totalExponent)
open Float.Model.UnpackedFloat

section doubles
variable (x y : Float) (a b : ℚ) (left : value? x = some a) (right : value? y = some b)
include left right

theorem value_add (bounded : |a + b| < 2 ^ 1023) : ∃ r, value? (x + y) = some r ∧ Nearest (a + b) r := by
  obtain ⟨r, nearest, valued⟩ := add_valued _ _ a b ((value_iff x a).mp left) ((value_iff y b).mp right) bounded
  exact ⟨r, (value_iff _ r).mpr valued, nearest⟩

theorem value_sub (bounded : |a - b| < 2 ^ 1023) : ∃ r, value? (x - y) = some r ∧ Nearest (a - b) r := by
  have negated := neg_valued _ b ((value_iff y b).mp right)
  rw [sub_eq_add_neg] at bounded ⊢
  obtain ⟨r, nearest, valued⟩ := add_valued _ _ a (-b) ((value_iff x a).mp left) negated bounded
  rw [← sub_as_add] at valued
  exact ⟨r, (value_iff _ r).mpr valued, nearest⟩

theorem value_mul (bounded : |a * b| < 2 ^ 1023) : ∃ r, value? (x * y) = some r ∧ Nearest (a * b) r := by
  obtain ⟨r, nearest, valued⟩ := mul_valued _ _ a b ((value_iff x a).mp left) ((value_iff y b).mp right) bounded
  exact ⟨r, (value_iff _ r).mpr valued, nearest⟩

theorem value_div (nonzero : b ≠ 0) (bounded : |a / b| < 2 ^ 1023) :
    ∃ r, value? (x / y) = some r ∧ Nearest (a / b) r := by
  obtain ⟨r, nearest, valued⟩ := div_valued _ _ a b ((value_iff x a).mp left) ((value_iff y b).mp right) nonzero bounded
  exact ⟨r, (value_iff _ r).mpr valued, nearest⟩

end doubles

theorem value_neg (x : Float) (a : ℚ) (valued : value? x = some a) : value? (-x) = some (-a) := by
  have negated := neg_valued _ a ((value_iff x a).mp valued)
  refine (value_iff _ _).mpr ?_
  change Valued (Float.Model.pack x.toModel.unpack.neg).unpack (-a)
  rwa [pack_valued _ _ negated]

theorem value_zero_add (x y : Float) (zero : value? x = some 0) : value? (x + y) = value? y := by
  obtain ⟨sign, unpacked⟩ := valued_zero _ 0 ((value_iff x 0).mp zero) rfl
  have sum : (x + y).toModel.unpack =
      (Float.Model.pack (UnpackedFloat.add .binary64 (.zero sign) y.toModel.unpack)).unpack := by
    rw [← unpacked]
    rfl
  cases finite : value? y with
  | some b =>
      have valued := (value_iff y b).mp finite
      refine (value_iff _ b).mpr ?_
      rw [sum]
      generalize y.toModel.unpack = v at valued
      cases valued with
      | zero sign' => cases sign <;> cases sign' <;> exact (pack_valued _ 0 (.zero _)).symm ▸ .zero _
      | finite sign' m e positive canonical =>
          have valued := Valued.finite sign' m e positive canonical
          exact (pack_valued _ _ valued).symm ▸ valued
  | none =>
      rw [value?, view_unpacked] at finite ⊢
      rw [sum]
      generalize y.toModel.unpack = v at finite
      cases v with
      | notANumber => cases sign <;> rfl
      | infinity sign' => cases sign <;> cases sign' <;> rfl
      | zero sign' => cases finite
      | finite sign' => cases finite

theorem small_bounded (n : Nat) (fits : n < 2 ^ 53) : |(n : ℚ)| < 2 ^ 1023 := by
  calc |(n : ℚ)| = n := Nat.abs_cast n
    _ < 2 ^ 53 := by exact_mod_cast fits
    _ ≤ 2 ^ 1023 := pow_le_pow_right₀ one_le_two (by decide)

theorem whole_valued (n : Nat) (fits : n < 2 ^ 53) :
    Valued (Float.Model.pack (UnpackedFloat.normalize .binary64 n 0 .positive)).unpack n := by
  have value : ((n : Int) : ℚ) * 2 ^ (0 : Int) = n := by rw [zpow_zero, mul_one, Int.cast_natCast]
  have bounded := small_bounded n fits
  rw [← value] at bounded
  obtain ⟨r, ⟨place, nearest⟩, valued⟩ := normalize_nearest n 0 .positive bounded
  rw [value] at nearest
  rwa [nearest.exact (representable_nat n fits)] at valued

theorem value_word (w : UInt16) : value? w.toFloat = some (w.toNat : ℚ) :=
  (value_iff _ _).mpr (whole_valued w.toNat (w.toNat_lt.trans (by decide)))

theorem value_of_small (n : Nat) (fits : n < 2 ^ 53) : value? (Float.ofNat n) = some (n : ℚ) := by
  have one : value? (Float.ofBits 4607182418800017408) = some 1 := by
    rw [value_of_view _ ⟨false, 2 ^ 52, -52⟩ (by rfl), Exact.value]
    norm_num
  have whole : value? n.toUInt64.toFloat = some (n : ℚ) := by
    have same : n.toUInt64.toNat = n := Nat.mod_eq_of_lt (fits.trans (by decide))
    have valued := (value_iff n.toUInt64.toFloat _).mpr (whole_valued n.toUInt64.toNat (by rwa [same]))
    rwa [same] at valued
  have bounded := small_bounded n fits
  rw [← mul_one (n : ℚ)] at bounded
  obtain ⟨r, valued, place, nearest⟩ := value_mul _ _ (n : ℚ) 1 whole one bounded
  rw [mul_one] at nearest
  rw [nearest.exact (representable_nat n fits)] at valued
  change value? (Float.ofScientific n false 0) = some (n : ℚ)
  unfold Float.ofScientific
  rw [dif_pos ⟨fits, by decide⟩]
  exact valued

-- A number of more places is multiplied by one in a form with as many places again.
theorem scientific_unpacked (n : Nat) (nonzero : n ≠ 0) :
    UnpackedFloat.ofScientific .binary64 n 0 =
      roundWithAccuracy .binary64 .positive (n <<< 53 * 1) (-53 + 0) .exact := by
  have range : (0 : Int) ≤ 2 ^ Format.binary64.exponentBits := by decide
  unfold UnpackedFloat.ofScientific
  rw [dif_neg nonzero, if_neg (not_lt.mpr range), if_neg (by omega), if_pos (le_refl 0)]
  rfl

theorem value_of_large (n : Nat) (large : 2 ^ 53 ≤ n) (bounded : |(n : ℚ)| < 2 ^ 1023) :
    ∃ r, value? (Float.ofNat n) = some r ∧ Nearest n r := by
  have nonzero : n ≠ 0 := by omega
  have shifted : ((n <<< 53 * 1 : Nat) : ℚ) * 2 ^ (-53 + 0 : Int) = n := by
    have moved := shift_value n 53 0
    rw [zpow_zero, mul_one] at moved
    rw [mul_one]
    exact moved
  have placed : 52 ≤ (n <<< 53 * 1).log2 := by
    rw [mul_one, log2_shift n 53 nonzero]
    omega
  obtain ⟨r, nearest, valued⟩ := round_nearest .positive (n <<< 53 * 1) (-53 + 0) .exact _ (.exactly _) (.inl placed)
    (by rwa [shifted])
  rw [shifted] at nearest
  rw [← scientific_unpacked n nonzero, unit, one_mul] at valued
  refine ⟨r, ?_, nearest⟩
  change value? (Float.ofScientific n false 0) = some r
  unfold Float.ofScientific
  rw [dif_neg (fun fits => absurd fits.1 (Nat.not_lt.mpr large))]
  exact (value_iff _ r).mpr valued

theorem value_of_nat (n : Nat) (bounded : |(n : ℚ)| < 2 ^ 1023) :
    ∃ r, value? (Float.ofNat n) = some r ∧ Nearest n r := by
  rcases Nat.lt_or_ge n (2 ^ 53) with small | large
  · have valued := value_of_small n small
    exact ⟨n, valued, valued_nearest _ _ ((value_iff _ _).mp valued)⟩
  · exact value_of_large n large bounded

theorem value_of_int (n : Int) (bounded : |(n : ℚ)| < 2 ^ 1023) :
    ∃ r, value? (Float.ofInt n) = some r ∧ Nearest n r := by
  cases n with
  | ofNat n => exact value_of_nat n bounded
  | negSucc n =>
      rw [Int.cast_negSucc, abs_neg] at bounded
      obtain ⟨r, valued, nearest⟩ := value_of_nat n.succ bounded
      refine ⟨-r, value_neg _ r valued, ?_⟩
      rw [Int.cast_negSucc]
      exact nearest.neg

-- A bound on values that neither overflow nor lose places to the smallest exponent.
structure Ordinary (bound : ℚ) : Prop where
  least : 1 / 2 ^ 1022 ≤ bound
  most : bound < 2 ^ 1023

theorem Nearest.close {t r bound : ℚ} (nearest : Nearest t r) (ordinary : Ordinary bound) (size : |t| ≤ bound) :
    |r - t| ≤ bound / 2 ^ 52 := by
  obtain ⟨place, nearest⟩ := nearest
  have tiny : (1 : ℚ) / 2 ^ 1075 = 1 / 2 ^ 1022 / 2 ^ 53 := by
    rw [div_div, ← pow_add]
  calc |r - t| ≤ |t| / 2 ^ 53 + 1 / 2 ^ 1075 := nearest.error
    _ = |t| / 2 ^ 53 + 1 / 2 ^ 1022 / 2 ^ 53 := by rw [tiny]
    _ ≤ bound / 2 ^ 53 + bound / 2 ^ 53 := by gcongr; exact ordinary.least
    _ = bound / 2 ^ 52 := by ring

section operations
variable (x y : Float) (a b bound : ℚ) (left : value? x = some a) (right : value? y = some b)
variable (ordinary : Ordinary bound)
include left right ordinary

theorem add_close (size : |a + b| ≤ bound) : ∃ r, value? (x + y) = some r ∧ |r - (a + b)| ≤ bound / 2 ^ 52 := by
  obtain ⟨r, valued, nearest⟩ := value_add x y a b left right (size.trans_lt ordinary.most)
  exact ⟨r, valued, nearest.close ordinary size⟩

theorem sub_close (size : |a - b| ≤ bound) : ∃ r, value? (x - y) = some r ∧ |r - (a - b)| ≤ bound / 2 ^ 52 := by
  obtain ⟨r, valued, nearest⟩ := value_sub x y a b left right (size.trans_lt ordinary.most)
  exact ⟨r, valued, nearest.close ordinary size⟩

theorem mul_close (size : |a * b| ≤ bound) : ∃ r, value? (x * y) = some r ∧ |r - a * b| ≤ bound / 2 ^ 52 := by
  obtain ⟨r, valued, nearest⟩ := value_mul x y a b left right (size.trans_lt ordinary.most)
  exact ⟨r, valued, nearest.close ordinary size⟩

theorem div_close (nonzero : b ≠ 0) (size : |a / b| ≤ bound) :
    ∃ r, value? (x / y) = some r ∧ |r - a / b| ≤ bound / 2 ^ 52 := by
  obtain ⟨r, valued, nearest⟩ := value_div x y a b left right nonzero (size.trans_lt ordinary.most)
  exact ⟨r, valued, nearest.close ordinary size⟩

end operations

end Binary
end PulseAnalyzer
