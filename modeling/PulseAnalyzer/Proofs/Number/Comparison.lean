import PulseAnalyzer.Proofs.Number.DoubleValue

set_option autoImplicit false

namespace PulseAnalyzer
namespace Binary
open Float.Model (UnpackedFloat)
open Float.Model.UnpackedFloat

abbrev Extended := WithBot (WithTop ℚ)

def number? (x : Float) : Option Extended :=
  match view x with
  | .finite e => some ((e.value : WithTop ℚ) : Extended)
  | .infinite negative => some (if negative then ⊥ else ((⊤ : WithTop ℚ) : Extended))
  | .nan => none

inductive Ranked : UnpackedFloat → Extended → Prop where
  | finite (u : UnpackedFloat) (a : ℚ) (valued : Valued u a) : Ranked u ((a : WithTop ℚ) : Extended)
  | above : Ranked (.infinity .positive) ((⊤ : WithTop ℚ) : Extended)
  | below : Ranked (.infinity .negative) ⊥

theorem number_finite (x : Float) (a : ℚ) (valued : value? x = some a) :
    number? x = some ((a : WithTop ℚ) : Extended) := by
  obtain ⟨e, viewed, rfl⟩ := viewed_of_value x a valued
  rw [number?, viewed]

theorem number_ranked (x : Float) (a : Extended) (numbered : number? x = some a) : Ranked x.toModel.unpack a := by
  have viewed := view_unpacked x
  have valued := value_iff x
  rw [number?] at numbered
  split at numbered
  case h_1 e same =>
    cases numbered
    exact .finite _ e.value ((valued e.value).mp (value_of_view x e same))
  case h_2 negative same =>
    rw [same] at viewed
    generalize x.toModel.unpack = u at viewed
    cases u with
    | infinity sign =>
        cases viewed
        cases sign with
        | positive =>
            cases numbered
            exact .above
        | negative =>
            cases numbered
            exact .below
    | _ => cases viewed
  case h_3 => cases numbered

theorem finite_of_valued (x : Float) (a : ℚ) (valued : value? x = some a) : x.isFinite = true := by
  have form := (value_iff x a).mp valued
  change x.toModel.unpack.isFinite = true
  generalize x.toModel.unpack = u at form
  cases form with
  | zero sign => rfl
  | finite sign => rfl

theorem number_none_iff (x : Float) : number? x = none ↔ x.isNaN = true := by
  have viewed := view_unpacked x
  change _ ↔ x.toModel.unpack.isNaN = true
  rw [number?]
  generalize x.toModel.unpack = u at viewed
  rw [viewed]
  cases u with
  | notANumber => exact ⟨fun _ => rfl, fun _ => rfl⟩
  | _ => exact ⟨nofun, nofun⟩

-- A form with the larger exponent has the larger size, as its significand is full.
theorem size_lt (m n : Nat) (e f : Int) (small : Canonical m e) (large : Canonical n f) (below : e < f) :
    (m : ℚ) * 2 ^ e < n * 2 ^ f := by
  have full : 2 ^ 52 ≤ n := large.full.resolve_right (by have := small.above; omega)
  have fits : (m : ℚ) < 2 ^ 53 := by exact_mod_cast small.fits
  calc (m : ℚ) * 2 ^ e < 2 ^ 53 * 2 ^ e := by gcongr
    _ = 2 ^ 52 * 2 ^ (e + 1) := by rw [zpow_add_one₀ two_ne_zero]; ring
    _ ≤ 2 ^ 52 * 2 ^ f := by gcongr; exacts [one_le_two, below]
    _ ≤ n * 2 ^ f := by gcongr; exact_mod_cast full

theorem size_compare (m n : Nat) (e f : Int) (left : Canonical m e) (right : Canonical n f) :
    (compare e f).then (compare m n) = compare ((m : ℚ) * 2 ^ e) (n * 2 ^ f) := by
  rcases lt_trichotomy e f with below | rfl | above
  · rw [compare_lt_iff_lt.mpr below, compare_lt_iff_lt.mpr (size_lt m n e f left right below)]
    rfl
  · have unit : (0 : ℚ) < 2 ^ e := zpow_pos two_pos e
    rw [compare_eq_iff_eq.mpr rfl]
    rcases lt_trichotomy m n with less | rfl | more
    · rw [compare_lt_iff_lt.mpr less, compare_lt_iff_lt.mpr (by gcongr)]
      rfl
    · rw [compare_eq_iff_eq.mpr rfl, compare_eq_iff_eq.mpr rfl]
      rfl
    · rw [compare_gt_iff_gt.mpr more, compare_gt_iff_gt.mpr (by gcongr)]
      rfl
  · rw [compare_gt_iff_gt.mpr above, compare_gt_iff_gt.mpr (size_lt n m f e right left above)]
    rfl

theorem compare_opposite (a b : ℚ) : compare (-a) (-b) = compare b a := by
  rcases lt_trichotomy a b with less | rfl | more
  · rw [compare_gt_iff_gt.mpr (neg_lt_neg less), compare_gt_iff_gt.mpr less]
  · rw [compare_eq_iff_eq.mpr rfl, compare_eq_iff_eq.mpr rfl]
  · rw [compare_lt_iff_lt.mpr (neg_lt_neg more), compare_lt_iff_lt.mpr more]

theorem compare_valued (u v : UnpackedFloat) (a b : ℚ) (left : Valued u a) (right : Valued v b) :
    u.compare v = some (compare a b) := by
  cases left with
  | zero sign =>
      cases right with
      | zero other => rw [compare_eq_iff_eq.mpr rfl]; rfl
      | finite other n f positive =>
          have size : (0 : ℚ) < n * 2 ^ f := by positivity
          cases other with
          | positive => rw [compare_lt_iff_lt.mpr (by simpa [unit] using size)]; rfl
          | negative => rw [compare_gt_iff_gt.mpr (by simpa [unit] using size)]; rfl
  | finite sign m e positive canonical =>
      have size : (0 : ℚ) < m * 2 ^ e := by positivity
      cases right with
      | zero other =>
          cases sign with
          | positive => rw [compare_gt_iff_gt.mpr (by simpa [unit] using size)]; rfl
          | negative => rw [compare_lt_iff_lt.mpr (by simpa [unit] using size)]; rfl
      | finite other n f more fits =>
          have bulk : (0 : ℚ) < n * 2 ^ f := by positivity
          cases sign <;> cases other
          case positive.positive =>
            rw [unit, one_mul, one_mul, ← size_compare m n e f canonical fits]
            rfl
          case positive.negative =>
            rw [compare_gt_iff_gt.mpr]
            · rfl
            · simp only [unit, one_mul, neg_mul]
              linarith
          case negative.positive =>
            rw [compare_lt_iff_lt.mpr]
            · rfl
            · simp only [unit, one_mul, neg_mul]
              linarith
          case negative.negative =>
            rw [unit, neg_one_mul, neg_one_mul, neg_mul, neg_mul, compare_opposite,
              (Std.OrientedCmp.eq_swap : compare ((n : ℚ) * 2 ^ f) (m * 2 ^ e) = _), ← size_compare m n e f canonical fits]
            rfl

theorem compare_cast (a b : ℚ) : compare ((a : WithTop ℚ) : Extended) ((b : WithTop ℚ) : Extended) = compare a b := by
  rcases lt_trichotomy a b with less | rfl | more
  · rw [compare_lt_iff_lt.mpr less, compare_lt_iff_lt.mpr (by exact_mod_cast less)]
  · rw [compare_eq_iff_eq.mpr rfl, compare_eq_iff_eq.mpr rfl]
  · rw [compare_gt_iff_gt.mpr more, compare_gt_iff_gt.mpr (by exact_mod_cast more)]

theorem compare_ranked (u v : UnpackedFloat) (a b : Extended) (left : Ranked u a) (right : Ranked v b) :
    u.compare v = some (compare a b) := by
  cases left with
  | finite _ a valued =>
      cases right with
      | finite _ b other => rw [compare_valued u v a b valued other, compare_cast]
      | above =>
          rw [compare_lt_iff_lt.mpr (by exact_mod_cast WithTop.coe_lt_top a)]
          cases valued with
          | zero sign => rfl
          | finite sign => cases sign <;> rfl
      | below =>
          rw [compare_gt_iff_gt.mpr (WithBot.bot_lt_coe _)]
          cases valued with
          | zero sign => rfl
          | finite sign => cases sign <;> rfl
  | above =>
      cases right with
      | finite _ b other =>
          rw [compare_gt_iff_gt.mpr (by exact_mod_cast WithTop.coe_lt_top b)]
          cases other <;> rfl
      | above => rw [compare_eq_iff_eq.mpr rfl]; rfl
      | below => rw [compare_gt_iff_gt.mpr (WithBot.bot_lt_coe _)]; rfl
  | below =>
      cases right with
      | finite _ b other =>
          rw [compare_lt_iff_lt.mpr (WithBot.bot_lt_coe _)]
          cases other <;> rfl
      | above => rw [compare_lt_iff_lt.mpr (WithBot.bot_lt_coe _)]; rfl
      | below => rw [compare_eq_iff_eq.mpr rfl]; rfl

theorem compare_nan_left (u v : UnpackedFloat) (nan : u.isNaN = true) : u.compare v = none := by
  cases u with
  | notANumber => rfl
  | _ => cases nan

theorem compare_nan_right (u v : UnpackedFloat) (nan : v.isNaN = true) : u.compare v = none := by
  cases v with
  | notANumber => cases u <;> rfl
  | _ => cases nan

section doubles
variable (x y : Float)

theorem compare_numbers : x.toModel.unpack.compare y.toModel.unpack =
    (number? x).bind fun a => (number? y).map fun b => compare a b := by
  cases left : number? x with
  | none => exact compare_nan_left _ _ ((number_none_iff x).mp left)
  | some a =>
      cases right : number? y with
      | none => exact compare_nan_right _ _ ((number_none_iff y).mp right)
      | some b => exact compare_ranked _ _ a b (number_ranked x a left) (number_ranked y b right)

theorem lt_iff : x < y ↔ ∃ a b, number? x = some a ∧ number? y = some b ∧ a < b := by
  change decide (x.toModel < y.toModel) = true ↔ _
  rw [decide_eq_true_iff]
  change (x.toModel.unpack.compare y.toModel.unpack == some Ordering.lt) = true ↔ _
  rw [compare_numbers]
  cases number? x <;> cases number? y <;> simp [compare_lt_iff_lt]

theorem le_iff : x ≤ y ↔ ∃ a b, number? x = some a ∧ number? y = some b ∧ a ≤ b := by
  change decide (x.toModel ≤ y.toModel) = true ↔ _
  rw [decide_eq_true_iff]
  change Option.any (fun o => o.isLE) (x.toModel.unpack.compare y.toModel.unpack) = true ↔ _
  rw [compare_numbers]
  cases number? x <;> cases number? y <;> simp [← compare_le_iff_le, Ordering.isLE_iff_ne_gt]

theorem lt_iff_values (a b : ℚ) (left : value? x = some a) (right : value? y = some b) : x < y ↔ a < b := by
  rw [lt_iff, number_finite x a left, number_finite y b right]
  constructor
  · rintro ⟨_, _, ⟨⟩, ⟨⟩, less⟩
    exact_mod_cast less
  · exact fun less => ⟨_, _, rfl, rfl, by exact_mod_cast less⟩

theorem not_lt_iff : ¬ y < x ↔ x ≤ y ∨ x.isNaN = true ∨ y.isNaN = true := by
  rw [lt_iff, le_iff, ← number_none_iff, ← number_none_iff]
  cases number? x <;> cases number? y <;> simp

theorem le_numbers (below : x ≤ y) : x.isNaN = false ∧ y.isNaN = false := by
  obtain ⟨a, b, left, right, -⟩ := (le_iff x y).mp below
  have left : number? x ≠ none := by simp [left]
  have right : number? y ≠ none := by simp [right]
  rw [Ne, number_none_iff, Bool.not_eq_true] at left right
  exact ⟨left, right⟩

end doubles

end Binary
end PulseAnalyzer
