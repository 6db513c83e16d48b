import Mathlib
import PulseAnalyzer.Number.Binary

set_option autoImplicit false

namespace PulseAnalyzer
namespace Binary
open Float.Model (Format UnpackedFloat)
open Float.Model.UnpackedFloat

def Exact.value (x : Exact) : ℚ := (if x.negative then -1 else 1) * x.significand * 2 ^ x.exponent

def value? (x : Float) : Option ℚ :=
  match view x with
  | .finite e => some e.value
  | _ => none

theorem value_of_view (x : Float) (e : Exact) (viewed : view x = .finite e) : value? x = some e.value := by
  rw [value?, viewed]

theorem viewed_of_value (x : Float) (a : ℚ) (valued : value? x = some a) : ∃ e, view x = .finite e ∧ e.value = a := by
  rw [value?] at valued
  split at valued
  case h_1 e viewed => exact ⟨e, viewed, Option.some.inj valued⟩
  case h_2 => cases valued

-- Every double has one such form: its significand fills 53 places unless the exponent is the smallest.
structure Canonical (significand : Nat) (exponent : Int) : Prop where
  fits : significand < 2 ^ 53
  above : -1074 ≤ exponent
  below : exponent ≤ 971
  full : 2 ^ 52 ≤ significand ∨ exponent = -1074

theorem view_canonical (x : Float) (e : Exact) (viewed : view x = .finite e) : Canonical e.significand e.exponent := by
  have fraction : fractionField x.toBits.toNat < 2 ^ 52 := Nat.mod_lt _ (by decide)
  have field : exponentField x.toBits.toNat < 2 ^ 11 := Nat.mod_lt _ (by decide)
  have implicit : Nat.pow 2 52 = 2 ^ 52 := rfl
  rw [view] at viewed
  split at viewed
  · split at viewed <;> cases viewed
  · split at viewed
    · cases viewed
      refine ⟨?_, ?_, ?_, .inr rfl⟩ <;> dsimp only <;> omega
    · cases viewed
      refine ⟨?_, ?_, ?_, .inl ?_⟩ <;> dsimp only <;> omega

section fields
variable (bits : BitVec 64)

theorem exponent_unpacked : (@unpackExponent .binary64 bits).toNat = exponentField bits.toNat := by
  rw [unpackExponent_def, BitVec.extractLsb'_toNat, Nat.shiftRight_eq_div_pow]
  rfl

theorem mantissa_unpacked : (@unpackMantissa .binary64 bits).toNat = fractionField bits.toNat := by
  rw [unpackMantissa_def, BitVec.extractLsb'_toNat, Nat.shiftRight_zero]
  rfl

theorem sign_unpacked :
    (Sign.ofBitVec (@unpackSign .binary64 bits) == .negative) = decide (Nat.pow 2 63 ≤ bits.toNat) := by
  have half : Nat.pow 2 63 = 2 ^ 63 := rfl
  have top : (@unpackSign .binary64 bits).toNat = bits.toNat / 2 ^ 63 := by
    have bounded := bits.isLt
    rw [unpackSign_def, BitVec.extractLsb'_toNat, Nat.shiftRight_eq_div_pow]
    change bits.toNat / 2 ^ 63 % 2 = bits.toNat / 2 ^ 63
    omega
  by_cases negative : Nat.pow 2 63 ≤ bits.toNat
  · have one : @unpackSign .binary64 bits = 1#1 := by
      refine BitVec.eq_of_toNat_eq (top.trans ?_)
      have bounded := bits.isLt
      change bits.toNat / 2 ^ 63 = 1
      omega
    rw [one, decide_eq_true negative]
    rfl
  · have zero : @unpackSign .binary64 bits = 0#1 := by
      refine BitVec.eq_of_toNat_eq (top.trans ?_)
      change bits.toNat / 2 ^ 63 = 0
      omega
    rw [zero, decide_eq_false negative]
    rfl

end fields

def View.ofUnpacked : UnpackedFloat → View
  | .notANumber => .nan
  | .infinity sign => .infinite (sign == .negative)
  | .zero sign => .finite ⟨sign == .negative, 0, -1074⟩
  | .finite sign mantissa exponent _ => .finite ⟨sign == .negative, mantissa, exponent⟩

theorem view_unpacked (x : Float) : view x = .ofUnpacked x.toModel.unpack := by
  let bits := x.toModel.toBits.toBitVec
  have exponent := exponent_unpacked bits
  have mantissa := mantissa_unpacked bits
  have sign := sign_unpacked bits
  have top : @unpackExponent .binary64 bits = -1#11 ↔ exponentField bits.toNat = 2047 := by
    rw [← BitVec.toNat_inj, exponent]
    rfl
  have bottom : @unpackExponent .binary64 bits = 0#11 ↔ exponentField bits.toNat = 0 := by
    rw [← BitVec.toNat_inj, exponent]
    rfl
  have blank : @unpackMantissa .binary64 bits = 0#52 ↔ fractionField bits.toNat = 0 := by
    rw [← BitVec.toNat_inj, mantissa]
    rfl
  have implicit : (1#1 ++ @unpackMantissa .binary64 bits).toNat = Nat.pow 2 52 + fractionField bits.toNat := by
    rw [BitVec.toNat_append, ← Nat.shiftLeft_add_eq_or_of_lt (BitVec.isLt _), mantissa]
    rfl
  have told : x.toBits.toNat = bits.toNat := rfl
  change view x = View.ofUnpacked (unpack .binary64 bits)
  unfold view unpack
  rw [told]
  dsimp only
  by_cases special : exponentField bits.toNat = 2047
  · rw [if_pos special, if_pos (top.mpr special)]
    by_cases infinite : fractionField bits.toNat = 0
    · rw [if_pos infinite, if_pos (blank.mpr infinite), View.ofUnpacked, sign]
    · rw [if_neg infinite, if_neg (mt blank.mp infinite)]
      rfl
  · rw [if_neg special, if_neg (mt top.mp special)]
    by_cases small : exponentField bits.toNat = 0
    · rw [if_pos small, if_pos (bottom.mpr small)]
      by_cases zero : fractionField bits.toNat = 0
      · rw [dif_pos (blank.mpr zero), View.ofUnpacked, sign, zero]
      · rw [dif_neg (mt blank.mp zero), View.ofUnpacked, sign, mantissa, exponent, small]
        rfl
    · rw [if_neg small, if_neg (mt bottom.mp small), View.ofUnpacked, sign, implicit, exponent]
      rfl

def unit : Sign → ℚ
  | .positive => 1
  | .negative => -1

inductive Valued : UnpackedFloat → ℚ → Prop where
  | zero (sign : Sign) : Valued (.zero sign) 0
  | finite (sign : Sign) (significand : Nat) (exponent : Int) (positive : 0 < significand)
      (canonical : Canonical significand exponent) :
      Valued (.finite sign significand exponent positive) (unit sign * significand * 2 ^ exponent)

theorem unit_of_sign (sign : Sign) : (if (sign == .negative) = true then -1 else 1) = unit sign := by
  cases sign <;> rfl

theorem value_iff (x : Float) (a : ℚ) : value? x = some a ↔ Valued x.toModel.unpack a := by
  have viewed := view_unpacked x
  have canonical := view_canonical x
  rw [value?]
  generalize x.toModel.unpack = u at viewed
  rw [viewed] at canonical ⊢
  cases u with
  | notANumber => exact ⟨nofun, nofun⟩
  | infinity => exact ⟨nofun, nofun⟩
  | zero sign =>
      have nothing : (Exact.mk (sign == .negative) 0 (-1074)).value = 0 := by
        simp only [Exact.value, Nat.cast_zero, mul_zero, zero_mul]
      change some (Exact.mk (sign == .negative) 0 (-1074)).value = some a ↔ _
      rw [nothing]
      constructor
      · rintro ⟨⟩
        exact .zero sign
      · rintro ⟨⟩
        rfl
  | finite sign significand exponent positive =>
      have same : (Exact.mk (sign == .negative) significand exponent).value = unit sign * significand * 2 ^ exponent := by
        rw [Exact.value, unit_of_sign]
      change some (Exact.mk (sign == .negative) significand exponent).value = some a ↔ _
      rw [same]
      constructor
      · rintro ⟨⟩
        exact .finite sign significand exponent positive (canonical _ rfl)
      · rintro ⟨⟩
        rfl

theorem finite_valued (x : Float) (finite : x.isFinite = true) : ∃ a, value? x = some a := by
  have viewed := view_unpacked x
  change x.toModel.unpack.isFinite = true at finite
  generalize x.toModel.unpack = u at viewed finite
  cases u with
  | notANumber => cases finite
  | infinity => cases finite
  | zero sign => exact ⟨_, value_of_view x _ viewed⟩
  | finite sign => exact ⟨_, value_of_view x _ viewed⟩

theorem unpack_normal (sign : Sign) (field : BitVec 11) (fraction : BitVec 52) (mantissa : Nat) (exponent : Int)
    (positive : 0 < mantissa) (top : field ≠ 2047#11) (bottom : field ≠ 0#11)
    (implicit : 2 ^ 52 + fraction.toNat = mantissa) (place : (field.toNat : Int) - 1075 = exponent) :
    unpack .binary64 (packComponents .binary64 sign field fraction) = .finite sign mantissa exponent positive := by
  subst implicit place
  have whole : (1#1 ++ fraction).toNat = 2 ^ 52 + fraction.toNat := by
    rw [BitVec.toNat_append, ← Nat.shiftLeft_add_eq_or_of_lt fraction.isLt]
    rfl
  simp [unpack, top, bottom, whole]
  rfl

theorem unpack_subnormal (sign : Sign) (fraction : BitVec 52) (positive : 0 < fraction.toNat) :
    unpack .binary64 (packComponents .binary64 sign 0#11 fraction) = .finite sign fraction.toNat (-1074) positive := by
  have nonzero : fraction ≠ 0#52 := by
    rintro rfl
    exact absurd positive (by decide)
  simp [unpack, nonzero]
  rfl

theorem unpack_pack (sign : Sign) (mantissa : Nat) (exponent : Int) (positive : 0 < mantissa)
    (canonical : Canonical mantissa exponent) :
    (Float.Model.pack (.finite sign mantissa exponent positive)).unpack = .finite sign mantissa exponent positive := by
  obtain ⟨fits, above, below, full⟩ := canonical
  have within : ¬ 2 ^ 11 ≤ (exponent + 1023 + 52).toNat + 1 := by omega
  change unpack .binary64 (if 2 ^ 11 ≤ (exponent + 1023 + 52).toNat + 1 then _ else
    if mantissa.log2 + 1 = 53 then _ else _) = _
  rw [if_neg within]
  by_cases normal : 2 ^ 52 ≤ mantissa
  · have leading : mantissa.log2 + 1 = 53 := by rw [(Nat.log2_eq_iff (by omega)).mpr ⟨normal, fits⟩]
    have field : (BitVec.ofNat 11 (exponent + 1023 + 52).toNat).toNat = (exponent + 1023 + 52).toNat := by
      rw [BitVec.toNat_ofNat]
      omega
    rw [if_pos leading]
    refine unpack_normal sign _ _ mantissa exponent positive (fun same => ?_) (fun same => ?_) ?_ ?_
    · have top : 2047 = (exponent + 1023 + 52).toNat := (congrArg BitVec.toNat same).symm.trans field
      omega
    · have bottom : 0 = (exponent + 1023 + 52).toNat := (congrArg BitVec.toNat same).symm.trans field
      omega
    · change 2 ^ 52 + mantissa % 2 ^ 52 = mantissa
      omega
    · change ((BitVec.ofNat 11 (exponent + 1023 + 52).toNat).toNat : Int) - 1075 = exponent
      omega
  · have small : mantissa < 2 ^ 52 := Nat.lt_of_not_le normal
    have leading : ¬ mantissa.log2 + 1 = 53 := by
      have short := (Nat.log2_lt positive.ne').mpr small
      omega
    obtain rfl : exponent = -1074 := full.resolve_left normal
    have fraction : (BitVec.ofNat 52 mantissa).toNat = mantissa := by rw [BitVec.toNat_ofNat, Nat.mod_eq_of_lt small]
    rw [if_neg leading]
    exact (unpack_subnormal sign (BitVec.ofNat 52 mantissa) (by omega)).trans (by simp only [fraction])

theorem pack_valued (u : UnpackedFloat) (a : ℚ) (valued : Valued u a) : (Float.Model.pack u).unpack = u := by
  cases valued with
  | zero sign => exact unpack_packedZero
  | finite sign significand exponent positive canonical => exact unpack_pack sign significand exponent positive canonical

theorem valued_zero (u : UnpackedFloat) (a : ℚ) (valued : Valued u a) (zero : a = 0) : ∃ sign, u = .zero sign := by
  cases valued with
  | zero sign => exact ⟨sign, rfl⟩
  | finite sign significand exponent positive =>
      have nonzero : (significand : ℚ) ≠ 0 := by exact_mod_cast positive.ne'
      have signed : unit sign ≠ 0 := by cases sign <;> decide
      exact absurd zero (mul_ne_zero (mul_ne_zero signed nonzero) (zpow_ne_zero _ two_ne_zero))

theorem is_zero_iff (x : Float) : (x == 0.0) = true ↔ value? x = some 0 := by
  have zero : (0.0 : Float).toModel.unpack = .zero .positive := rfl
  rw [value_iff]
  change x.toModel.unpack.beq (0.0 : Float).toModel.unpack = true ↔ _
  rw [zero]
  generalize x.toModel.unpack = u
  constructor
  · intro same
    cases u with
    | notANumber => cases same
    | infinity sign => cases sign <;> cases same
    | zero sign => exact .zero sign
    | finite sign => cases sign <;> cases same
  · intro valued
    obtain ⟨sign, rfl⟩ := valued_zero u 0 valued rfl
    rfl

end Binary
end PulseAnalyzer
