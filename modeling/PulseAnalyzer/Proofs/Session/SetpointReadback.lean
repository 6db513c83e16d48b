import PulseAnalyzer.Proofs.Number.WholeNumbers
import PulseAnalyzer.Proofs.Session.ValueWriting

set_option autoImplicit false

namespace PulseAnalyzer
open Binary

-- Results that are the same double, or the same number.
def Alike (x y : Float) : Prop := x = y ∨ (x == y) = true

theorem alike_zero (x : Float) : Alike 0.0 x ↔ (x == 0.0) = true := by
  constructor
  · rintro (rfl | same)
    · rfl
    · exact PartialEquivBEq.symm same
  · intro zero
    exact .inr (PartialEquivBEq.symm zero)

namespace Quantity

theorem validate_ok (q : Quantity) (name : String) (valid : q.validate name = .ok ()) :
    ∃ scale, value? q.scale = some scale ∧ scale ≠ 0 := by
  rw [validate] at valid
  split at valid
  · cases valid
  · split at valid
    · cases valid
    case isFalse sound =>
      rw [Bool.or_eq_true, not_or, is_zero_iff] at sound
      obtain ⟨scale, valued⟩ := finite_valued q.scale (by simpa using sound.2)
      exact ⟨scale, valued, fun zero => sound.1 (by rw [valued, zero])⟩

theorem physical_zero (q : Quantity) (scale : ℚ) (scaled : value? q.scale = some scale) (x : Float)
    (zero : value? x = some 0) : (q.physical x == 0.0) = (q.offset == 0.0) := by
  have small : |(0 : ℚ) * scale| < 2 ^ 1023 := by
    rw [zero_mul, abs_zero]
    positivity
  obtain ⟨r, product, place, nearest⟩ := value_mul x q.scale 0 scale zero scaled small
  rw [zero_mul] at nearest
  have exact : r = 0 := nearest.exact (by exact_mod_cast representable_int 0 (by decide))
  rw [exact] at product
  rw [Bool.eq_iff_iff, is_zero_iff, is_zero_iff]
  change value? (x * q.scale + q.offset) = some 0 ↔ _
  rw [value_zero_add _ q.offset product]

theorem raw_nearest (q : Quantity) (x : Float) (value offset scale : ℚ) (valued : value? x = some value)
    (shifted : value? q.offset = some offset) (scaled : value? q.scale = some scale) (stepped : scale ≠ 0)
    (bounded : |value - offset| < 2 ^ 1023) :
    ∃ difference, Nearest (value - offset) difference ∧ (|difference / scale| < 2 ^ 1023 →
      ∃ steps, Nearest (difference / scale) steps ∧ ∃ k : Int, |(k : ℚ) - steps| ≤ 1 / 2 ∧ q.raw x = clampWord64 k) := by
  obtain ⟨difference, apart, first⟩ := value_sub x q.offset value offset valued shifted bounded
  refine ⟨difference, first, fun small => ?_⟩
  obtain ⟨steps, divided, second⟩ := value_div _ q.scale difference scale apart scaled stepped small
  exact ⟨steps, second, word_near .toEven _ steps divided⟩

end Quantity

namespace Calibration
variable (c : Calibration)

theorem volts_of_zero : c.voltsOfSetpoint 0.0 = 0.0 := rfl

theorem setpoint_off (off : Float) (zero : (off == 0.0) = true) : c.setpoint off = .ok 0.0 := by
  have ranged : c.voltsInRange off = true := by rw [voltsInRange, if_pos zero]
  rw [setpoint, if_pos ranged, if_pos zero]

theorem count_zero_iff (v : Float) : (Float.ofInt (c.hv.quantity.raw v) == 0.0) = true ↔ c.hv.quantity.raw v = 0 :=
  of_int_zero_iff _ (word_range .toEven _).1 (word_range .toEven _).2

theorem validate_scale (valid : c.validate = .ok ()) : ∃ scale, value? c.hv.quantity.scale = some scale ∧ scale ≠ 0 := by
  cases checked : c.hv.quantity.validate "hv" with
  | error fault =>
      rw [validate, checked] at valid
      cases valid
  | ok done => exact c.hv.quantity.validate_ok "hv" checked

section linear
variable (linear : c.profile = .linear)
include linear

theorem linear_setpoint_iff (v s : Float) (nonzero : (v == 0.0) = false) :
    c.setpoint v = .ok s ↔ c.voltsInRange v = true ∧ s = Float.ofInt (c.hv.quantity.raw v) := by
  rw [setpoint]
  cases c.voltsInRange v with
  | false =>
      constructor
      · intro accepted
        cases accepted
      · rintro ⟨ranged, -⟩
        cases ranged
  | true =>
      rw [if_pos rfl, nonzero, linear]
      constructor
      · rintro ⟨⟩
        exact ⟨rfl, rfl⟩
      · rintro ⟨-, rfl⟩
        rfl

theorem linear_volts (s : Float) :
    c.voltsOfSetpoint s = if (s == 0.0) = true then 0.0 else c.hv.quantity.physical s := by
  rw [voltsOfSetpoint, linear]

-- A written zero hides the offset, which is what its image would be.
theorem volts_alike_iff (scale : ℚ) (scaled : value? c.hv.quantity.scale = some scale) (s : Float) :
    Alike (c.voltsOfSetpoint s) (c.hv.quantity.physical s) ↔
      ¬ (s == 0.0) = true ∨ (c.hv.quantity.offset == 0.0) = true := by
  rw [c.linear_volts linear s]
  by_cases zero : (s == 0.0) = true
  · rw [if_pos zero, alike_zero, c.hv.quantity.physical_zero scale scaled s ((is_zero_iff s).mp zero)]
    exact ⟨.inr, fun either => either.resolve_left (not_not.mpr zero)⟩
  · rw [if_neg zero]
    exact ⟨fun _ => .inl zero, fun _ => .inl rfl⟩

theorem volts_zero_iff (s : Float) :
    (c.voltsOfSetpoint s == 0.0) = true ↔ (s == 0.0) = true ∨ (c.hv.quantity.physical s == 0.0) = true := by
  rw [c.linear_volts linear s]
  by_cases zero : (s == 0.0) = true
  · rw [if_pos zero]
    exact ⟨fun _ => .inl zero, fun _ => rfl⟩
  · rw [if_neg zero]
    exact ⟨.inr, fun either => either.resolve_left zero⟩

end linear
end Calibration

theorem setpoint_read_back (c : Calibration) (valid : c.validate = .ok ()) (linear : c.profile = .linear) (v s : Float)
    (nonzero : (v == 0.0) = false) (set : c.setpoint v = .ok s) :
    let q := c.hv.quantity
    s = Float.ofInt (q.raw v) ∧
    (∀ volts offset, value? v = some volts → value? q.offset = some offset → |volts - offset| < 2 ^ 1023 →
      ∃ scale difference, value? q.scale = some scale ∧ Nearest (volts - offset) difference ∧
        (|difference / scale| < 2 ^ 1023 → ∃ steps, Nearest (difference / scale) steps ∧
          ∃ k : Int, |(k : ℚ) - steps| ≤ 1 / 2 ∧ q.raw v = clampWord64 k)) ∧
    (q.raw v ≠ 0 → c.voltsOfSetpoint s = q.physical s) ∧
    (q.raw v = 0 → c.voltsOfSetpoint s = 0.0) ∧
    (Alike (c.voltsOfSetpoint s) (q.physical s) ↔ q.raw v ≠ 0 ∨ (q.offset == 0.0) = true) ∧
    ((c.voltsOfSetpoint s == 0.0) = true ↔ q.raw v = 0 ∨ (q.physical s == 0.0) = true) ∧
    (∀ off : Float, (off == 0.0) = true → c.setpoint off = .ok 0.0 ∧ c.voltsOfSetpoint 0.0 = 0.0) ∧
    (∀ (session : Session) (b : Bench) (channel : Nat), session.calibration = c → b.Serves channel →
      ∃ d, b.run (session.setVolts channel v) = (some (.ok (c.voltsOfSetpoint s)), d) ∧
        d.api.value? channel highVoltageName = some s) := by
  intro q
  obtain ⟨scale, scaled, stepped⟩ := c.validate_scale valid
  obtain ⟨ranged, written⟩ := (c.linear_setpoint_iff linear v s nonzero).mp set
  have zero : (s == 0.0) = true ↔ q.raw v = 0 := by
    rw [written]
    exact c.count_zero_iff v
  have told := c.linear_volts linear s
  refine ⟨written, fun volts offset valued shifted bounded => ?_, fun counted => ?_, fun uncounted => ?_, ?_, ?_,
    fun off zero => ⟨c.setpoint_off off zero, c.volts_of_zero⟩, fun session b channel same serves => ?_⟩
  · obtain ⟨difference, first, second⟩ := q.raw_nearest v volts offset scale valued shifted scaled stepped bounded
    exact ⟨scale, difference, scaled, first, second⟩
  · rw [told, if_neg (mt zero.mp counted)]
  · rw [told, if_pos (zero.mpr uncounted)]
  · exact (c.volts_alike_iff linear scale scaled s).trans (or_congr_left (not_congr zero))
  · exact (c.volts_zero_iff linear s).trans (or_congr_left zero)
  · subst same
    exact session.write_value_answered b channel serves highVoltageName v s (.setpoint s rfl ranged set)

def Calibration.linearVolts (q : Quantity) : Calibration := { standard with profile := .linear, hv := ⟨q, 1.0, 1.0⟩ }

theorem hundred_volts_read_back :
    let c := Calibration.linearVolts ⟨0.0, 1500.0, 12.5, 0.25, "V"⟩
    let b := Bench.make (.make 2 0) (.simulated (.make 2))
    c.validate = .ok () ∧ c.profile = .linear ∧ ((100.0 : Float) == 0.0) = false ∧ c.setpoint 100.0 = .ok 350.0 ∧
    c.voltsOfSetpoint 350.0 = c.hv.quantity.physical 350.0 ∧ c.hv.quantity.physical 350.0 = 100.0 ∧ b.Serves 1 ∧
    ∃ d, b.run (Session.setVolts ⟨c, []⟩ 1 100.0) = (some (.ok (c.voltsOfSetpoint 350.0)), d) ∧
      d.api.value? 1 highVoltageName = some 350.0 := by
  intro c b
  have valid : (Calibration.linearVolts ⟨0.0, 1500.0, 12.5, 0.25, "V"⟩).validate = .ok () := by rfl
  have set : (Calibration.linearVolts ⟨0.0, 1500.0, 12.5, 0.25, "V"⟩).setpoint 100.0 = .ok 350.0 := by rfl
  have counted : Quantity.raw ⟨0.0, 1500.0, 12.5, 0.25, "V"⟩ 100.0 ≠ 0 := by decide +kernel
  have image : Quantity.physical ⟨0.0, 1500.0, 12.5, 0.25, "V"⟩ 350.0 = 100.0 := by decide +kernel
  have serves : b.Serves 1 := ⟨rfl, by decide⟩
  obtain ⟨-, -, apart, -, -, -, -, returned⟩ := setpoint_read_back c valid rfl 100.0 350.0 rfl set
  exact ⟨valid, rfl, rfl, set, apart counted, image, serves, returned ⟨c, []⟩ b 1 rfl serves⟩

-- Five volts are accepted and written as a count of zero, and then the supply is told to be off.
theorem offset_volts_lost :
    let c := Calibration.linearVolts ⟨1.0, 10.0, 5.0, 1.0, "V"⟩
    let b := Bench.make (.make 2 0) (.simulated (.make 2))
    c.validate = .ok () ∧ c.profile = .linear ∧ ((5.0 : Float) == 0.0) = false ∧ c.setpoint 5.0 = .ok 0.0 ∧
    c.voltsOfSetpoint 0.0 = 0.0 ∧ c.hv.quantity.physical 0.0 = 5.0 ∧ b.Serves 0 ∧
    ∃ d, b.run (Session.setVolts ⟨c, []⟩ 0 5.0) = (some (.ok 0.0), d) := by
  intro c b
  have valid : (Calibration.linearVolts ⟨1.0, 10.0, 5.0, 1.0, "V"⟩).validate = .ok () := by rfl
  have ranged : (Calibration.linearVolts ⟨1.0, 10.0, 5.0, 1.0, "V"⟩).voltsInRange 5.0 = true := by decide +kernel
  have counted : Float.ofInt (Quantity.raw ⟨1.0, 10.0, 5.0, 1.0, "V"⟩ 5.0) = 0.0 := by decide +kernel
  have image : Quantity.physical ⟨1.0, 10.0, 5.0, 1.0, "V"⟩ 0.0 = 5.0 := by decide +kernel
  have set : c.setpoint 5.0 = .ok 0.0 := (c.linear_setpoint_iff rfl 5.0 0.0 rfl).mpr ⟨ranged, counted.symm⟩
  have serves : b.Serves 0 := ⟨rfl, by decide⟩
  have told : Session.told ⟨c, []⟩ (canonicalName highVoltageName) 0.0 = 0.0 := by
    have plain : canonicalName highVoltageName = highVoltageName := by decide
    rw [Session.told, if_pos plain]
    exact c.volts_of_zero
  obtain ⟨d, ran, -⟩ := Session.write_value_answered ⟨c, []⟩ b 0 serves highVoltageName 5.0 0.0
    (.setpoint 0.0 rfl ranged set)
  rw [told] at ran
  exact ⟨valid, rfl, rfl, set, c.volts_of_zero, image, serves, d, ran⟩

end PulseAnalyzer
