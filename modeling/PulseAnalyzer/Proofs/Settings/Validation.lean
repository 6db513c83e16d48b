import PulseAnalyzer.Proofs.Number.Comparison
import PulseAnalyzer.Settings.Configuration

set_option autoImplicit false

namespace PulseAnalyzer
open Binary

theorem bind_ok_iff {ε : Type} (first rest : Except ε Unit) :
    (first >>= fun _ => rest) = .ok () ↔ first = .ok () ∧ rest = .ok () := by
  cases first with
  | ok done => exact ⟨fun rested => ⟨rfl, rested⟩, fun both => both.2⟩
  | error fault => exact ⟨nofun, fun both => nomatch both.1⟩

namespace Quantity
variable (q : Quantity)

def Scaled : Prop := q.scale.isFinite = true ∧ (q.scale == 0.0) = false

def Accepted : Prop := ¬ q.high < q.low ∧ q.Scaled

theorem validate_ok_iff (name : String) : q.validate name = .ok () ↔ q.Accepted := by
  unfold validate Accepted Scaled
  by_cases inverted : q.high < q.low
  · simp [inverted]
  · rw [if_neg inverted]
    cases q.scale == 0.0 <;> cases q.scale.isFinite <;> simp [inverted]

end Quantity

namespace Calibration
variable (c : Calibration)

def quantities : List Quantity := [c.hv.quantity, c.ledPeriod, c.ledWidth]

theorem every_quantity (P : Quantity → Prop) :
    (∀ q ∈ c.quantities, P q) ↔ P c.hv.quantity ∧ P c.ledPeriod ∧ P c.ledWidth := by
  simp [quantities]

theorem validate_ok_iff :
    c.validate = .ok () ↔ (∀ q ∈ c.quantities, q.Accepted) ∧
      (c.hv.set == 0.0) = false ∧ (c.hv.monitor == 0.0) = false := by
  unfold validate
  have factors : (if (c.hv.set == 0.0 || c.hv.monitor == 0.0) = true then .error (.configuration .zeroFactor)
      else pure () : Except Fault Unit) = .ok () ↔ (c.hv.set == 0.0) = false ∧ (c.hv.monitor == 0.0) = false := by
    cases c.hv.set == 0.0 <;> cases c.hv.monitor == 0.0 <;> simp [pure, Except.pure]
  rw [bind_ok_iff, bind_ok_iff, bind_ok_iff, factors, c.every_quantity, Quantity.validate_ok_iff,
    Quantity.validate_ok_iff, Quantity.validate_ok_iff, and_assoc, and_assoc]

end Calibration

namespace Configuration

-- What a session relies on. `ordered` is what is known of the bounds of each range.
structure Sound (c : Configuration) (ordered : Quantity → Prop) : Prop where
  level : c.logging.level ∈ ["trace", "debug", "info", "warn", "error"]
  format : c.logging.format ∈ ["pretty", "compact", "json"]
  detected : 1 ≤ c.channels
  connected : c.link.kind = .serial → 1 ≤ c.link.ports.length
  ranges : ∀ q ∈ c.calibration.quantities, ordered q
  scales : ∀ q ∈ c.calibration.quantities, q.scale.isFinite = true ∧ (q.scale == 0.0) = false
  set : (c.calibration.hv.set == 0.0) = false
  monitor : (c.calibration.hv.monitor == 0.0) = false

theorem sound_congr (c : Configuration) (P Q : Quantity → Prop) (same : ∀ q ∈ c.calibration.quantities, P q ↔ Q q) :
    c.Sound P ↔ c.Sound Q := by
  constructor
  · exact fun sound => { sound with ranges := fun q member => (same q member).mp (sound.ranges q member) }
  · exact fun sound => { sound with ranges := fun q member => (same q member).mpr (sound.ranges q member) }

theorem validate_ok_iff (c : Configuration) :
    c.validate = .ok () ↔ c.logging.level ∈ logLevels ∧ c.logging.format ∈ logFormats ∧ c.channels ≠ 0 ∧
      ¬ (c.link.kind = .serial ∧ c.link.ports = []) ∧ c.calibration.validate = .ok () := by
  unfold validate
  dsimp only
  by_cases level : c.logging.level ∈ logLevels
  · by_cases format : c.logging.format ∈ logFormats
    · by_cases detected : c.channels = 0
      · simp [level, format, detected]
      · by_cases unconnected : c.link.kind = .serial ∧ c.link.ports = []
        · simp [level, format, detected, unconnected]
        · simp [level, format, detected, unconnected]
    · simp [level, format]
  · simp [level]

theorem accepted_iff (c : Configuration) : c.validate = .ok () ↔ c.Sound fun q => ¬ q.high < q.low := by
  rw [validate_ok_iff, c.calibration.validate_ok_iff]
  constructor
  · rintro ⟨level, format, detected, connected, quantities, set, monitor⟩
    exact ⟨level, format, Nat.one_le_iff_ne_zero.mpr detected,
      fun serial => List.length_pos_iff.mpr fun unnamed => connected ⟨serial, unnamed⟩,
      fun q member => (quantities q member).1, fun q member => (quantities q member).2, set, monitor⟩
  · rintro ⟨level, format, detected, connected, ranges, scales, set, monitor⟩
    exact ⟨level, format, Nat.one_le_iff_ne_zero.mp detected,
      fun both => List.length_pos_iff.mp (connected both.1) both.2,
      fun q member => ⟨ranges q member, scales q member⟩, set, monitor⟩

theorem of_sources_validated (c : Configuration) (file : Setting) (assignments : List (String × String))
    (loaded : ofSources file assignments = .ok c) : c.validate = .ok () := by
  rw [ofSources] at loaded
  cases read : (ofSetting ((standard.toSetting.overlay file).overlay (Environment.settings assignments))).mapError
      Fault.setting with
  | error fault =>
      rw [read] at loaded
      cases loaded
  | ok found =>
      rw [read] at loaded
      change (found.validate >>= fun _ => pure found) = .ok c at loaded
      cases valid : found.validate with
      | error fault =>
          rw [valid] at loaded
          cases loaded
      | ok done =>
          rw [valid] at loaded
          cases loaded
          exact valid

theorem from_file_validated (c : Configuration) (path : String) (file : SettingsFile)
    (assignments : List (String × String)) (loaded : fromFile path file assignments = .ok c) : c.validate = .ok () := by
  rw [fromFile] at loaded
  cases settings : fileSettings path file with
  | error fault =>
      rw [settings] at loaded
      cases loaded
  | ok found =>
      rw [settings] at loaded
      exact of_sources_validated c found assignments loaded

-- Each accepted configuration is sound, but the bounds of a range are only known to be ordered when neither is NaN.
theorem accepted_when_comparable (c : Configuration) :
    (c.validate = .ok () ↔ c.Sound fun q => q.low ≤ q.high ∨ q.low.isNaN = true ∨ q.high.isNaN = true) ∧
    ((∀ q ∈ c.calibration.quantities, q.low.isNaN = false ∧ q.high.isNaN = false) →
      (c.validate = .ok () ↔ c.Sound fun q => q.low ≤ q.high)) ∧
    (c.validate = .ok () → ∀ q ∈ c.calibration.quantities, q.low ≤ q.high ↔ q.low.isNaN = false ∧ q.high.isNaN = false) ∧
    (∀ path file assignments, fromFile path file assignments = .ok c → c.validate = .ok ()) ∧
    ∀ assignments, fromEnvironment assignments = .ok c → c.validate = .ok () := by
  refine ⟨?_, fun comparable => ?_, fun valid q member => ?_, c.from_file_validated, of_sources_validated c (.group [])⟩
  · rw [accepted_iff]
    exact c.sound_congr _ _ fun q _ => not_lt_iff q.low q.high
  · rw [accepted_iff]
    refine c.sound_congr _ _ fun q member => ?_
    obtain ⟨low, high⟩ := comparable q member
    rw [not_lt_iff, low, high]
    simp
  · have upright := (c.accepted_iff.mp valid).ranges q member
    refine ⟨le_numbers q.low q.high, fun comparable => ?_⟩
    rw [not_lt_iff, comparable.1, comparable.2] at upright
    simpa using upright

theorem two_ports_accepted :
    let hv : HighVoltage := ⟨⟨100.0, 1500.0, 12.5, 0.25, "V"⟩, 250.0, 0.0457⟩
    let c : Configuration := ⟨⟨"trace", "json"⟩, 4, ⟨.serial, ["left", "right"], 9600, 0⟩, false,
      { Calibration.standard with profile := .linear, hv }⟩
    c.validate = .ok () ∧ (∀ q ∈ c.calibration.quantities, q.low.isNaN = false ∧ q.high.isNaN = false) ∧
    c.Sound fun q => q.low ≤ q.high := by
  intro hv c
  have accepted : ∀ q ∈ c.calibration.quantities, q.Accepted := by
    rw [Calibration.every_quantity]
    exact ⟨⟨by decide, by decide, by decide⟩, ⟨by decide, by decide, by decide⟩, by decide, by decide, by decide⟩
  have valid : c.validate = .ok () := c.validate_ok_iff.mpr ⟨by decide, by decide, by decide, by decide,
    c.calibration.validate_ok_iff.mpr ⟨accepted, by decide, by decide⟩⟩
  have comparable : ∀ q ∈ c.calibration.quantities, q.low.isNaN = false ∧ q.high.isNaN = false := by
    rw [Calibration.every_quantity]
    exact ⟨⟨by decide, by decide⟩, ⟨by decide, by decide⟩, by decide, by decide⟩
  exact ⟨valid, comparable, ((accepted_when_comparable c).2.1 comparable).mp valid⟩

-- The least LED period is NaN in this file.
theorem unordered_period_loaded :
    ∃ c, fromFile "udxp.toml" (.text "[calibration.led_period]\nlow = nan\n") [] = .ok c ∧
      c.validate = .ok () ∧ c.calibration.ledPeriod ∈ c.calibration.quantities ∧
      ¬ c.calibration.ledPeriod.low ≤ c.calibration.ledPeriod.high ∧
      ¬ (c.validate = .ok () ↔ c.Sound fun q => q.low ≤ q.high) := by
  have shown : ((fromFile "udxp.toml" (.text "[calibration.led_period]\nlow = nan\n") []).toOption.any
      fun c => !decide (c.calibration.ledPeriod.low ≤ c.calibration.ledPeriod.high)) = true := by decide +kernel
  cases loaded : fromFile "udxp.toml" (.text "[calibration.led_period]\nlow = nan\n") [] with
  | error fault =>
      rw [loaded] at shown
      cases shown
  | ok c =>
      rw [loaded] at shown
      have unordered : ¬ c.calibration.ledPeriod.low ≤ c.calibration.ledPeriod.high := by
        simpa [Except.toOption] using shown
      have valid := c.from_file_validated _ _ _ loaded
      have member : c.calibration.ledPeriod ∈ c.calibration.quantities := by simp [Calibration.quantities]
      exact ⟨c, rfl, valid, member, unordered, fun same => unordered ((same.mp valid).ranges _ member)⟩

end Configuration
end PulseAnalyzer
