import PulseAnalyzer.Proofs.Number.Comparison
import PulseAnalyzer.Proofs.Number.WholeNumbers
import PulseAnalyzer.Proofs.Run.FirstFault

set_option autoImplicit false

namespace PulseAnalyzer
open Binary

-- A field that each step sets to what it was given, if anything, shows the last that was given.
theorem latest_given {σ α β : Type} (step : σ → α → σ) (field : σ → β) (given : α → Option β)
    (one : ∀ s a, field (step s a) = (given a).getD (field s)) (s : σ) (as : List α) :
    field (as.foldl step s) = (as.filterMap given).getLast?.getD (field s) := by
  induction as generalizing s with
  | nil => rfl
  | cons a rest ih =>
      rw [List.foldl_cons, ih, one, List.filterMap_cons]
      cases given a with
      | none => rfl
      | some value => rw [List.getLast?_cons, Option.getD_some, Option.getD_some]

theorem check_period_ok_iff (what : String) (period least : Duration) (positive : 0 < least.nanos) :
    checkPeriod what period least = .ok () ↔ least.nanos ≤ period.nanos ∧ period.nanos ≤ maxPeriod.nanos := by
  unfold checkPeriod
  by_cases outside : period.nanos < least.nanos ∨ maxPeriod.nanos < period.nanos ∨ period.nanos = 0
  · rw [if_pos outside]
    exact ⟨nofun, fun within => by omega⟩
  · rw [if_neg outside]
    exact ⟨fun _ => by omega, fun _ => rfl⟩

namespace Duration

theorem unsigned_value (e : Exact) (upright : ¬ (e.negative = true ∧ e.significand ≠ 0)) :
    e.value = e.significand * 2 ^ e.exponent := by
  rw [signed_value]
  cases sign : e.negative with
  | false => simp
  | true =>
      have zero : e.significand = 0 := by
        by_contra nonzero
        exact upright ⟨sign, nonzero⟩
      simp [zero]

theorem nanos_near (e : Exact) (upright : ¬ (e.negative = true ∧ e.significand ≠ 0)) :
    |(Exact.roundAbs .toEven ⟨false, e.significand * 1000000000, e.exponent⟩ : ℚ) - e.value * 10 ^ 9| ≤ 1 / 2 := by
  have near := round_abs_near .toEven ⟨false, e.significand * 1000000000, e.exponent⟩
  have scaled : e.value * 10 ^ 9 = (e.significand * 1000000000 : Nat) * 2 ^ e.exponent := by
    rw [unsigned_value e upright]
    push_cast
    ring
  rwa [scaled]

-- Seconds that are converted are a number and not negative, and half a nanosecond away from the duration at most.
theorem of_seconds_near (secs : Float) (d : Duration) (converted : ofSeconds? secs = some d) :
    ∃ a : ℚ, value? secs = some a ∧ 0 ≤ a ∧ |(d.nanos : ℚ) - a * 10 ^ 9| ≤ 1 / 2 := by
  rw [ofSeconds?] at converted
  split at converted
  case h_1 e viewed =>
    split at converted
    case isTrue => cases converted
    case isFalse upright =>
      dsimp only at converted
      split at converted
      case isTrue =>
        cases converted
        have positive : 0 ≤ e.value := by
          rw [unsigned_value e upright]
          positivity
        exact ⟨e.value, value_of_view secs e viewed, positive, nanos_near e upright⟩
      case isFalse => cases converted
  case h_2 => cases converted

theorem of_seconds_some (secs : Float) (a : ℚ) (valued : value? secs = some a) (positive : 0 ≤ a)
    (short : a + 1 ≤ 2 ^ 64) : ∃ d, ofSeconds? secs = some d := by
  obtain ⟨e, viewed, rfl⟩ := viewed_of_value secs a valued
  have upright : ¬ (e.negative = true ∧ e.significand ≠ 0) := by
    rintro ⟨sign, nonzero⟩
    have size : (0 : ℚ) < e.significand * 2 ^ e.exponent := by positivity
    rw [signed_value, if_pos sign] at positive
    linarith
  have fits : Exact.roundAbs .toEven ⟨false, e.significand * 1000000000, e.exponent⟩ < Nat.pow 2 64 * 1000000000 := by
    have near := (abs_le.mp (nanos_near e upright)).2
    have below : (Exact.roundAbs .toEven ⟨false, e.significand * 1000000000, e.exponent⟩ : ℚ) <
        (2 ^ 64 * 1000000000 : Nat) := by
      push_cast
      linarith
    exact_mod_cast below
  rw [ofSeconds?, viewed]
  dsimp only
  rw [if_neg upright, if_pos fits]
  exact ⟨_, rfl⟩

end Duration

namespace SnapshotPlan

abbrev Timely (d : Duration) : Prop :=
  (Duration.ofSecs 1).nanos ≤ d.nanos ∧ d.nanos ≤ (Duration.ofSecs 86400).nanos

inductive Override where
  | period (secs : Float)
  | clear (flag : Nat)

namespace Override

def period? : Override → Option Duration
  | .period secs => (Duration.ofSeconds? secs).filter fun d => Timely d
  | .clear _ => none

def clear? : Override → Option Bool
  | .clear 0 => some false
  | .clear 1 => some true
  | _ => none

end Override

def overridden (p : SnapshotPlan) : Override → SnapshotPlan
  | .period secs => p.withPeriodSecs secs
  | .clear flag =>
    match p.withClear flag with
    | .ok next => next
    | .error _ => p

def built (overrides : List Override) : SnapshotPlan := overrides.foldl overridden .standard

theorem timely_iff (d : Duration) : checkPeriod "snapshot" d minPeriod = .ok () ↔ Timely d :=
  check_period_ok_iff "snapshot" d minPeriod (by decide)

section builders
variable (p : SnapshotPlan)

theorem with_period_secs_eq (secs : Float) :
    p.withPeriodSecs secs = { p with period := (Override.period secs).period?.getD p.period } := by
  rw [withPeriodSecs, Override.period?]
  cases Duration.ofSeconds? secs with
  | none => rfl
  | some d =>
      rw [Option.filter_some]
      by_cases timely : Timely d
      · rw [if_pos (decide_eq_true timely), Option.getD_some]
        dsimp only
        rw [(timely_iff d).mpr timely]
      · rw [if_neg (by rwa [decide_eq_true_iff]), Option.getD_none]
        dsimp only
        cases checked : checkPeriod "snapshot" d minPeriod with
        | ok done => exact absurd ((timely_iff d).mp checked) timely
        | error fault => rfl

theorem with_clear_eq (flag : Nat) : p.withClear flag = match (Override.clear flag).clear? with
    | some clear => .ok { p with clear }
    | none => .error (.range (.clearFlag flag)) := by
  match flag with
  | 0 | 1 | _ + 2 => rfl

theorem overridden_eq (o : Override) :
    p.overridden o = ⟨o.period?.getD p.period, o.clear?.getD p.clear⟩ := by
  cases o with
  | period secs => exact p.with_period_secs_eq secs
  | clear flag =>
      rw [overridden, with_clear_eq]
      cases (Override.clear flag).clear? <;> rfl

theorem overridden_valid (o : Override) (valid : p.validate = .ok ()) : (p.overridden o).validate = .ok () := by
  rw [overridden_eq]
  cases given : o.period? with
  | none => exact valid
  | some d =>
      cases o with
      | period secs =>
          obtain ⟨-, timely⟩ := Option.filter_eq_some_iff.mp given
          exact (timely_iff d).mpr (of_decide_eq_true timely)
      | clear flag => cases given

end builders

theorem built_valid (overrides : List Override) : (built overrides).validate = .ok () :=
  List.foldlRecOn overrides overridden (rfl : standard.validate = .ok ()) fun p valid o _ => p.overridden_valid o valid

end SnapshotPlan

namespace TracePlan

def built (periods : List Float) : TracePlan := periods.foldl withSamplePeriod .standard

theorem with_sample_period_eq (p : TracePlan) (nanos : Float) :
    (p.withSamplePeriod nanos).samplePeriod = (Option.guard accepts nanos).getD p.samplePeriod := by
  rw [withSamplePeriod, Option.guard]
  split <;> rfl

theorem built_sample_period (periods : List Float) : (built periods).samplePeriod =
    (periods.filter fun nanos => 25.0 ≤ nanos ∧ nanos ≤ 5000.0).getLast?.getD 25.0 := by
  have within : (fun nanos : Float => decide (25.0 ≤ nanos ∧ nanos ≤ 5000.0)) = accepts :=
    funext fun nanos => Bool.decide_and (25.0 ≤ nanos) (nanos ≤ 5000.0)
  rw [within, ← List.filterMap_eq_filter]
  exact latest_given withSamplePeriod samplePeriod _ with_sample_period_eq .standard periods

theorem validate_ok_iff (p : TracePlan) : p.validate = .ok () ↔ accepts p.samplePeriod = true := by
  rw [validate]
  cases accepts p.samplePeriod <;> simp

theorem with_sample_period_valid (p : TracePlan) (nanos : Float) (valid : p.validate = .ok ()) :
    (p.withSamplePeriod nanos).validate = .ok () := by
  rw [withSamplePeriod]
  split
  case isTrue accepted => exact (validate_ok_iff _).mpr accepted
  case isFalse => exact valid

theorem built_valid (periods : List Float) : (built periods).validate = .ok () :=
  List.foldlRecOn (motive := fun p : TracePlan => p.validate = .ok ()) periods withSamplePeriod
    ((validate_ok_iff standard).mpr (by decide)) fun p valid nanos _ => p.with_sample_period_valid nanos valid

end TracePlan

namespace BoundedPlan

theorem validate_ok_iff (p : BoundedPlan) :
    p.validate = .ok () ↔ ∃ a : ℚ, value? p.presetValue = some a ∧ 0 ≤ a := by
  have tests : p.validate = .ok () ↔ p.presetValue.isFinite = true ∧ ¬ p.presetValue < 0.0 := by
    rw [validate]
    by_cases negative : p.presetValue < 0.0 <;> cases p.presetValue.isFinite <;> simp [negative]
  have zero : value? 0.0 = some 0 := (is_zero_iff 0.0).mp (by decide)
  rw [tests]
  constructor
  · rintro ⟨finite, upright⟩
    obtain ⟨a, valued⟩ := finite_valued p.presetValue finite
    rw [lt_iff_values _ _ a 0 valued zero, not_lt] at upright
    exact ⟨a, valued, upright⟩
  · rintro ⟨a, valued, upright⟩
    rw [lt_iff_values _ _ a 0 valued zero, not_lt]
    exact ⟨finite_of_valued p.presetValue a valued, upright⟩

theorem make_ok_iff (presetType : PresetType) (presetValue : Float) (resume : Bool) (plan : BoundedPlan) :
    make presetType presetValue resume = .ok plan ↔
      plan = ⟨presetType, presetValue, resume⟩ ∧ plan.validate = .ok () := by
  rw [make]
  cases checked : validate ⟨presetType, presetValue, resume⟩ with
  | ok done =>
      constructor
      · rintro ⟨⟩
        exact ⟨rfl, checked⟩
      · rintro ⟨rfl, -⟩
        rfl
  | error fault =>
      constructor
      · rintro ⟨⟩
      · rintro ⟨rfl, valid⟩
        cases checked.symm.trans valid

end BoundedPlan

namespace Plan

inductive Built : Plan → Prop where
  | bounded (presetType : PresetType) (presetValue : Float) (resume : Bool) (plan : BoundedPlan)
      (made : BoundedPlan.make presetType presetValue resume = .ok plan) : Built (.bounded plan)
  | snapshot (overrides : List SnapshotPlan.Override) : Built (.snapshot (.built overrides))
  | trace (periods : List Float) : Built (.trace (.built periods))

theorem built_valid (plan : Plan) (built : plan.Built) : plan.validate = .ok () := by
  cases built with
  | bounded presetType presetValue resume plan made => exact ((BoundedPlan.make_ok_iff _ _ _ _).mp made).2
  | snapshot overrides => exact SnapshotPlan.built_valid overrides
  | trace periods => exact TracePlan.built_valid periods

end Plan

theorem Sequencer.run_valid_fault {σ : Type} (answer : (r : Request) → σ → r.Answer × σ) (start : σ) (s : Sequencer)
    (budget : Nat) (plan : Plan) (fault : Fault) (valid : plan.validate = .ok ())
    (inRange : ClockInRange (Program.history answer (s.run budget plan).run start))
    (failed : (Program.run answer (s.run budget plan).run start).1 = some (.error fault)) :
    fault = .state .noChannels ∨ ∃ operation code, fault = .device operation code := by
  have traced := Program.history_traced answer (s.run budget plan).run start
  rw [failed] at traced
  rcases run_course s budget plan _ _ traced with
    ⟨-, -, ended⟩ | ⟨-, other, rejected, -⟩ | ⟨-, -, course, coursed, same⟩
  · cases ended
    exact .inl rfl
  · rw [valid] at rejected
    cases rejected
  · rw [same] at inRange
    have rules := course_first_fault s course _ coursed (clock_in_range_append course _ inRange).1
    exact .inr (first_fault_device course fault ((rules.verdict fault).mp rfl))

-- A run may still be refused a period that no deadline is left for, at the end of all time.
theorem Plan.built_in_range (overrides : List SnapshotPlan.Override) (periods : List Float) (presetType : PresetType)
    (presetValue : Float) (resume : Bool) :
    (SnapshotPlan.built overrides).period =
      (overrides.filterMap SnapshotPlan.Override.period?).getLast?.getD (.ofSecs 5) ∧
    (SnapshotPlan.built overrides).clear = (overrides.filterMap SnapshotPlan.Override.clear?).getLast?.getD true ∧
    (Plan.snapshot (.built overrides)).validate = .ok () ∧
    (∀ secs d, Duration.ofSeconds? secs = some d →
      ∃ a : ℚ, value? secs = some a ∧ 0 ≤ a ∧ |(d.nanos : ℚ) - a * 10 ^ 9| ≤ 1 / 2) ∧
    (∀ (secs : Float) (a : ℚ), value? secs = some a → 0 ≤ a → a + 1 ≤ 2 ^ 64 → ∃ d, Duration.ofSeconds? secs = some d) ∧
    (∀ (p : SnapshotPlan) (secs : Float), (p.withPeriodSecs secs).clear = p.clear) ∧
    (∀ (p next : SnapshotPlan) (flag : Nat), p.withClear flag = .ok next → next.period = p.period) ∧
    (∀ (p : SnapshotPlan) (flag : Nat), 1 < flag → p.withClear flag = .error (.range (.clearFlag flag))) ∧
    (TracePlan.built periods).samplePeriod =
      (periods.filter fun nanos => 25.0 ≤ nanos ∧ nanos ≤ 5000.0).getLast?.getD 25.0 ∧
    (Plan.trace (.built periods)).validate = .ok () ∧
    (∀ plan, BoundedPlan.make presetType presetValue resume = .ok plan ↔
      plan = ⟨presetType, presetValue, resume⟩ ∧ (Plan.bounded plan).validate = .ok ()) ∧
    ((Plan.bounded ⟨presetType, presetValue, resume⟩).validate = .ok () ↔
      ∃ a : ℚ, value? presetValue = some a ∧ 0 ≤ a) ∧
    ∀ (plan : Plan) (σ : Type) (answer : (r : Request) → σ → r.Answer × σ) (start : σ) (s : Sequencer)
      (budget : Nat) (cause : RangeFault), plan.Built →
      ClockInRange (Program.history answer (s.run budget plan).run start) →
      (Program.run answer (s.run budget plan).run start).1 ≠ some (.error (.range cause)) := by
  refine ⟨?_, ?_, SnapshotPlan.built_valid overrides, Duration.of_seconds_near, Duration.of_seconds_some,
    fun p secs => ?_, fun p next flag set => ?_, fun p flag other => ?_, TracePlan.built_sample_period periods,
    TracePlan.built_valid periods, BoundedPlan.make_ok_iff presetType presetValue resume,
    BoundedPlan.validate_ok_iff _, ?_⟩
  · exact latest_given _ SnapshotPlan.period _ (fun p o => by rw [p.overridden_eq]) .standard overrides
  · exact latest_given _ SnapshotPlan.clear _ (fun p o => by rw [p.overridden_eq]) .standard overrides
  · rw [p.with_period_secs_eq]
  · rw [p.with_clear_eq] at set
    split at set <;> cases set
    rfl
  · obtain ⟨n, rfl⟩ := Nat.exists_eq_add_of_le' other
    rfl
  · rintro plan σ answer start s budget cause built inRange failed
    rcases Sequencer.run_valid_fault answer start s budget plan _ (plan.built_valid built) inRange failed with
      none | ⟨operation, code, device⟩
    · cases none
    · cases device

theorem Plan.refused_overrides_ignored :
    let overrides : List SnapshotPlan.Override :=
      [.period 2.5, .clear 7, .clear 0, .period (0.0 / 0.0), .period 0.5, .period 1.0e19]
    let run := (Sequencer.run ⟨[0, 1], .channel 1⟩ 2 (.snapshot (.built overrides))).run
    (SnapshotPlan.built overrides).period = ⟨2500000000⟩ ∧ (SnapshotPlan.built overrides).clear = false ∧
    (∃ plan, BoundedPlan.make .live 0.5 true = .ok plan) ∧
    (Plan.snapshot (.built overrides)).Built ∧ ClockInRange (Program.history Sequencer.faltering run ()) ∧
    ∀ cause, (Program.run Sequencer.faltering run ()).1 ≠ some (.error (.range cause)) := by
  intro overrides run
  obtain ⟨period, clear, -, -, -, -, -, -, -, -, made, -, unranged⟩ := built_in_range overrides [] .live 0.5 true
  have inRange := Sequencer.clock_in_range_of_answers Sequencer.faltering () run fun _ =>
    (by decide : (0 : Instant) + maxPeriod.nanos ≤ Instant.last)
  refine ⟨period.trans (by decide +kernel), clear.trans rfl, ⟨_, (made _).mpr ⟨rfl, rfl⟩⟩, .snapshot overrides, inRange,
    fun cause => ?_⟩
  exact unranged _ Unit Sequencer.faltering () ⟨[0, 1], .channel 1⟩ 2 cause (.snapshot overrides) inRange

end PulseAnalyzer
