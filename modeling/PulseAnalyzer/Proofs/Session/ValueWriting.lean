import PulseAnalyzer.Proofs.Simulator.ValueStore

set_option autoImplicit false

namespace PulseAnalyzer

theorem canonical_again (name : String) : canonicalName (canonicalName name) = canonicalName name := by
  by_cases renamed : name = "set_voltage"
  · rw [renamed]
    rfl
  · have same : canonicalName name = name := if_neg renamed
    rw [same, same]

namespace SimulatedApi
open Acquisition

theorem answer_unplanned (s : SimulatedApi) (unfailing : s.injection.scenarios = []) (now : Instant) (call : Call)
    (channel : Nat) (named : channelOf? call = some channel) (known : channel < s.channels) :
    s.answer now call = (.ok ((s.noted call).perform now call).1, ((s.noted call).perform now call).2) := by
  rcases s.answer_cases now call with ⟨code, refuses, -⟩ | ⟨-, same⟩
  · cases refuses with
    | planned code fails =>
        simp only [Injection.check, unfailing, List.filter_nil, Injection.consult] at fails
        cases fails
    | unknown other _ same beyond =>
        cases named.symm.trans same
        exact absurd known (Nat.not_lt.mpr beyond)
  · exact same

end SimulatedApi

namespace Bench

structure Serves (b : Bench) (channel : Nat) : Prop where
  unfailing : b.api.injection.scenarios = []
  known : channel < b.api.channels

theorem set_answered (b : Bench) (channel : Nat) (serves : b.Serves channel) (name : String) (value : Float) :
    ∃ c, b.run (Procedure.api (.setValue channel name value)) = (some (.ok ()), c) ∧ c.Serves channel ∧
      c.api.value? channel name = some value := by
  have answered := b.api.answer_unplanned serves.unfailing b.now (.setValue channel name value) channel rfl serves.known
  refine ⟨(b.callApi (.setValue channel name value)).2, ?_, ⟨?_, ?_⟩, ?_⟩
  · change (some (checkStatus _ (b.api.answer b.now (.setValue channel name value)).1), _) = _
    rw [answered]
    rfl
  · change (b.api.answer b.now (.setValue channel name value)).2.injection.scenarios = []
    rw [answered]
    exact serves.unfailing
  · change channel < (b.api.answer b.now (.setValue channel name value)).2.channels
    rw [answered]
    exact serves.known
  · exact b.api.answer_set b.now channel name value (by rw [answered])

theorem get_answered (b : Bench) (channel : Nat) (serves : b.Serves channel) (name : String) (value : Float)
    (held : b.api.value? channel name = some value) :
    ∃ c, b.run (Procedure.api (.getValue channel name)) = (some (.ok value), c) ∧
      c.api.value? channel name = some value := by
  have answered := b.api.answer_unplanned serves.unfailing b.now (.getValue channel name) channel rfl serves.known
  refine ⟨(b.callApi (.getValue channel name)).2, ?_, ?_⟩
  · change (some (checkStatus _ (b.api.answer b.now (.getValue channel name)).1), _) = _
    have found : (b.api.value? channel name).getD 0.0 = value := by rw [held]; rfl
    rw [answered]
    exact congrArg (fun got => (some (Except.ok got : Except Fault Float), _)) found
  · rw [← held]
    exact congrArg (Table.lookup (channel, name)) (call_api_values b.api b.now (.getValue channel name) trivial)

end Bench

namespace Calibration

def outOfRange (c : Calibration) (volts : Float) : Fault :=
  .range (.highVoltage volts c.hv.quantity.low c.hv.quantity.high (c.profile == .linear) c.hv.quantity.unit)

theorem setpoint_cases (c : Calibration) (volts : Float) :
    (c.voltsInRange volts = false ∧ c.setpoint volts = .error (c.outOfRange volts)) ∨
    (c.voltsInRange volts = true ∧ ∃ raw, c.setpoint volts = .ok raw) := by
  cases ranged : c.voltsInRange volts with
  | false => exact .inl ⟨rfl, by rw [setpoint, ranged]; rfl⟩
  | true =>
      refine .inr ⟨rfl, ?_⟩
      rw [setpoint, ranged, if_pos rfl]
      split
      · exact ⟨_, rfl⟩
      · split <;> exact ⟨_, rfl⟩

end Calibration

namespace Session
open Procedure

-- What is sent for a value under its own name: the setpoint for volts in range, any other value as it is.
inductive Sent (s : Session) (name : String) (value : Float) : Float → Prop where
  | setpoint (raw : Float) (volts : name = highVoltageName) (ranged : s.calibration.voltsInRange value = true)
      (converted : s.calibration.setpoint value = .ok raw) : Sent s name value raw
  | plain (other : name ≠ highVoltageName) : Sent s name value value

def told (s : Session) (name : String) (found : Float) : Float :=
  if name = highVoltageName then s.calibration.voltsOfSetpoint found else found

inductive Written (s : Session) (channel : Nat) (name : String) (value : Float) : List Event → Except Fault Float → Prop where
  | refused (volts : name = highVoltageName) (beyond : s.calibration.voltsInRange value = false) :
      Written s channel name value [] (.error (s.calibration.outOfRange value))
  | unset (raw : Float) (sent : s.Sent name value raw) (code : Int) :
      Written s channel name value [⟨.api (.setValue channel name raw), .error code⟩]
        (.error (.device ("set_acquisition_value(" ++ name ++ ")") code))
  | unread (raw : Float) (sent : s.Sent name value raw) (code : Int) :
      Written s channel name value
        [⟨.api (.setValue channel name raw), .ok ()⟩, ⟨.api (.getValue channel name), .error code⟩]
        (.error (.device ("get_acquisition_value(" ++ name ++ ")") code))
  | told (raw : Float) (sent : s.Sent name value raw) (found : Float) :
      Written s channel name value
        [⟨.api (.setValue channel name raw), .ok ()⟩, ⟨.api (.getValue channel name), .ok found⟩]
        (.ok (s.told name found))

theorem raw_value_ok_iff (s : Session) (name : String) (value raw : Float) :
    s.rawValue name value = .ok raw ↔ s.Sent (canonicalName name) value raw := by
  by_cases volts : canonicalName name = highVoltageName
  · rw [rawValue, if_pos volts]
    constructor
    · intro converted
      rcases s.calibration.setpoint_cases value with ⟨-, same⟩ | ⟨ranged, -⟩
      · cases converted.symm.trans same
      · exact .setpoint raw volts ranged converted
    · intro sent
      cases sent with
      | setpoint _ _ _ converted => exact converted
      | plain other => exact absurd volts other
  · rw [rawValue, if_neg volts]
    constructor
    · rintro ⟨⟩
      exact .plain volts
    · intro sent
      cases sent with
      | setpoint _ same => exact absurd same volts
      | plain => rfl

theorem raw_value_error_iff (s : Session) (name : String) (value : Float) (fault : Fault) :
    s.rawValue name value = .error fault ↔
      canonicalName name = highVoltageName ∧ s.calibration.voltsInRange value = false ∧
        fault = s.calibration.outOfRange value := by
  by_cases volts : canonicalName name = highVoltageName
  · rw [rawValue, if_pos volts]
    rcases s.calibration.setpoint_cases value with ⟨beyond, same⟩ | ⟨ranged, raw, same⟩
    · rw [same, beyond]
      constructor
      · rintro ⟨⟩
        exact ⟨volts, rfl, rfl⟩
      · rintro ⟨-, -, rfl⟩
        rfl
    · rw [same, ranged]
      exact ⟨nofun, nofun⟩
  · rw [rawValue, if_neg volts]
    exact ⟨nofun, fun ⟨same, _⟩ => absurd same volts⟩

theorem read_value_traced (s : Session) (channel : Nat) (name : String) (events : List Event)
    (result : Option (Except Fault Float)) :
    (s.readValue channel name).Traced events result ↔
      (∃ found, events = [⟨.api (.getValue channel (canonicalName name)), .ok found⟩] ∧
        result = some (.ok (s.told (canonicalName name) found))) ∨
      (∃ code, events = [⟨.api (.getValue channel (canonicalName name)), .error code⟩] ∧
        result = some (.error (.device ("get_acquisition_value(" ++ canonicalName name ++ ")") code))) := by
  refine (traced_api_bind (.getValue channel (canonicalName name)) _ events result).trans (or_congr_left ?_)
  constructor
  · rintro ⟨found, rest, ended, rfl⟩
    obtain ⟨rfl, rfl⟩ := (traced_pure _ rest result).mp ended
    exact ⟨found, rfl, rfl⟩
  · rintro ⟨found, rfl, rfl⟩
    exact ⟨found, [], (traced_pure _ [] _).mpr ⟨rfl, rfl⟩, rfl⟩

theorem write_value_traced (s : Session) (channel : Nat) (name : String) (value : Float) (events : List Event)
    (result : Option (Except Fault Float)) :
    (s.writeValue channel name value).Traced events result ↔
      ∃ outcome, result = some outcome ∧ s.Written channel (canonicalName name) value events outcome := by
  have read := s.read_value_traced channel (canonicalName name)
  rw [canonical_again] at read
  constructor
  · intro traced
    rcases (traced_bind _ _ events result).mp traced with
      ⟨raw, first, rest, checked, after, rfl⟩ | ⟨fault, refused, rfl⟩ | ⟨stuck, -⟩
    · obtain ⟨rfl, same⟩ := (traced_of_except _ first _).mp checked
      have sent := (s.raw_value_ok_iff name value raw).mp (Option.some.inj same).symm
      rcases (traced_api_bind (.setValue channel (canonicalName name) raw) _ rest result).mp after with
        ⟨done, later, reading, rfl⟩ | ⟨code, rfl, rfl⟩
      · rcases (read later result).mp reading with ⟨found, rfl, rfl⟩ | ⟨code, rfl, rfl⟩
        · exact ⟨_, rfl, .told raw sent found⟩
        · exact ⟨_, rfl, .unread raw sent code⟩
      · exact ⟨_, rfl, .unset raw sent code⟩
    · obtain ⟨rfl, same⟩ := (traced_of_except _ events _).mp refused
      obtain ⟨volts, beyond, rfl⟩ := (s.raw_value_error_iff name value fault).mp (Option.some.inj same).symm
      exact ⟨_, rfl, .refused volts beyond⟩
    · obtain ⟨-, impossible⟩ := (traced_of_except _ events _).mp stuck
      cases impossible
  · rintro ⟨outcome, rfl, written⟩
    have passes (raw : Float) (sent : s.Sent (canonicalName name) value raw) (later : List Event)
        (after : (api (.setValue channel (canonicalName name) raw) >>= fun _ =>
          s.readValue channel (canonicalName name)).Traced later (some outcome)) :
        (s.writeValue channel name value).Traced later (some outcome) := by
      have checked := (s.raw_value_ok_iff name value raw).mpr sent
      refine (traced_bind _ _ later _).mpr (.inl ⟨raw, [], later, ?_, after, rfl⟩)
      exact (traced_of_except _ [] _).mpr ⟨rfl, by rw [checked]⟩
    cases written with
    | refused volts beyond =>
        refine (traced_bind _ _ [] _).mpr (.inr (.inl ⟨s.calibration.outOfRange value, ?_, rfl⟩))
        refine (traced_of_except _ [] _).mpr ⟨rfl, ?_⟩
        rw [(s.raw_value_error_iff name value _).mpr ⟨volts, beyond, rfl⟩]
    | unset raw sent code =>
        refine passes raw sent _ ((traced_api_bind _ _ _ _).mpr (.inr ⟨code, rfl, rfl⟩))
    | unread raw sent code =>
        refine passes raw sent _ ((traced_api_bind _ _ _ _).mpr (.inl ⟨(), _, ?_, rfl⟩))
        exact (read _ _).mpr (.inr ⟨code, rfl, rfl⟩)
    | told raw sent found =>
        refine passes raw sent _ ((traced_api_bind _ _ _ _).mpr (.inl ⟨(), _, ?_, rfl⟩))
        exact (read _ _).mpr (.inl ⟨found, rfl, rfl⟩)

theorem written_unasked (s : Session) (channel : Nat) (name : String) (value : Float) (events : List Event)
    (outcome : Except Fault Float) (written : s.Written channel name value events outcome) :
    (events = [] ↔ name = highVoltageName ∧ s.calibration.voltsInRange value = false) ∧
    ((∃ cause, outcome = .error (.range cause)) ↔ events = []) := by
  have within (raw : Float) (sent : s.Sent name value raw) :
      ¬ (name = highVoltageName ∧ s.calibration.voltsInRange value = false) := by
    rintro ⟨volts, beyond⟩
    cases sent with
    | setpoint _ _ ranged => cases beyond.symm.trans ranged
    | plain other => exact other volts
  cases written with
  | refused volts beyond => exact ⟨⟨fun _ => ⟨volts, beyond⟩, fun _ => rfl⟩, ⟨fun _ => rfl, fun _ => ⟨_, rfl⟩⟩⟩
  | unset raw sent | unread raw sent | told raw sent =>
      exact ⟨⟨nofun, fun refused => absurd refused (within raw sent)⟩, ⟨nofun, nofun⟩⟩

theorem write_value_answered (s : Session) (b : Bench) (channel : Nat) (serves : b.Serves channel) (name : String)
    (value raw : Float) (sent : s.Sent (canonicalName name) value raw) :
    ∃ c, b.run (s.writeValue channel name value) = (some (.ok (s.told (canonicalName name) raw)), c) ∧
      c.api.value? channel (canonicalName name) = some raw := by
  obtain ⟨d, set, still, held⟩ := b.set_answered channel serves (canonicalName name) raw
  obtain ⟨c, got, kept⟩ := d.get_answered channel still (canonicalName name) raw held
  have checked : b.run (Procedure.ofExcept (s.rawValue name value)) = (some (.ok raw), b) := by
    rw [(s.raw_value_ok_iff name value raw).mpr sent]
    rfl
  refine ⟨c, ?_, kept⟩
  rw [writeValue, Bench.run_bind, checked]
  dsimp only
  rw [Bench.run_bind, set]
  dsimp only
  rw [readValue, canonical_again, Bench.run_bind, got]
  rfl

theorem value_written (s : Session) (channel : Nat) (name : String) (value : Float) :
    let c := canonicalName name
    let p := s.writeValue channel name value
    (∀ events result, p.Traced events result ↔
      ∃ outcome, result = some outcome ∧ s.Written channel c value events outcome) ∧
    (∀ (σ : Type) (answer : (r : Request) → σ → r.Answer × σ) (start : σ), ∃ outcome,
      (Program.run answer p.run start).1 = some outcome ∧
      s.Written channel c value (Program.history answer p.run start) outcome ∧
      (Program.history answer p.run start = [] ↔ c = highVoltageName ∧ s.calibration.voltsInRange value = false) ∧
      ((∃ cause, outcome = .error (.range cause)) ↔ Program.history answer p.run start = [])) ∧
    s.writeValue channel "set_voltage" value = s.setVolts channel value ∧
    s.writeValue channel "high_voltage" value = s.setVolts channel value ∧
    (∀ b : Bench, b.Serves channel → c ≠ highVoltageName →
      ∃ d, b.run p = (some (.ok value), d) ∧ d.api.value? channel c = some value) := by
  intro c p
  refine ⟨s.write_value_traced channel name value, fun σ answer start => ?_, rfl, rfl, fun b serves other => ?_⟩
  · have traced := Program.history_traced answer p.run start
    obtain ⟨outcome, ended, written⟩ := (s.write_value_traced channel name value _ _).mp traced
    exact ⟨outcome, ended, written, s.written_unasked channel c value _ outcome written⟩
  · obtain ⟨d, ran, held⟩ := s.write_value_answered b channel serves name value value (.plain other)
    have plain : s.told c value = value := if_neg other
    rw [plain] at ran
    exact ⟨d, ran, held⟩

-- The sign of a zero is kept, and what is no number is no voltage under either name.
theorem negative_zero_written :
    let s : Session := ⟨.standard, []⟩
    let b := Bench.make (.make 2 0) (.simulated (.make 2))
    b.Serves 1 ∧ canonicalName "gain" ≠ highVoltageName ∧ (-0.0 : Float) ≠ 0.0 ∧
    (∃ d, b.run (s.writeValue 1 "gain" (-0.0)) = (some (.ok (-0.0)), d) ∧ d.api.value? 1 "gain" = some (-0.0)) ∧
    s.calibration.voltsInRange (0.0 / 0.0) = false ∧
    Program.history Bench.answer (s.writeValue 1 "set_voltage" (0.0 / 0.0)).run b = [] ∧
    s.writeValue 1 "set_voltage" (0.0 / 0.0) = s.setVolts 1 (0.0 / 0.0) := by
  intro s b
  have serves : b.Serves 1 := ⟨rfl, by decide⟩
  have other : canonicalName "gain" ≠ highVoltageName := by decide
  have beyond : s.calibration.voltsInRange (0.0 / 0.0) = false := by decide
  obtain ⟨-, -, -, -, plain⟩ := value_written s 1 "gain" (-0.0)
  obtain ⟨-, runs, renamed, -, -⟩ := value_written s 1 "set_voltage" (0.0 / 0.0)
  obtain ⟨outcome, -, -, unasked, -⟩ := runs Bench Bench.answer b
  exact ⟨serves, other, by decide, plain b serves other, beyond, unasked.mpr ⟨rfl, beyond⟩, renamed⟩

end Session
end PulseAnalyzer
