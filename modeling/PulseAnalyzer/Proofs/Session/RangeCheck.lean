import PulseAnalyzer.Proofs.Simulator.LedPulser
import PulseAnalyzer.Proofs.Simulator.Untouched
import PulseAnalyzer.Proofs.Wire.ResponseSize

set_option autoImplicit false

namespace PulseAnalyzer

namespace Procedure

variable {α β : Type}

def Unranged (p : Procedure α) : Prop :=
  ∀ events cause, ¬ p.Traced events (some (.error (.range cause)))

theorem unranged_of_except (outcome : Except Fault α) (other : ∀ cause, outcome ≠ .error (.range cause)) :
    Unranged (ofExcept outcome) := by
  intro events cause traced
  obtain ⟨-, same⟩ := (traced_of_except outcome events _).mp traced
  exact other cause (Option.some.inj same).symm

theorem unranged_pure (value : α) : Unranged (pure value : Procedure α) :=
  unranged_of_except (.ok value) nofun

theorem unranged_api (call : Acquisition.Call) : Unranged (api call) := by
  intro events cause traced
  obtain ⟨answer, -, same⟩ := (traced_api call events _).mp traced
  cases answer <;> cases same

theorem unranged_bind (p : Procedure α) (f : α → Procedure β) (first : Unranged p) (rest : ∀ value, Unranged (f value)) :
    Unranged (p >>= f) := by
  intro events cause traced
  rcases (traced_bind p f events _).mp traced with ⟨value, _, tail, -, after, -⟩ | ⟨fault, failed, same⟩ | ⟨-, same⟩
  · exact rest value tail cause after
  · cases same
    exact first events cause failed
  · cases same

theorem checked_first (outcome : Except Fault α) (f : α → Procedure β)
    (rest : ∀ value, outcome = .ok value → Unranged (f value)) (events : List Event) (cause : RangeFault)
    (traced : (ofExcept outcome >>= f).Traced events (some (.error (.range cause)))) :
    events = [] ∧ outcome = .error (.range cause) := by
  rcases (traced_bind _ f events _).mp traced with
    ⟨value, _, tail, begun, after, -⟩ | ⟨fault, failed, same⟩ | ⟨-, same⟩
  · obtain ⟨-, accepted⟩ := (traced_of_except outcome _ _).mp begun
    exact absurd after (rest value (Option.some.inj accepted).symm tail cause)
  · cases same
    obtain ⟨rfl, found⟩ := (traced_of_except outcome events _).mp failed
    exact ⟨rfl, (Option.some.inj found).symm⟩
  · cases same

end Procedure

namespace Command
open Procedure

theorem transaction_unranged (device : Nat) (frame : Bytes) (sends size : Nat) (events : List Event)
    (cause : RangeFault) : ¬ Transaction device frame sends size events (.error (.range cause)) := by
  intro transaction
  generalize outcome : Except.error (Fault.range cause) = result at transaction
  cases transaction with
  | refused handle raw released unformed =>
      have misread := Response.refusal_misread raw
      rw [← Except.error.inj outcome] at misread
      cases misread
  | unopened | unwritten | unread | unreleased | completed => cases outcome

theorem transact_unranged (c : Command) (free : c.stage.held = []) (sends size : Nat) (once : 1 ≤ sends) :
    Unranged (c.transact sends size) := by
  intro events cause traced
  obtain ⟨outcome, same, transaction⟩ := c.transact_traced free sends size once events _ traced
  cases same
  exact transaction_unranged _ _ _ _ events cause transaction

end Command

namespace Session
open Procedure

def precheck (s : Session) : Operation → Except Fault Unit
  | .writeValue _ name value => (s.rawValue name value).map fun _ => ()
  | .setVolts _ volts => (s.rawValue highVoltageName volts).map fun _ => ()
  | .setLed _ enable periodMicros widthNanos => (s.ledWords enable periodMicros widthNanos).map fun _ => ()
  | .raw channel opcode arguments _ => ((Command.start channel opcode).appendAll arguments).map fun _ => ()
  | _ => .ok ()

theorem request_checked (device : Nat) (opcode : UInt8) (arguments : List Argument) (sends size : Nat) (once : 1 ≤ sends)
    (events : List Event) (cause : RangeFault)
    (traced : (request device opcode arguments sends size).Traced events (some (.error (.range cause)))) :
    events = [] ∧ (Command.start device opcode).appendAll arguments = .error (.range cause) := by
  refine checked_first _ _ (fun c collected => ?_) events cause traced
  obtain ⟨-, rfl⟩ := (Command.append_all_ok_iff _ _ _ rfl).mp collected
  exact Command.transact_unranged _ rfl sends size once

theorem request_unranged (device : Nat) (opcode : UInt8) (arguments : List Argument) (fit : ∀ a ∈ arguments, a.Fits)
    (sends size : Nat) (once : 1 ≤ sends) : Unranged (request device opcode arguments sends size) := by
  intro events cause traced
  obtain ⟨-, refused⟩ := request_checked device opcode arguments sends size once events cause traced
  rw [Command.append_all_carrying device opcode arguments fit] at refused
  cases refused

theorem byte_at_unranged (bytes : Bytes) (offset : Nat) (cause : RangeFault) :
    Response.byteAt bytes offset ≠ .error (.range cause) := by
  unfold Response.byteAt
  split <;> nofun

theorem word_at_unranged (bytes : Bytes) (offset : Nat) (cause : RangeFault) :
    Response.wordAt bytes offset ≠ .error (.range cause) := by
  unfold Response.wordAt
  split <;> nofun

theorem big_endian_unranged (bytes : Bytes) (cause : RangeFault) :
    Response.bigEndian bytes ≠ .error (.range cause) := by
  unfold Response.bigEndian
  split <;> nofun

theorem bind_unranged {α β : Type} (outcome : Except Fault α) (f : α → Except Fault β) (cause : RangeFault)
    (first : outcome ≠ .error (.range cause)) (rest : ∀ value, f value ≠ .error (.range cause)) :
    outcome.bind f ≠ .error (.range cause) := by
  cases outcome with
  | ok value => exact rest value
  | error fault =>
      intro same
      exact first (congrArg Except.error (Except.error.inj same))

theorem temperature_of_unranged (payload : Bytes) (cause : RangeFault) :
    temperatureOf payload ≠ .error (.range cause) :=
  bind_unranged _ _ cause (byte_at_unranged payload 1 cause) fun _ =>
    bind_unranged _ _ cause (byte_at_unranged payload 2 cause) fun _ => nofun

theorem led_of_unranged (s : Session) (payload : Bytes) (cause : RangeFault) : s.ledOf payload ≠ .error (.range cause) :=
  bind_unranged _ _ cause (byte_at_unranged payload 0 cause) fun _ =>
    bind_unranged _ _ cause (byte_at_unranged payload 1 cause) fun _ =>
      bind_unranged _ _ cause (word_at_unranged payload 2 cause) fun _ =>
        bind_unranged _ _ cause (word_at_unranged payload 4 cause) fun _ => nofun

theorem read_value_unranged (s : Session) (channel : Nat) (name : String) : Unranged (s.readValue channel name) :=
  unranged_bind _ _ (unranged_api _) fun _ => unranged_pure _

theorem read_volts_unranged (s : Session) (channel : Nat) : Unranged (s.readVolts channel) := by
  refine unranged_bind _ _ (request_unranged channel opcodeVolts _ (by decide) 2 _ (by decide)) fun payload => ?_
  exact unranged_bind _ _ (unranged_of_except _ (big_endian_unranged _)) fun raw => unranged_pure _

theorem read_temperature_unranged (channel : Nat) : Unranged (readTemperature channel) := by
  refine unranged_bind _ _ (request_unranged channel opcodeTemperature _ (by decide) 1 _ (by decide)) fun payload => ?_
  exact unranged_of_except _ (temperature_of_unranged payload)

theorem read_led_unranged (s : Session) (channel : Nat) : Unranged (s.readLed channel) := by
  refine unranged_bind _ _ (request_unranged channel opcodeLed _ (by decide) 1 _ (by decide)) fun payload => ?_
  exact unranged_of_except _ (s.led_of_unranged payload)

theorem led_words_flag (s : Session) (enable : Nat) (periodMicros widthNanos : Float) (words : UInt16 × UInt16)
    (accepted : s.ledWords enable periodMicros widthNanos = .ok words) : enable ≤ 1 := by
  unfold ledWords at accepted
  split at accepted
  · cases accepted
  · rename_i flag
    exact Nat.le_of_not_lt flag

theorem set_led_checked (s : Session) (channel enable : Nat) (periodMicros widthNanos : Float) (events : List Event)
    (cause : RangeFault)
    (traced : (s.setLed channel enable periodMicros widthNanos).Traced events (some (.error (.range cause)))) :
    events = [] ∧ s.ledWords enable periodMicros widthNanos = .error (.range cause) := by
  refine checked_first _ _ (fun words accepted => ?_) events cause traced
  have flag := s.led_words_flag enable periodMicros widthNanos words accepted
  refine unranged_bind _ _ ?_ fun payload => unranged_of_except _ (s.led_of_unranged payload)
  exact request_unranged channel opcodeLed _ (led_arguments_fit enable flag words.1 words.2) 1 _ (by decide)

theorem write_value_checked (s : Session) (channel : Nat) (name : String) (value : Float) (events : List Event)
    (cause : RangeFault)
    (traced : (s.writeValue channel name value).Traced events (some (.error (.range cause)))) :
    events = [] ∧ s.rawValue name value = .error (.range cause) := by
  refine checked_first _ _ (fun raw _ => ?_) events cause traced
  exact unranged_bind _ _ (unranged_api _) fun _ => s.read_value_unranged channel _

def ledReading (channel : Nat) (handle : Handle) (raw : Bytes) : List Event :=
  [⟨.link (.acquire channel), .ok handle⟩,
    ⟨.link (.write handle 0x01000000 [0x1B, 0xC0, 1, 0, 1, 0xC0]), .ok ()⟩,
    ⟨.link (.read handle 0x01000000 11), .ok raw⟩, ⟨.link (.release handle), .ok ()⟩]

theorem read_led_reading (s : Session) (channel : Nat) (events : List Event) (status : LedStatus)
    (traced : (s.readLed channel).Traced events (some (.ok status))) :
    ∃ handle raw payload, Response.Formed raw payload ∧ events = ledReading channel handle raw := by
  rcases (traced_bind _ _ events _).mp traced with
    ⟨payload, head, tail, asked, decoded, rfl⟩ | ⟨_, -, impossible⟩ | ⟨-, impossible⟩
  · obtain ⟨rfl, -⟩ := (traced_of_except _ tail _).mp decoded
    rw [SimulatedLink.request_fit channel opcodeLed _ (by decide)] at asked
    obtain ⟨outcome, same, transaction⟩ := Command.transact_traced _ rfl 1 _ (by decide) head _ asked
    cases same
    generalize ended : (Except.ok payload : Except Fault Bytes) = result at transaction
    cases transaction with
    | completed handle raw found formed =>
        rw [List.append_nil]
        exact ⟨handle, raw, found, formed, rfl⟩
    | unopened | unwritten | unread | unreleased | refused => cases ended
  · cases impossible
  · cases impossible

theorem toggle_led_range (s : Session) (channel : Nat) (events : List Event) (cause : RangeFault)
    (traced : (s.toggleLed channel).Traced events (some (.error (.range cause)))) :
    ∃ handle raw payload, Response.Formed raw payload ∧ events = ledReading channel handle raw := by
  rcases (traced_bind _ _ events _).mp traced with
    ⟨current, head, tail, read, after, rfl⟩ | ⟨fault, failed, same⟩ | ⟨-, impossible⟩
  · obtain ⟨rfl, -⟩ := s.set_led_checked channel _ _ _ tail cause after
    rw [List.append_nil]
    exact s.read_led_reading channel head current read
  · cases same
    exact absurd failed (s.read_led_unranged channel events cause)
  · cases impossible

def Operation.Before : Operation → List Event → Prop
  | .toggleLed channel, events =>
      ∃ handle raw payload, Response.Formed raw payload ∧ events = ledReading channel handle raw
  | _, events => events = []

theorem before_range (s : Session) (o : Operation) (events : List Event) (cause : RangeFault)
    (traced : (s.perform o).Traced events (some (.error (.range cause)))) : o.Before events := by
  cases o with
  | readValue channel name => exact absurd traced (s.read_value_unranged channel name events cause)
  | writeValue channel name value => exact (s.write_value_checked channel name value events cause traced).1
  | setVolts channel volts => exact (s.write_value_checked channel highVoltageName volts events cause traced).1
  | readVolts channel => exact absurd traced (s.read_volts_unranged channel events cause)
  | readTemperature channel => exact absurd traced (read_temperature_unranged channel events cause)
  | readLed channel => exact absurd traced (s.read_led_unranged channel events cause)
  | setLed channel enable periodMicros widthNanos =>
      exact (s.set_led_checked channel enable periodMicros widthNanos events cause traced).1
  | toggleLed channel => exact s.toggle_led_range channel events cause traced
  | raw channel opcode arguments size =>
      exact (request_checked channel opcode arguments 1 size (by decide) events cause traced).1

theorem led_reading_spares (channel : Nat) (handle : Handle) (raw : Bytes) :
    ∀ e ∈ ledReading channel handle raw, e.request.Spares := by
  have reads : Frame.decode? [0x1B, 0xC0, 1, 0, 1, 0xC0] = some (0xC0, [1, 0, 1]) := by decide
  have unwritten : ¬ Registers.Writing [1, 0, 1] := by decide
  simp only [ledReading, List.forall_mem_cons]
  refine ⟨trivial, ?_, trivial, trivial, List.forall_mem_nil _⟩
  intro opcode arguments decoded
  rw [reads] at decoded
  cases decoded
  exact fun writes => unwritten writes.2

theorem before_spares (o : Operation) (events : List Event) (before : o.Before events) :
    ∀ e ∈ events, e.request.Spares := by
  cases o with
  | toggleLed channel =>
      obtain ⟨handle, raw, -, -, rfl⟩ := before
      exact led_reading_spares channel handle raw
  | _ =>
      cases before
      exact List.forall_mem_nil _

theorem map_refused {α β : Type} (outcome : Except Fault α) (f : α → β) (fault : Fault)
    (refused : outcome.map f = .error fault) : outcome = .error fault := by
  cases outcome with
  | error found => exact congrArg Except.error (Except.error.inj refused)
  | ok value => cases refused

theorem prechecked (s : Session) (o : Operation) (fault : Fault) (refused : s.precheck o = .error fault) :
    (s.perform o).run = .done (.error fault) := by
  cases o with
  | writeValue channel name value =>
      change (Procedure.ofExcept (s.rawValue name value) >>= _ : Procedure Float).run = _
      rw [map_refused _ _ fault refused]
      rfl
  | setVolts channel volts =>
      change (Procedure.ofExcept (s.rawValue highVoltageName volts) >>= _ : Procedure Float).run = _
      rw [map_refused _ _ fault refused]
      rfl
  | setLed channel enable periodMicros widthNanos =>
      change (Procedure.ofExcept (s.ledWords enable periodMicros widthNanos) >>= _ : Procedure LedStatus).run = _
      rw [map_refused _ _ fault refused]
      rfl
  | raw channel opcode arguments size =>
      change (Procedure.ofExcept ((Command.start channel opcode).appendAll arguments) >>= _ : Procedure Bytes).run = _
      rw [map_refused _ _ fault refused]
      rfl
  | readValue | readVolts | readTemperature | readLed | toggleLed => cases refused

-- Whatever the link and the interface answer, a value is found out of range before they are asked, or after
-- the one reading that tells the value; so nothing of a device is changed.
theorem range_found_first (s : Session) (o : Operation) :
    (∀ (σ : Type) (answer : (r : Request) → σ → r.Answer × σ) (start : σ) (cause : RangeFault),
      (Program.run answer (s.perform o).run start).1 = some (.error (.range cause)) →
      o.Before (Program.history answer (s.perform o).run start) ∧
      ∀ e ∈ Program.history answer (s.perform o).run start, e.request.Spares) ∧
    (∀ fault, s.precheck o = .error fault →
      ∀ (σ : Type) (answer : (r : Request) → σ → r.Answer × σ) (start : σ),
        Program.history answer (s.perform o).run start = [] ∧
        Program.run answer (s.perform o).run start = (some (.error fault), start)) ∧
    ∀ (b : Bench) (cause : RangeFault), (b.run (s.perform o)).1 = some (.error (.range cause)) →
      b.Untouched (b.run (s.perform o)).2 := by
  have found : ∀ (σ : Type) (answer : (r : Request) → σ → r.Answer × σ) (start : σ) (cause : RangeFault),
      (Program.run answer (s.perform o).run start).1 = some (.error (.range cause)) →
      o.Before (Program.history answer (s.perform o).run start) := by
    intro σ answer start cause ended
    have traced := Program.history_traced answer (s.perform o).run start
    rw [ended] at traced
    exact s.before_range o _ cause traced
  refine ⟨fun σ answer start cause ended => ?_, fun fault refused σ answer start => ?_, fun b cause ended => ?_⟩
  · have before := found σ answer start cause ended
    exact ⟨before, before_spares o _ before⟩
  · rw [s.prechecked o fault refused]
    exact ⟨rfl, rfl⟩
  · exact b.run_untouched _ (before_spares o _ (found Bench Bench.answer b cause ended))

theorem dark_pulser_found_first :
    let s : Session := ⟨.standard, []⟩
    let l := (SimulatedLink.make 1).setRegisters 0 { Registers.standard with ledPeriod := 0 }
    let b := Bench.make (.make 1 0) (.simulated l)
    let unfit : List Operation :=
      [.setLed 0 1 100.0 5000.0, .setLed 0 2 100.0 50.0, .setVolts 0 (0.0 / 0.0), .writeValue 0 "set_voltage" (1.0 / 0.0),
        .raw 0 0xC0 [⟨.word, 6⟩, ⟨.byte, 0⟩, ⟨.byte, 256⟩] 11]
    (∀ o ∈ unfit, ∃ cause, s.precheck o = .error (.range cause) ∧
      Program.history Bench.answer (s.perform o).run b = [] ∧ b.Untouched (b.run (s.perform o)).2) ∧
    (b.run (s.toggleLed 0)).1 = some (.error (.range (.quantity "led period" 0.0 1.0 1000.0 "us"))) ∧
    (∃ handle raw payload, Response.Formed raw payload ∧
      Program.history Bench.answer (s.toggleLed 0).run b = ledReading 0 handle raw) ∧
    b.Untouched (b.run (s.toggleLed 0)).2 := by
  intro s l b unfit
  have found (o : Operation) (cause : RangeFault) (refused : s.precheck o = .error (.range cause)) :
      Program.history Bench.answer (s.perform o).run b = [] ∧ b.Untouched (b.run (s.perform o)).2 := by
    obtain ⟨-, checked, same⟩ := range_found_first s o
    obtain ⟨unasked, ran⟩ := checked _ refused Bench Bench.answer b
    exact ⟨unasked, same b cause (congrArg Prod.fst ran)⟩
  have toggled : (b.run (s.toggleLed 0)).1 = some (.error (.range (.quantity "led period" 0.0 1.0 1000.0 "us"))) := by
    have hosts : b.Hosts l := ⟨rfl, rfl, .registers _ 0 _ (.make 1), ⟨rfl, rfl⟩⟩
    have dark : s.calibration.periodMicros 0 = 0.0 := by decide +kernel
    obtain ⟨m, plays, -⟩ := l.read_led_plays s hosts.reached hosts.quiet 0 (by decide)
    obtain ⟨c, -, -, read⟩ := plays b hosts
    have came : b.run (s.readLed 0) = _ := read
    rw [toggleLed, b.run_bind, came]
    have refused : precheck ⟨.standard, []⟩ (.setLed 0 1 (s.calibration.periodMicros 0) (s.calibration.widthNanos 10)) =
        .error (.range (.quantity "led period" 0.0 1.0 1000.0 "us")) := by
      rw [dark]
      rfl
    exact congrArg (fun p => (Program.run Bench.answer p c).1) (s.prechecked _ _ refused)
  obtain ⟨before, -, same⟩ := range_found_first s (.toggleLed 0)
  refine ⟨?_, toggled, (before Bench Bench.answer b _ toggled).1, same b _ toggled⟩
  have width : precheck ⟨.standard, []⟩ (.setLed 0 1 100.0 5000.0) =
      .error (.range (.quantity "led width" 5000.0 10.0 1000.0 "ns")) := by rfl
  have flag : precheck ⟨.standard, []⟩ (.setLed 0 2 100.0 50.0) = .error (.range (.ledEnable 2)) := by rfl
  have volts : precheck ⟨.standard, []⟩ (.setVolts 0 (0.0 / 0.0)) =
      .error (.range (.highVoltage (0.0 / 0.0) 0.0 1500.0 false "V")) := by rfl
  have renamed : precheck ⟨.standard, []⟩ (.writeValue 0 "set_voltage" (1.0 / 0.0)) =
      .error (.range (.highVoltage (1.0 / 0.0) 0.0 1500.0 false "V")) := by rfl
  have last : precheck ⟨.standard, []⟩ (.raw 0 0xC0 [⟨.word, 6⟩, ⟨.byte, 0⟩, ⟨.byte, 256⟩] 11) =
      .error (.range (.argument .byte 256)) := by rfl
  simp only [unfit, List.forall_mem_cons]
  exact ⟨⟨_, width, found _ _ width⟩, ⟨_, flag, found _ _ flag⟩, ⟨_, volts, found _ _ volts⟩,
    ⟨_, renamed, found _ _ renamed⟩, ⟨_, last, found _ _ last⟩, List.forall_mem_nil _⟩

end Session
end PulseAnalyzer
