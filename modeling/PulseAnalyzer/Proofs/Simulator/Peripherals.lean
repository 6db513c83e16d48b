import PulseAnalyzer.Proofs.Simulator.Exchange
import PulseAnalyzer.Proofs.Wire.ResponseSize

set_option autoImplicit false

namespace PulseAnalyzer

theorem word_of_bytes (w : UInt16) :
    UInt16.ofNat ((UInt8.ofNat w.toNat).toNat + 256 * (UInt8.ofNat (w.toNat / 256)).toNat) = w := by
  have small := w.toNat_lt
  have digits : w.toNat % 256 + 256 * (w.toNat / 256 % 256) = w.toNat := by omega
  rw [UInt8.toNat_ofNat', UInt8.toNat_ofNat', digits, UInt16.ofNat_toNat]

theorem big_endian_word (w : UInt16) :
    Response.bigEndian [UInt8.ofNat (w.toNat / 256), UInt8.ofNat w.toNat] = .ok w.toNat := by
  have small := w.toNat_lt
  have digits : w.toNat / 256 % 256 * 256 + w.toNat % 256 = w.toNat := by omega
  simp [Response.bigEndian, digits]

namespace Registers

def voltsPayload (r : Registers) : Bytes := [0, UInt8.ofNat (r.hvAdc.toNat / 256), UInt8.ofNat r.hvAdc.toNat]

def temperaturePayload (r : Registers) : Bytes := [0, r.tempBase, r.tempFraction]

def ledPayload (r : Registers) : Bytes :=
  [0, if r.ledEnabled then 1 else 0, UInt8.ofNat r.ledPeriod.toNat, UInt8.ofNat (r.ledPeriod.toNat / 256),
    UInt8.ofNat r.ledWidth.toNat, UInt8.ofNat (r.ledWidth.toNat / 256)]

def ledStatus (r : Registers) (s : Session) : LedStatus :=
  ⟨0, r.ledEnabled, s.calibration.periodMicros r.ledPeriod, s.calibration.widthNanos r.ledWidth⟩

theorem led_of_payload (r : Registers) (s : Session) : s.ledOf r.ledPayload = .ok (r.ledStatus s) := by
  have enabled : decide ((if r.ledEnabled then (1 : UInt8) else 0) ≠ 0) = r.ledEnabled := by
    cases r.ledEnabled <;> rfl
  have period := word_of_bytes r.ledPeriod
  have width := word_of_bytes r.ledWidth
  change Except.ok (⟨0, _, s.calibration.periodMicros _, s.calibration.widthNanos _⟩ : LedStatus) = _
  rw [enabled, period, width, ledStatus]

end Registers

namespace SimulatedLink

theorem resize_self (bytes : Bytes) : resize bytes bytes.length = bytes := by
  simp [resize]

theorem response_whole (r : Registers) (opcode : UInt8) (arguments wire : Bytes)
    (served : r.payload opcode arguments = wire) :
    resize (r.response opcode arguments) (Response.size wire.length) = Response.encode opcode wire := by
  rw [Registers.response, served, ← Response.encode_length opcode wire, resize_self]

theorem payload_encoded (opcode : UInt8) (wire : Bytes) (small : wire.length ≤ 255) :
    Response.payload (Response.encode opcode wire) = .ok wire := by
  rw [Response.payload_encode, if_pos small]

def answered (device n : Nat) (opcode : UInt8) (arguments : Bytes) (sends : Nat) (wire : Bytes) : List Event :=
  ⟨.link (.acquire device), .ok ⟨n⟩⟩ ::
    (Command.writing ⟨n⟩ (Frame.encode (opcode :: arguments)) (List.replicate sends (.ok ())) ++
      [⟨.link (.read ⟨n⟩ Link.tunnel (Response.size wire.length)), .ok (Response.encode opcode wire)⟩,
        ⟨.link (.release ⟨n⟩), .ok ()⟩])

theorem decoded_plays {α : Type} (l m : SimulatedLink) (p : Procedure Bytes) (f : Bytes → Procedure α)
    (events : List Event) (wire : Bytes) (value : Except Fault α) (plays : l.Plays p.run events (.ok wire) m)
    (decodes : (f wire).run = .done value) : l.Plays (p >>= f).run events value m := by
  have rest := plays_done m value
  rw [← decodes] at rest
  rw [← List.append_nil events]
  exact plays_ok_bind l m m p f events [] wire value plays rest

section readings
variable (s : Session) (l : SimulatedLink) (reached : l.Reached) (quiet : l.Quiet) (device : Nat) (known : device < l.devices)
include reached quiet known

theorem request_answered (opcode : UInt8) (arguments : List Argument) (fit : ∀ a ∈ arguments, a.Fits) (again : Nat)
    (r : Registers) (after : (l.registersOf device).after opcode (arguments.flatMap Argument.bytes) = r) (wire : Bytes)
    (served : r.payload opcode (arguments.flatMap Argument.bytes) = wire) (small : wire.length ≤ 255) :
    ∃ m, l.Plays (Session.request device opcode arguments (again + 1) (Response.size wire.length)).run
        (answered device l.nextHandle opcode (arguments.flatMap Argument.bytes) (again + 1) wire) (.ok wire) m ∧
      Exchanged l m device r := by
  obtain ⟨m, plays, exchanged⟩ :=
    request_plays l reached quiet device known opcode arguments fit again (Response.size wire.length)
  rw [exchange, after, response_whole r opcode _ wire served, payload_encoded opcode wire small] at plays
  rw [after] at exchanged
  exact ⟨m, plays, exchanged⟩

theorem read_volts_plays :
    let r := l.registersOf device
    ∃ m, l.Plays (s.readVolts device).run (answered device l.nextHandle 0x40 [4, 0, 0, 0x29, 0, 2] 2 r.voltsPayload)
        (.ok (s.calibration.monitorVolts r.hvAdc.toNat)) m ∧ Exchanged l m device r := by
  intro r
  obtain ⟨m, plays, exchanged⟩ := request_answered l reached quiet device known opcodeVolts
    [Session.wordArg 4, Session.byteArg 0, Session.byteArg 0x29, Session.byteArg 0, Session.byteArg 2]
    (by decide) 1 r rfl r.voltsPayload rfl (by simp [Registers.voltsPayload])
  refine ⟨m, decoded_plays l m _ _ _ _ _ plays ?_, exchanged⟩
  have told : Response.bigEndian (r.voltsPayload.drop 1) = .ok r.hvAdc.toNat := big_endian_word r.hvAdc
  rw [told]
  rfl

theorem read_temperature_plays :
    let r := l.registersOf device
    ∃ m, l.Plays (Session.readTemperature device).run (answered device l.nextHandle 0x41 [0, 0] 1 r.temperaturePayload)
        (.ok (decodeTemperature r.tempBase r.tempFraction)) m ∧ Exchanged l m device r := by
  intro r
  obtain ⟨m, plays, exchanged⟩ := request_answered l reached quiet device known opcodeTemperature [Session.wordArg 0]
    (by decide) 0 r rfl r.temperaturePayload rfl (by simp [Registers.temperaturePayload])
  exact ⟨m, decoded_plays l m _ _ _ _ _ plays rfl, exchanged⟩

theorem read_led_plays :
    let r := l.registersOf device
    ∃ m, l.Plays (s.readLed device).run (answered device l.nextHandle 0xC0 [1, 0, 1] 1 r.ledPayload)
        (.ok (r.ledStatus s)) m ∧ Exchanged l m device r := by
  intro r
  obtain ⟨m, plays, exchanged⟩ := request_answered l reached quiet device known opcodeLed
    [Session.wordArg 1, Session.byteArg 1] (by decide) 0 r rfl r.ledPayload rfl (by simp [Registers.ledPayload])
  exact ⟨m, decoded_plays l m _ _ _ _ _ plays (congrArg Program.done (r.led_of_payload s)), exchanged⟩

end readings
end SimulatedLink

-- A procedure that tells a value of a device and leaves its link as it was.
structure Bench.Reports {α : Type} (b : Bench) (l : SimulatedLink) (p : Procedure α) (events : List Event) (value : α) :
    Prop where
  shown : Program.history Bench.answer p.run b = events
  settled : ∃ c m, b.run p = (some (.ok value), c) ∧ c.Hosts m ∧
    (∀ device, m.registersOf device = l.registersOf device) ∧ m.handles = l.handles ∧ m.pending = l.pending

theorem plays_reports {α : Type} (b : Bench) (l m : SimulatedLink) (hosts : b.Hosts l) (p : Procedure α)
    (events : List Event) (value : α) (plays : l.Plays p.run events (.ok value) m) (channel : Nat)
    (exchanged : l.Exchanged m channel (l.registersOf channel)) : b.Reports l p events value := by
  obtain ⟨c, hosted, shown, ran⟩ := plays b hosts
  refine ⟨shown, c, m, ran, hosted, ?_, exchanged.handles, exchanged.pending⟩
  intro device
  by_cases same : device = channel
  · rw [same]
    exact exchanged.own
  · exact exchanged.others device same

theorem peripherals_reported (s : Session) (b : Bench) (l : SimulatedLink) (hosts : b.Hosts l) (channel : Nat)
    (known : channel < l.devices) :
    let r := l.registersOf channel
    let n := l.nextHandle
    b.Reports l (s.readVolts channel) (SimulatedLink.answered channel n 0x40 [4, 0, 0, 0x29, 0, 2] 2 r.voltsPayload)
      (s.calibration.monitorVolts r.hvAdc.toNat) ∧
    b.Reports l (Session.readTemperature channel) (SimulatedLink.answered channel n 0x41 [0, 0] 1 r.temperaturePayload)
      (decodeTemperature r.tempBase r.tempFraction) ∧
    b.Reports l (s.readLed channel) (SimulatedLink.answered channel n 0xC0 [1, 0, 1] 1 r.ledPayload)
      ⟨0, r.ledEnabled, s.calibration.periodMicros r.ledPeriod, s.calibration.widthNanos r.ledWidth⟩ := by
  intro r n
  obtain ⟨m, volts, same⟩ := l.read_volts_plays s hosts.reached hosts.quiet channel known
  obtain ⟨d, temperature, unchanged⟩ := l.read_temperature_plays hosts.reached hosts.quiet channel known
  obtain ⟨k, led, kept⟩ := l.read_led_plays s hosts.reached hosts.quiet channel known
  exact ⟨plays_reports b l _ hosts _ _ _ volts channel same,
    plays_reports b l _ hosts _ _ _ temperature channel unchanged, plays_reports b l _ hosts _ _ _ led channel kept⟩

theorem second_device_reported :
    let l := (SimulatedLink.make 2).setRegisters 1 ⟨0xABCD, 25, 0xA0, true, 0x1234, 0x0102⟩
    let b := Bench.make (.make 2 0) (.simulated l)
    let s : Session := ⟨.standard, []⟩
    b.Hosts l ∧ 1 < l.devices ∧
    b.Reports l (s.readVolts 1) (SimulatedLink.answered 1 1 0x40 [4, 0, 0, 0x29, 0, 2] 2 [0, 0xAB, 0xCD])
      (s.calibration.monitorVolts 0xABCD) ∧
    b.Reports l (Session.readTemperature 1) (SimulatedLink.answered 1 1 0x41 [0, 0] 1 [0, 25, 0xA0])
      (decodeTemperature 25 0xA0) ∧
    b.Reports l (s.readLed 1) (SimulatedLink.answered 1 1 0xC0 [1, 0, 1] 1 [0, 1, 0x34, 0x12, 0x02, 0x01])
      ⟨0, true, s.calibration.periodMicros 0x1234, s.calibration.widthNanos 0x0102⟩ := by
  intro l b s
  have hosts : b.Hosts l := ⟨rfl, rfl, .registers _ _ _ (.make 2), ⟨rfl, rfl⟩⟩
  have known : 1 < l.devices := by decide
  have volts : (l.registersOf 1).voltsPayload = [0, 0xAB, 0xCD] := by decide
  have led : (l.registersOf 1).ledPayload = [0, 1, 0x34, 0x12, 0x02, 0x01] := by decide
  rw [← volts, ← led]
  exact ⟨hosts, known, peripherals_reported s b l hosts 1 known⟩

end PulseAnalyzer
