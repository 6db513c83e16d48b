import PulseAnalyzer.Proofs.Simulator.Peripherals

set_option autoImplicit false

namespace PulseAnalyzer

def SimulatedLink.told (l : SimulatedLink) (device : Nat) (opcode : UInt8) (arguments : Bytes) : Bytes :=
  if opcode = 0x40 then (l.registersOf device).voltsPayload
  else if opcode = 0x41 then (l.registersOf device).temperaturePayload
  else if opcode = 0xC0 then ((l.registersOf device).program arguments).ledPayload
  else arguments

namespace SimulatedLink

theorem told_payload (l : SimulatedLink) (device : Nat) (opcode : UInt8) (arguments : Bytes) :
    ((l.registersOf device).after opcode arguments).payload opcode arguments = l.told device opcode arguments := by
  unfold told Registers.payload Registers.after opcodeVolts opcodeTemperature opcodeLed
  by_cases volts : opcode = 0x40
  · subst volts
    rfl
  by_cases temperature : opcode = 0x41
  · subst temperature
    rfl
  by_cases led : opcode = 0xC0
  · subst led
    rfl
  · rw [if_neg volts, if_neg temperature, if_neg led, if_neg volts, if_neg temperature, if_neg led]

theorem resize_shorter (bytes : Bytes) (size : Nat) (short : size ≤ bytes.length) : resize bytes size = bytes.take size := by
  rw [resize, Nat.sub_eq_zero_of_le short, List.replicate_zero, List.append_nil]

theorem resize_longer (bytes : Bytes) (k : Nat) : resize bytes (bytes.length + k) = bytes ++ List.replicate k 0 := by
  rw [resize, List.take_of_length_le (Nat.le_add_right _ k), Nat.add_sub_cancel_left]

theorem sized_payload (status : UInt8) (wire : Bytes) (small : wire.length ≤ 255) (size : Nat) :
    let read := Response.payload (resize (Response.encode status wire) size)
    (size = wire.length + 5 → read = .ok wire) ∧
    (size ≠ wire.length + 5 → ∃ fault, read = .error fault ∧ Misread fault) ∧
    (size < 5 → read = .error (.length (if size < 3 then 0 else UInt8.ofNat wire.length) 0)) ∧
    (wire.length + 5 < size → read = .error (.length (UInt8.ofNat wire.length) (size - 5))) := by
  intro read
  have whole : (Response.encode status wire).length = wire.length + 5 := Response.encode_length status wire
  rcases Nat.lt_trichotomy size (wire.length + 5) with cut | rfl | padded
  · have taken : read = Response.payload ((Response.encode status wire).take size) :=
      congrArg Response.payload (resize_shorter _ size (whole ▸ Nat.le_of_lt cut))
    refine ⟨by omega, fun _ => ?_, fun stub => taken.trans (Response.payload_stub status wire size stub), by omega⟩
    exact ⟨_, taken.trans (Response.payload_cut status wire small size cut), Response.refusal_misread _⟩
  · have accepted : read = .ok wire := by
      have same := resize_self (Response.encode status wire)
      rw [whole] at same
      exact (congrArg Response.payload same).trans (payload_encoded status wire small)
    exact ⟨fun _ => accepted, absurd rfl, by omega, by omega⟩
  · obtain ⟨more, rfl⟩ := Nat.exists_eq_add_of_lt padded
    have refused : read = .error (.length (UInt8.ofNat wire.length) (wire.length + (more + 1))) := by
      have zeros := resize_longer (Response.encode status wire) (more + 1)
      rw [whole] at zeros
      exact (congrArg Response.payload zeros).trans (Response.payload_padded status wire more)
    have left : wire.length + 5 + more + 1 - 5 = wire.length + (more + 1) := by omega
    rw [left]
    exact ⟨by omega, fun _ => ⟨_, refused, .length _ _⟩, by omega, fun _ => refused⟩

end SimulatedLink

theorem raw_answered_in_size (b : Bench) (l : SimulatedLink) (hosts : b.Hosts l) (channel : Nat)
    (known : channel < l.devices) (opcode : UInt8) (arguments : List Argument) (fit : ∀ a ∈ arguments, a.Fits)
    (small : (l.told channel opcode (arguments.flatMap Argument.bytes)).length ≤ 255) (size : Nat) :
    let wire := l.told channel opcode (arguments.flatMap Argument.bytes)
    let reply := (b.run (Session.raw channel opcode arguments size)).1
    (size = wire.length + 5 → reply = some (.ok wire)) ∧
    (size ≠ wire.length + 5 → ∃ fault, reply = some (.error fault) ∧ Misread fault) ∧
    (size < 5 → reply = some (.error (.length (if size < 3 then 0 else UInt8.ofNat wire.length) 0))) ∧
    (wire.length + 5 < size → reply = some (.error (.length (UInt8.ofNat wire.length) (size - 5)))) := by
  intro wire reply
  obtain ⟨m, plays, -⟩ :=
    l.request_plays hosts.reached hosts.quiet channel known opcode arguments fit 0 size
  obtain ⟨c, -, -, ran⟩ := plays b hosts
  have read : reply = some (Response.payload (SimulatedLink.resize (Response.encode opcode wire) size)) := by
    rw [Registers.response, l.told_payload] at ran
    exact congrArg Prod.fst ran
  rw [read]
  obtain ⟨exactly, refused, stub, padded⟩ := SimulatedLink.sized_payload opcode wire small size
  refine ⟨fun fits => congrArg some (exactly fits), fun differs => ?_, fun short => congrArg some (stub short),
    fun long => congrArg some (padded long)⟩
  obtain ⟨fault, same, misread⟩ := refused differs
  exact ⟨fault, congrArg some same, misread⟩

-- The pulser is set by a raw command, with sizes that are too small, right and too large.
theorem raw_pulser_answered_in_size :
    let l := (SimulatedLink.make 2).setRegisters 1 ⟨0xABCD, 25, 0xA0, true, 0x1234, 0x0102⟩
    let b := Bench.make (.make 2 0) (.simulated l)
    let arguments : List Argument := [⟨.word, 6⟩, ⟨.byte, 0⟩, ⟨.byte, 0⟩, ⟨.word, 0x0201⟩, ⟨.word, 0x0403⟩]
    let wire := l.told 1 0xC0 (arguments.flatMap Argument.bytes)
    let reply := fun size => (b.run (Session.raw 1 0xC0 arguments size)).1
    b.Hosts l ∧ 1 < l.devices ∧ (∀ a ∈ arguments, a.Fits) ∧ wire.length ≤ 255 ∧
    reply 11 = some (.ok [0, 0, 1, 2, 3, 4]) ∧ (∃ fault, reply 10 = some (.error fault) ∧ Misread fault) ∧
    reply 3 = some (.error (.length 6 0)) ∧ reply 12 = some (.error (.length 6 7)) := by
  intro l b arguments wire reply
  have hosts : b.Hosts l := ⟨rfl, rfl, .registers _ _ _ (.make 2), ⟨rfl, rfl⟩⟩
  have known : 1 < l.devices := by decide
  have fit : ∀ a ∈ arguments, a.Fits := by decide
  have told : wire = [0, 0, 1, 2, 3, 4] := by decide
  have small : wire.length ≤ 255 := by
    rw [told]
    decide
  have sized := raw_answered_in_size b l hosts 1 known 0xC0 arguments fit small
  obtain ⟨accepted, -⟩ := sized 11
  obtain ⟨-, refused, -⟩ := sized 10
  obtain ⟨-, -, stub, -⟩ := sized 3
  obtain ⟨-, -, -, padded⟩ := sized 12
  have count : wire.length = 6 := congrArg List.length told
  refine ⟨hosts, known, fit, small, told ▸ accepted (by rw [count]), refused (by rw [count]; decide), ?_, ?_⟩
  · exact (stub (by decide)).trans (by rw [count]; rfl)
  · exact (padded (by rw [count]; decide)).trans (by rw [count]; rfl)

end PulseAnalyzer
