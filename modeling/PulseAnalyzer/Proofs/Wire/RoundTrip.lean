import PulseAnalyzer.Proofs.Device.Appending

set_option autoImplicit false

namespace PulseAnalyzer

theorem decode_encode (opcode : UInt8) (bytes : Bytes) :
    Frame.decode? (Frame.encode (opcode :: bytes)) = some (opcode, bytes) := by
  have last : (bytes ++ [checksum (opcode :: bytes)]).getLast? = some (checksum (opcode :: bytes)) :=
    List.getLast?_concat
  have before : (bytes ++ [checksum (opcode :: bytes)]).dropLast = bytes := List.dropLast_concat
  simp only [Frame.encode, Frame.decode?, List.cons_append, last, before, and_self, if_true]

theorem decode_eq_some_iff (frame : Bytes) (opcode : UInt8) (bytes : Bytes) :
    Frame.decode? frame = some (opcode, bytes) ↔ frame = Frame.encode (opcode :: bytes) := by
  constructor
  · intro decoded
    unfold Frame.decode? at decoded
    split at decoded
    · rename_i marker op rest
      split at decoded
      · cases decoded
      · rename_i last ends
        split at decoded
        · rename_i sound
          obtain ⟨rfl, summed⟩ := sound
          obtain ⟨body, rfl⟩ := List.getLast?_eq_some_iff.mp ends
          rw [List.dropLast_concat] at decoded summed
          cases decoded
          rw [Frame.encode, summed]
          rfl
        · cases decoded
    · cases decoded
  · rintro rfl
    exact decode_encode opcode bytes

def ArgumentKind.width : ArgumentKind → Nat
  | .byte => 1
  | .word => 2

def totalWidth : List ArgumentKind → Nat
  | [] => 0
  | kind :: rest => kind.width + totalWidth rest

def ArgumentKind.valueAt (bytes : Bytes) (offset : Nat) : ArgumentKind → Except Fault Nat
  | .byte => (Response.byteAt bytes offset).map UInt8.toNat
  | .word => (Response.wordAt bytes offset).map UInt16.toNat

def valuesAt (bytes : Bytes) (offset : Nat) : List ArgumentKind → Except Fault (List Nat)
  | [] => .ok []
  | kind :: rest => do
    let value ← kind.valueAt bytes offset
    return value :: (← valuesAt bytes (offset + kind.width) rest)

namespace Argument

-- The value in little-endian digits, as many as the kind is wide.
theorem bytes_digits (a : Argument) (fits : a.Fits) :
    a.bytes.map UInt8.toNat = match a.kind with
      | .byte => [a.value]
      | .word => [a.value % 256, a.value / 256] := by
  obtain ⟨kind, value⟩ := a
  cases kind with
  | byte =>
      have small : value ≤ 255 := fits
      simp only [bytes, List.map_cons, List.map_nil, UInt8.toNat_ofNat']
      rw [Nat.mod_eq_of_lt (by omega)]
  | word =>
      have small : value ≤ 65535 := fits
      simp only [bytes, wordBytes, List.map_cons, List.map_nil, UInt8.toNat_ofNat', UInt16.toNat_ofNat']
      rw [Nat.mod_eq_of_lt (a := value) (by omega), Nat.mod_eq_of_lt (a := value / 256) (by omega)]

theorem bytes_length (a : Argument) : a.bytes.length = a.kind.width := by
  obtain ⟨kind, value⟩ := a
  cases kind <;> rfl

theorem value_at_bytes (a : Argument) (fits : a.Fits) (before after : Bytes) :
    a.kind.valueAt (before ++ (a.bytes ++ after)) before.length = .ok a.value := by
  have digits := bytes_digits a fits
  obtain ⟨kind, value⟩ := a
  cases kind with
  | byte =>
      have low : (UInt8.ofNat value).toNat = value := (List.cons.inj digits).1
      simp only [ArgumentKind.valueAt, Response.byteAt, List.drop_left, bytes, List.cons_append]
      exact congrArg Except.ok low
  | word =>
      have small : value ≤ 65535 := fits
      have low : (UInt8.ofNat (UInt16.ofNat value).toNat).toNat = value % 256 := (List.cons.inj digits).1
      have high : (UInt8.ofNat ((UInt16.ofNat value).toNat / 256)).toNat = value / 256 :=
        (List.cons.inj (List.cons.inj digits).2).1
      simp only [ArgumentKind.valueAt, Response.wordAt, List.drop_left, bytes, wordBytes, List.cons_append, low, high]
      refine congrArg Except.ok ?_
      rw [Nat.mod_add_div, UInt16.toNat_ofNat', Nat.mod_eq_of_lt (by omega)]

end Argument

theorem values_at_bytes (arguments : List Argument) (fit : ∀ a ∈ arguments, a.Fits) (before after : Bytes) :
    valuesAt (before ++ (arguments.flatMap Argument.bytes ++ after)) before.length
      (arguments.map Argument.kind) = .ok (arguments.map Argument.value) := by
  induction arguments generalizing before with
  | nil => rfl
  | cons a rest ih =>
      have value := a.value_at_bytes (fit a List.mem_cons_self) before (rest.flatMap Argument.bytes ++ after)
      have others := ih (fun b member => fit b (List.mem_cons_of_mem a member)) (before ++ a.bytes)
      rw [List.length_append, a.bytes_length, List.append_assoc] at others
      rw [List.flatMap_cons, List.append_assoc]
      simp only [List.map_cons, valuesAt, value, others]
      rfl

theorem arguments_length (arguments : List Argument) :
    (arguments.flatMap Argument.bytes).length = totalWidth (arguments.map Argument.kind) := by
  induction arguments with
  | nil => rfl
  | cons a rest ih => rw [List.flatMap_cons, List.length_append, a.bytes_length, ih, List.map_cons, totalWidth]

theorem arguments_eq (arguments others : List Argument)
    (kinds : arguments.map Argument.kind = others.map Argument.kind)
    (values : arguments.map Argument.value = others.map Argument.value) : arguments = others := by
  induction arguments generalizing others with
  | nil => exact (List.map_eq_nil_iff.mp kinds.symm).symm
  | cons a rest ih =>
      cases others with
      | nil => cases kinds
      | cons b later =>
          obtain ⟨kind, kinds⟩ := List.cons.inj kinds
          obtain ⟨value, values⟩ := List.cons.inj values
          have same : a = b := by
            cases a
            cases b
            simp_all
          rw [ih later kinds values, same]

namespace Command

theorem collected_frame (device : Nat) (opcode : UInt8) (arguments : List Argument) (c : Command)
    (collected : (start device opcode).appendAll arguments = .ok c) :
    c.finalize.bytes = Frame.encode (opcode :: arguments.flatMap Argument.bytes) := by
  obtain ⟨-, rfl⟩ := (append_all_ok_iff (start device opcode) c arguments rfl).mp collected
  rw [finalize_building _ rfl]
  rfl

theorem frame_round_trip (device : Nat) (opcode : UInt8) (arguments : List Argument)
    (fit : ∀ a ∈ arguments, a.Fits) :
    (∀ (frame : Bytes) (op : UInt8) (bytes : Bytes), Frame.decode? frame = some (op, bytes) ↔
      frame = 0x1B :: op :: (bytes ++ [checksum (op :: bytes)])) ∧
    ∃ c, (start device opcode).appendAll arguments = .ok c ∧
      Frame.decode? c.finalize.bytes = some (opcode, arguments.flatMap Argument.bytes) ∧
      (arguments.flatMap Argument.bytes).length = totalWidth (arguments.map Argument.kind) ∧
      valuesAt (arguments.flatMap Argument.bytes) 0 (arguments.map Argument.kind) =
        .ok (arguments.map Argument.value) ∧
      ∀ (other : Nat) (op : UInt8) (others : List Argument) (d : Command),
        (start other op).appendAll others = .ok d → others.map Argument.kind = arguments.map Argument.kind →
        d.finalize.bytes = c.finalize.bytes → op = opcode ∧ others = arguments := by
  have collected := (append_all_ok_iff (start device opcode) _ arguments rfl).mpr ⟨fit, rfl⟩
  have decoded : Frame.decode? _ = some (opcode, arguments.flatMap Argument.bytes) :=
    (decode_eq_some_iff _ _ _).mpr (collected_frame device opcode arguments _ collected)
  have cut := values_at_bytes arguments fit [] []
  rw [List.nil_append, List.append_nil, List.length_nil] at cut
  refine ⟨decode_eq_some_iff, _, collected, decoded, arguments_length arguments, cut, ?_⟩
  intro other op others d appended kinds same
  have twin : Frame.decode? d.finalize.bytes = some (op, others.flatMap Argument.bytes) :=
    (decode_eq_some_iff _ _ _).mpr (collected_frame other op others d appended)
  rw [same, decoded] at twin
  obtain ⟨rfl, bytes⟩ := Prod.mk.inj (Option.some.inj twin)
  obtain ⟨fits, -⟩ := (append_all_ok_iff (start other opcode) d others rfl).mp appended
  have again := values_at_bytes others fits [] []
  rw [List.nil_append, List.append_nil, List.length_nil, ← bytes, kinds, cut] at again
  exact ⟨rfl, arguments_eq others arguments kinds (Except.ok.inj again).symm⟩

theorem word_and_byte_round_trip :
    let arguments : List Argument := [⟨.word, 0x1234⟩, ⟨.byte, 255⟩]
    (∀ a ∈ arguments, a.Fits) ∧
    ∃ c, (start 3 0x40).appendAll arguments = .ok c ∧
      c.finalize.bytes = [0x1B, 0x40, 0x34, 0x12, 0xFF, 0x99] ∧
      Frame.decode? c.finalize.bytes = some (0x40, [0x34, 0x12, 0xFF]) ∧
      valuesAt [0x34, 0x12, 0xFF] 0 [.word, .byte] = .ok [0x1234, 255] := by
  have fit : ∀ a ∈ [(⟨.word, 0x1234⟩ : Argument), ⟨.byte, 255⟩], a.Fits := by decide
  obtain ⟨-, c, collected, decoded, -, values, -⟩ := frame_round_trip 3 0x40 _ fit
  cases collected
  exact ⟨fit, _, rfl, by decide, decoded, values⟩

end Command
end PulseAnalyzer
