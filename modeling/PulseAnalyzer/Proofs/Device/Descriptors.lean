import PulseAnalyzer.Device.Descriptor

set_option autoImplicit false

namespace PulseAnalyzer

namespace Board

theorem decode_short (raw : Bytes) (short : raw.length < size) : decode raw = .error (.length 26 raw.length) := by
  unfold decode
  split
  · simp only [size, List.length_cons] at short
    omega
  · rfl

theorem decode_whole (raw : Bytes) (whole : size ≤ raw.length) :
    ∃ board, decode raw = .ok board ∧ board.bytes = raw.take size := by
  have counted : (raw.take 26).length = 26 := List.length_take_of_le whole
  rw [← List.take_append_drop 26 raw]
  generalize raw.drop 26 = rest
  match raw.take 26, counted with
  | [b0, b1, b2, b3, b4, b5, b6, b7, b8, b9, b10, b11, b12, b13, b14, b15, b16, b17, b18, b19, b20, b21, b22, b23, b24,
      b25], _ => exact ⟨_, rfl, rfl⟩

theorem decode_cases (raw : Bytes) :
    (raw.length < size ∧ decode raw = .error (.length 26 raw.length)) ∨
    (size ≤ raw.length ∧ ∃ board, decode raw = .ok board) := by
  by_cases short : raw.length < size
  · exact .inl ⟨short, decode_short raw short⟩
  · obtain ⟨board, decoded, -⟩ := decode_whole raw (Nat.le_of_not_lt short)
    exact .inr ⟨Nat.le_of_not_lt short, board, decoded⟩

end Board

namespace SerialNumber

theorem decode_cases (raw : Bytes) :
    (raw.length < size ∧ decode raw = .error (.length 17 raw.length)) ∨
    (size ≤ raw.length ∧ ∃ serial, decode raw = .ok serial) := by
  by_cases short : raw.length < size
  · exact .inl ⟨short, if_pos short⟩
  · exact .inr ⟨Nat.le_of_not_lt short, _, if_neg short⟩

end SerialNumber
end PulseAnalyzer
