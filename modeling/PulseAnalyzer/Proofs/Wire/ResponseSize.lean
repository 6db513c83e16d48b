import PulseAnalyzer.Proofs.Wire.ResponseFormat

set_option autoImplicit false

namespace PulseAnalyzer

theorem checksum_append (a b : Bytes) : checksum (a ++ b) = b.foldl (· ^^^ ·) (checksum a) := List.foldl_append

theorem checksum_zeros (sum : UInt8) (k : Nat) : (List.replicate k (0 : UInt8)).foldl (· ^^^ ·) sum = sum := by
  induction k with
  | zero => rfl
  | succ k ih => rw [List.replicate_succ, List.foldl_cons, UInt8.xor_zero, ih]

theorem checksum_summed (bytes : Bytes) (k : Nat) : checksum (bytes ++ checksum bytes :: List.replicate k 0) = 0 := by
  rw [checksum_append, List.foldl_cons, UInt8.xor_self, checksum_zeros]

inductive Misread : Fault → Prop where
  | checksum (computed expected : UInt8) : Misread (.checksum computed expected)
  | length (declared : UInt8) (actual : Nat) : Misread (.length declared actual)

namespace Response

theorem refusal_misread (raw : Bytes) : Misread (refusal raw) := by
  unfold refusal
  dsimp only
  split
  · exact .length _ _
  · split
    · exact .checksum _ _
    · exact .length _ _

theorem formed_length (raw p : Bytes) (formed : Formed raw p) : raw.length = (declared raw).toNat + 5 := by
  obtain ⟨small, marker, status, reserved, sum, rfl, -⟩ := formed
  have counted : (UInt8.ofNat p.length).toNat = p.length := (length_byte _ _).mpr ⟨small, rfl⟩
  simp [declared, counted]

theorem encode_length (status : UInt8) (p : Bytes) : (encode status p).length = size p.length := by
  simp [encode, size, overhead]

theorem payload_padded (status : UInt8) (p : Bytes) (k : Nat) :
    payload (encode status p ++ List.replicate (k + 1) 0) =
      .error (.length (UInt8.ofNat p.length) (p.length + (k + 1))) := by
  let summed := checksum (status :: UInt8.ofNat p.length :: 0 :: p)
  have parts : encode status p ++ List.replicate (k + 1) 0 = frameMarker :: status :: UInt8.ofNat p.length :: 0 ::
      ((p ++ summed :: List.replicate k 0) ++ [0]) := by
    simp [encode, summed, List.replicate_succ']
  have cancelled : checksum (status :: UInt8.ofNat p.length :: 0 :: (p ++ summed :: List.replicate k 0)) = 0 :=
    checksum_summed (status :: UInt8.ofNat p.length :: 0 :: p) k
  have longer : (p ++ summed :: List.replicate k 0).length = p.length + (k + 1) := by simp
  have declares : (UInt8.ofNat p.length).toNat ≤ p.length := by
    rw [UInt8.toNat_ofNat']
    exact Nat.mod_le _ _
  rw [parts, payload_parts, cancelled, if_neg (Decidable.not_not.mpr rfl), longer, if_pos (by omega)]

-- The length byte is left when a response is cut, and tells another length than is left.
theorem payload_cut (status : UInt8) (p : Bytes) (small : p.length ≤ 255) (n : Nat) (cut : n < size p.length) :
    payload ((encode status p).take n) = .error (refusal ((encode status p).take n)) := by
  refine payload_refused _ ?_
  rintro ⟨q, formed⟩
  have told := formed_length _ q formed
  have shorter : ((encode status p).take n).length = n := by
    rw [List.length_take, encode_length]
    exact Nat.min_eq_left (Nat.le_of_lt cut)
  have kept : declared ((encode status p).take n) = UInt8.ofNat p.length := by
    obtain ⟨more, rfl⟩ := Nat.exists_eq_add_of_le' (show 3 ≤ n by omega)
    rfl
  have counted : (UInt8.ofNat p.length).toNat = p.length := (length_byte _ _).mpr ⟨small, rfl⟩
  rw [shorter, kept, counted] at told
  exact absurd cut (Nat.not_lt.mpr (Nat.le_of_eq told.symm))

theorem payload_stub (status : UInt8) (p : Bytes) (n : Nat) (stub : n < 5) :
    payload ((encode status p).take n) = .error (.length (if n < 3 then 0 else UInt8.ofNat p.length) 0) := by
  have shorter : ((encode status p).take n).length < 5 := by
    rw [List.length_take]
    omega
  rw [payload_short _ shorter]
  match n with
  | 0 | 1 | 2 | 3 | 4 => rfl
  | _ + 5 => omega

end Response
end PulseAnalyzer
