import PulseAnalyzer.Wire.Response

set_option autoImplicit false

namespace PulseAnalyzer

namespace Response

def covered (raw : Bytes) : Bytes := raw.tail.dropLast

def declared (raw : Bytes) : UInt8 := raw.getD 2 0

-- The first, the second and the fourth byte may be anything.
def Formed (raw p : Bytes) : Prop :=
  p.length ≤ 255 ∧ ∃ marker status reserved sum,
    raw = [marker, status, UInt8.ofNat p.length, reserved] ++ p ++ [sum] ∧ sum = checksum (covered raw)

def refusal (raw : Bytes) : Fault :=
  let computed := checksum (covered raw)
  let expected := raw.getLastD 0
  if raw.length < 5 then .length (declared raw) 0
  else if computed ≠ expected then .checksum computed expected
  else .length (declared raw) (raw.length - 5)

theorem covered_parts (marker status length reserved sum : UInt8) (body : Bytes) :
    covered (marker :: status :: length :: reserved :: (body ++ [sum])) = status :: length :: reserved :: body := by
  rw [covered, List.tail_cons, ← List.cons_append, ← List.cons_append, ← List.cons_append, List.dropLast_concat]

theorem last_parts (marker status length reserved sum : UInt8) (body : Bytes) :
    (marker :: status :: length :: reserved :: (body ++ [sum])).getLastD 0 = sum := by
  rw [List.getLastD_eq_getLast?, ← List.cons_append, ← List.cons_append, ← List.cons_append, ← List.cons_append,
    List.getLast?_concat, Option.getD_some]

theorem short_or_parts (raw : Bytes) :
    raw.length < 5 ∨ ∃ marker status length reserved body sum,
      raw = marker :: status :: length :: reserved :: (body ++ [sum]) := by
  match raw with
  | [] | [_] | [_, _] | [_, _, _] | [_, _, _, _] => exact .inl (by simp)
  | marker :: status :: length :: reserved :: first :: rest =>
      have nonempty : first :: rest ≠ [] := List.cons_ne_nil first rest
      exact .inr ⟨marker, status, length, reserved, _, _, by rw [List.dropLast_concat_getLast nonempty]⟩

theorem payload_short (raw : Bytes) (short : raw.length < 5) : payload raw = .error (.length (declared raw) 0) := by
  match raw with
  | [] | [_] | [_, _] | [_, _, _] | [_, _, _, _] => rfl
  | _ :: _ :: _ :: _ :: _ :: rest =>
      simp only [List.length_cons] at short
      omega

theorem payload_parts (marker status length reserved sum : UInt8) (body : Bytes) :
    payload (marker :: status :: length :: reserved :: (body ++ [sum])) =
      if checksum (status :: length :: reserved :: body) ≠ sum then
        .error (.checksum (checksum (status :: length :: reserved :: body)) sum)
      else if length.toNat ≠ body.length then .error (.length length body.length)
      else .ok body := by
  simp only [payload, List.getLast?_concat, List.dropLast_concat]

theorem length_byte (length : UInt8) (n : Nat) : length.toNat = n ↔ n ≤ 255 ∧ length = UInt8.ofNat n := by
  constructor
  · rintro rfl
    have small := length.toNat_lt
    exact ⟨by omega, (UInt8.ofNat_toNat).symm⟩
  · rintro ⟨small, rfl⟩
    exact UInt8.toNat_ofNat_of_lt' (Nat.lt_succ_of_le small)

theorem payload_ok_iff (raw p : Bytes) : payload raw = .ok p ↔ Formed raw p := by
  rcases short_or_parts raw with short | ⟨marker, status, length, reserved, body, sum, rfl⟩
  · rw [payload_short raw short]
    constructor
    · intro impossible
      cases impossible
    · rintro ⟨-, marker, status, reserved, sum, same, -⟩
      rw [same] at short
      simp at short
      omega
  · rw [payload_parts]
    constructor
    · intro accepted
      split at accepted
      · cases accepted
      · rename_i summed
        split at accepted
        · cases accepted
        · rename_i counted
          cases accepted
          obtain ⟨small, rfl⟩ := (length_byte length _).mp (Decidable.not_not.mp counted)
          refine ⟨small, marker, status, reserved, sum, rfl, ?_⟩
          rw [covered_parts]
          exact (Decidable.not_not.mp summed).symm
    · rintro ⟨small, _, _, _, _, same, summed⟩
      rw [covered_parts] at summed
      simp only [List.cons_append, List.nil_append, List.cons.injEq] at same
      obtain ⟨rfl, rfl, rfl, rfl, rest⟩ := same
      obtain ⟨bodies, sums⟩ := List.append_inj' rest rfl
      cases bodies
      cases sums
      have counted := (length_byte _ _).mpr ⟨small, rfl⟩
      rw [if_neg (Decidable.not_not.mpr summed.symm), if_neg (Decidable.not_not.mpr counted)]

theorem payload_refused (raw : Bytes) (unformed : ¬ ∃ p, Formed raw p) : payload raw = .error (refusal raw) := by
  rcases short_or_parts raw with short | ⟨marker, status, length, reserved, body, sum, rfl⟩
  · rw [payload_short raw short, refusal, if_pos short]
  · have long : ¬ (marker :: status :: length :: reserved :: (body ++ [sum])).length < 5 := by simp
    have size : (marker :: status :: length :: reserved :: (body ++ [sum])).length - 5 = body.length := by simp
    rw [refusal, if_neg long, covered_parts, last_parts, size, payload_parts]
    by_cases summed : checksum (status :: length :: reserved :: body) = sum
    · by_cases counted : length.toNat = body.length
      · refine absurd ⟨body, (payload_ok_iff _ body).mp ?_⟩ unformed
        rw [payload_parts, if_neg (Decidable.not_not.mpr summed), if_neg (Decidable.not_not.mpr counted)]
      · rw [if_neg (Decidable.not_not.mpr summed), if_pos counted, if_neg (Decidable.not_not.mpr summed)]
        rfl
    · rw [if_pos summed, if_pos summed]

-- The length byte of a long payload wraps, and the response is refused for its length alone.
theorem payload_encode (status : UInt8) (p : Bytes) :
    payload (encode status p) =
      if p.length ≤ 255 then .ok p else .error (.length (UInt8.ofNat (p.length % 256)) p.length) := by
  have encoded : encode status p = frameMarker :: status :: UInt8.ofNat p.length :: 0 ::
      (p ++ [checksum (status :: UInt8.ofNat p.length :: 0 :: p)]) := rfl
  rw [encoded, payload_parts, if_neg (Decidable.not_not.mpr rfl)]
  by_cases small : p.length ≤ 255
  · rw [if_neg (Decidable.not_not.mpr ((length_byte _ _).mpr ⟨small, rfl⟩)), if_pos small]
  · have differ : (UInt8.ofNat p.length).toNat ≠ p.length := fun same => small ((length_byte _ _).mp same).1
    have wrapped : UInt8.ofNat (p.length % 256) = UInt8.ofNat p.length := by
      apply UInt8.toNat_inj.mp
      simp
    rw [if_pos differ, if_neg small, wrapped]

theorem payload_of_format (raw : Bytes) :
    (∀ p, payload raw = .ok p ↔ Formed raw p) ∧
    ((¬ ∃ p, Formed raw p) → payload raw = .error (refusal raw)) ∧
    ∀ status p, payload (encode status p) =
      if p.length ≤ 255 then .ok p else .error (.length (UInt8.ofNat (p.length % 256)) p.length) :=
  ⟨payload_ok_iff raw, payload_refused raw, payload_encode⟩

end Response
end PulseAnalyzer
