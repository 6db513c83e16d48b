import PulseAnalyzer.Proofs.Wire.ResponseSize

set_option autoImplicit false

namespace PulseAnalyzer

theorem checksum_from (sum : UInt8) (bytes : Bytes) : bytes.foldl (· ^^^ ·) sum = sum ^^^ checksum bytes := by
  induction bytes generalizing sum with
  | nil => exact (UInt8.xor_zero).symm
  | cons b rest ih =>
      have first : checksum (b :: rest) = b ^^^ checksum rest := by
        rw [checksum, List.foldl_cons, ih, UInt8.zero_xor]
      rw [List.foldl_cons, ih, first, UInt8.xor_assoc]

theorem checksum_cons (b : UInt8) (bytes : Bytes) : checksum (b :: bytes) = b ^^^ checksum bytes := by
  rw [checksum, List.foldl_cons, UInt8.zero_xor, checksum_from]

def differences (a b : Bytes) : Bytes := List.zipWith (· ^^^ ·) a b

theorem xor_pairs (a b c d : UInt8) : (a ^^^ b) ^^^ (c ^^^ d) = (a ^^^ c) ^^^ (b ^^^ d) := by
  rw [UInt8.xor_assoc, ← UInt8.xor_assoc b, UInt8.xor_comm b c, UInt8.xor_assoc c, ← UInt8.xor_assoc]

theorem checksum_differences (a b : Bytes) (same : a.length = b.length) :
    checksum (differences a b) = checksum a ^^^ checksum b := by
  induction a generalizing b with
  | nil =>
      obtain rfl := List.length_eq_zero_iff.mp same.symm
      rfl
  | cons x a ih =>
      cases b with
      | nil => cases same
      | cons y b =>
          have rest := ih b (Nat.succ.inj same)
          change checksum ((x ^^^ y) :: differences a b) = _
          rw [checksum_cons, rest, checksum_cons, checksum_cons, xor_pairs]

theorem checksum_differences_self (a : Bytes) : checksum (differences a a) = 0 := by
  rw [checksum_differences a a rfl, UInt8.xor_self]

theorem checksum_differences_one (a b : Bytes) (i : Nat) (x y : UInt8) (here : a[i]? = some x) (there : b[i]? = some y)
    (elsewhere : ∀ j, j ≠ i → b[j]? = a[j]?) : checksum (differences a b) = x ^^^ y := by
  induction a generalizing b i with
  | nil => cases here
  | cons x₀ a ih =>
      cases b with
      | nil => cases there
      | cons y₀ b =>
          change checksum ((x₀ ^^^ y₀) :: differences a b) = _
          rw [checksum_cons]
          cases i with
          | zero =>
              obtain rfl : x₀ = x := Option.some.inj here
              obtain rfl : y₀ = y := Option.some.inj there
              obtain rfl : b = a := List.ext_getElem? fun j => elsewhere (j + 1) (Nat.succ_ne_zero j)
              rw [checksum_differences_self, UInt8.xor_zero]
          | succ i =>
              obtain rfl : y₀ = x₀ := Option.some.inj (elsewhere 0 (Nat.succ_ne_zero i).symm)
              have rest := ih b i here there fun j other => elsewhere (j + 1) fun same => other (Nat.succ.inj same)
              rw [rest, UInt8.xor_self, UInt8.zero_xor]

namespace Response

-- The bytes after the marker, the checksum included, come to nothing in a response.
def residue (raw : Bytes) : UInt8 := checksum raw.tail

def difference (raw other : Bytes) : UInt8 := checksum (differences raw.tail other.tail)

theorem residue_parts (marker status length reserved sum : UInt8) (body : Bytes) :
    residue (marker :: status :: length :: reserved :: (body ++ [sum])) =
      checksum (status :: length :: reserved :: body) ^^^ sum := by
  rw [residue, List.tail_cons, ← List.cons_append, ← List.cons_append, ← List.cons_append, checksum_append]
  rfl

theorem residue_told (raw : Bytes) (long : 5 ≤ raw.length) :
    checksum (covered raw) ^^^ raw.getLastD 0 = residue raw := by
  rcases short_or_parts raw with short | ⟨marker, status, length, reserved, body, sum, rfl⟩
  · omega
  · rw [covered_parts, last_parts, residue_parts]

theorem payload_long (raw : Bytes) (long : 5 ≤ raw.length) :
    payload raw =
      if residue raw ≠ 0 then .error (.checksum (checksum (covered raw)) (raw.getLastD 0))
      else if (declared raw).toNat ≠ raw.length - 5 then .error (.length (declared raw) (raw.length - 5))
      else .ok ((raw.drop 4).dropLast) := by
  rcases short_or_parts raw with short | ⟨marker, status, length, reserved, body, sum, rfl⟩
  · omega
  · have summed : checksum (status :: length :: reserved :: body) ≠ sum ↔
        residue (marker :: status :: length :: reserved :: (body ++ [sum])) ≠ 0 := by
      rw [residue_parts, ne_eq, ne_eq, UInt8.xor_eq_zero_iff]
    have counted : (marker :: status :: length :: reserved :: (body ++ [sum])).length - 5 = body.length := by simp
    have inner : ((marker :: status :: length :: reserved :: (body ++ [sum])).drop 4).dropLast = body :=
      List.dropLast_concat
    rw [payload_parts, last_parts, covered_parts, counted, inner]
    simp only [summed]
    rfl

theorem residue_changed (raw other : Bytes) (same : other.length = raw.length) :
    residue other = residue raw ^^^ difference raw other := by
  have tails : raw.tail.length = other.tail.length := by rw [List.length_tail, List.length_tail, same]
  rw [difference, checksum_differences _ _ tails, ← UInt8.xor_assoc, residue, residue, UInt8.xor_self, UInt8.zero_xor]

theorem residue_accepted (raw p : Bytes) (accepted : payload raw = .ok p) :
    raw.length = p.length + 5 ∧ (declared raw).toNat = p.length ∧ residue raw = 0 ∧ p = (raw.drop 4).dropLast := by
  rcases Nat.lt_or_ge raw.length 5 with short | long
  · rw [payload_short raw short] at accepted
    cases accepted
  · rw [payload_long raw long] at accepted
    split at accepted
    · cases accepted
    · rename_i clean
      split at accepted
      · cases accepted
      · rename_i counted
        cases accepted
        have inner : ((raw.drop 4).dropLast).length = raw.length - 5 := by
          rw [List.length_dropLast, List.length_drop]
          omega
        rw [inner]
        exact ⟨by omega, Decidable.not_not.mp counted, Decidable.not_not.mp clean, rfl⟩

theorem residue_difference (raw other p : Bytes) (accepted : payload raw = .ok p) (same : other.length = raw.length) :
    residue other = difference raw other := by
  obtain ⟨-, -, clean, -⟩ := residue_accepted raw p accepted
  rw [residue_changed raw other same, clean, UInt8.zero_xor]

theorem payload_changed (raw other p : Bytes) (accepted : payload raw = .ok p) (same : other.length = raw.length) :
    payload other =
      if difference raw other ≠ 0 then .error (.checksum (checksum (covered other)) (other.getLastD 0))
      else if declared other ≠ declared raw then .error (.length (declared other) p.length)
      else .ok ((other.drop 4).dropLast) := by
  obtain ⟨long, told, -, -⟩ := residue_accepted raw p accepted
  have changed := residue_difference raw other p accepted same
  have counted : other.length - 5 = p.length := by omega
  have lengths : (declared other).toNat ≠ p.length ↔ declared other ≠ declared raw := by
    rw [← told]
    exact not_congr UInt8.toNat_inj
  rw [payload_long other (by omega), changed, counted]
  simp only [lengths]

theorem difference_one (raw other : Bytes) (i : Nat) (x y : UInt8) (after : 1 ≤ i) (here : raw[i]? = some x)
    (there : other[i]? = some y) (elsewhere : ∀ j, j ≠ i → other[j]? = raw[j]?) : difference raw other = x ^^^ y := by
  obtain ⟨k, rfl⟩ := Nat.exists_eq_add_of_le' after
  refine checksum_differences_one raw.tail other.tail k x y ?_ ?_ fun j apart => ?_
  · rw [List.getElem?_tail]
    exact here
  · rw [List.getElem?_tail]
    exact there
  · rw [List.getElem?_tail, List.getElem?_tail]
    exact elsewhere (j + 1) fun same => apart (Nat.succ.inj same)

theorem residue_resummed (raw : Bytes) (long : 5 ≤ raw.length) (summed : raw.getLast? = some (checksum (covered raw))) :
    residue raw = 0 := by
  rw [← residue_told raw long, List.getLastD_eq_getLast?, summed, Option.getD_some, UInt8.xor_self]

theorem payload_remarked (raw other p : Bytes) (accepted : payload raw = .ok p) (same : other.length = raw.length)
    (elsewhere : ∀ j, j ≠ 0 → other[j]? = raw[j]?) : payload other = .ok p := by
  obtain ⟨-, -, -, inner⟩ := residue_accepted raw p accepted
  have tails : other.tail = raw.tail := List.ext_getElem? fun j => by
    rw [List.getElem?_tail, List.getElem?_tail]
    exact elsewhere (j + 1) (Nat.succ_ne_zero j)
  have cancels : difference raw other = 0 := by rw [difference, tails, checksum_differences_self]
  have length : declared other = declared raw := congrArg (Option.getD · 0) (elsewhere 2 (by decide))
  have kept := congrArg (List.drop 3) tails
  rw [List.drop_tail, List.drop_tail] at kept
  rw [payload_changed raw other p accepted same, if_neg (Decidable.not_not.mpr cancels),
    if_neg (Decidable.not_not.mpr length), kept, ← inner]

theorem corruption_detected (raw other p : Bytes) (accepted : payload raw = .ok p) (same : other.length = raw.length) :
    (∀ i x y, 1 ≤ i → raw[i]? = some x → other[i]? = some y → x ≠ y → (∀ j, j ≠ i → other[j]? = raw[j]?) →
      ∃ computed expected, payload other = .error (.checksum computed expected) ∧ computed ^^^ expected = x ^^^ y) ∧
    ((∃ computed expected, payload other = .error (.checksum computed expected)) ↔ difference raw other ≠ 0) ∧
    (∀ computed expected, payload other = .error (.checksum computed expected) →
      computed ^^^ expected = difference raw other) ∧
    ((∀ j, j ≠ 0 → other[j]? = raw[j]?) → payload other = .ok p) ∧
    (declared other ≠ declared raw → other.getLast? = some (checksum (covered other)) →
      payload other = .error (.length (declared other) p.length)) ∧
    (declared other = declared raw → difference raw other = 0 → payload other = .ok ((other.drop 4).dropLast)) := by
  obtain ⟨long, -⟩ := residue_accepted raw p accepted
  have changed := payload_changed raw other p accepted same
  have told : checksum (covered other) ^^^ other.getLastD 0 = difference raw other := by
    rw [residue_told other (by omega), residue_difference raw other p accepted same]
  have found : difference raw other ≠ 0 → ∃ computed expected, payload other = .error (.checksum computed expected) ∧
      computed ^^^ expected = difference raw other := by
    intro differs
    rw [if_pos differs] at changed
    exact ⟨_, _, changed, told⟩
  have missed : ¬ difference raw other ≠ 0 → ∀ computed expected, payload other ≠ .error (.checksum computed expected) := by
    intro cancels computed expected refused
    rw [if_neg cancels, refused] at changed
    split at changed <;> cases changed
  refine ⟨fun i x y after here there apart elsewhere => ?_, ⟨?_, ?_⟩, ?_, ?_, ?_, ?_⟩
  · have one := difference_one raw other i x y after here there elsewhere
    rw [← one]
    refine found ?_
    rw [one, ne_eq, UInt8.xor_eq_zero_iff]
    exact apart
  · rintro ⟨computed, expected, refused⟩
    exact Decidable.byContradiction fun cancels => missed cancels computed expected refused
  · intro differs
    obtain ⟨computed, expected, refused, -⟩ := found differs
    exact ⟨computed, expected, refused⟩
  · intro computed expected refused
    have differs := Decidable.byContradiction fun cancels => missed cancels computed expected refused
    obtain ⟨_, _, again, sum⟩ := found differs
    cases refused.symm.trans again
    exact sum
  · exact payload_remarked raw other p accepted same
  · intro length summed
    have cancels : difference raw other = 0 := by
      rw [← residue_difference raw other p accepted same, residue_resummed other (by omega) summed]
    rw [changed, if_neg (Decidable.not_not.mpr cancels), if_pos length]
  · intro length cancels
    rw [changed, if_neg (Decidable.not_not.mpr cancels), if_neg (Decidable.not_not.mpr length)]

-- A flipped byte and a burst over two are found; the same flip made twice is not, and a length byte whose
-- checksum fits is found for the length.
theorem flipped_byte_detected :
    let raw := encode 0x40 [0, 0x12, 0x34]
    payload raw = .ok [0, 0x12, 0x34] ∧ (raw.set 5 0x48).length = raw.length ∧
    (∃ computed expected, payload (raw.set 5 0x48) = .error (.checksum computed expected) ∧
      computed ^^^ expected = 0x5A) ∧
    (∃ computed expected, payload ((raw.set 1 0x41).set 7 0x00) = .error (.checksum computed expected)) ∧
    (¬ ∃ computed expected, payload ((raw.set 5 0x48).set 6 0x6E) = .error (.checksum computed expected)) ∧
    payload (raw.set 0 0xFF) = .ok [0, 0x12, 0x34] ∧
    payload ((raw.set 2 5).set 7 0x63) = .error (.length 5 3) := by
  intro raw
  have accepted : payload raw = .ok [0, 0x12, 0x34] := by rfl
  obtain ⟨single, -⟩ := corruption_detected raw (raw.set 5 0x48) _ accepted rfl
  obtain ⟨-, burst, -⟩ := corruption_detected raw ((raw.set 1 0x41).set 7 0x00) _ accepted rfl
  obtain ⟨-, twice, -⟩ := corruption_detected raw ((raw.set 5 0x48).set 6 0x6E) _ accepted rfl
  obtain ⟨-, -, -, marker, -⟩ := corruption_detected raw (raw.set 0 0xFF) _ accepted rfl
  obtain ⟨-, -, -, -, length, -⟩ := corruption_detected raw ((raw.set 2 5).set 7 0x63) _ accepted rfl
  have apart (i j : Nat) (b : UInt8) (other : j ≠ i) : (raw.set i b)[j]? = raw[j]? :=
    List.getElem?_set_ne other.symm
  refine ⟨accepted, rfl, ?_, burst.mpr (by decide), ?_, marker fun j => apart 0 j 0xFF, length (by decide) (by decide)⟩
  · exact single 5 0x12 0x48 (by decide) rfl rfl (by decide) fun j => apart 5 j 0x48
  · exact fun found => twice.mp found (by decide)

end Response
end PulseAnalyzer
