import Mathlib.Data.List.Induction
import Mathlib.Data.Nat.Notation
import PulseAnalyzer.Number.Digits

set_option autoImplicit false

namespace PulseAnalyzer

def Digit (base : Nat) (c : Char) (d : Nat) : Prop :=
  d < base ∧ (c = Nat.digitChar d ∨ c = (Nat.digitChar d).toUpper)

inductive Numeral (base : Nat) : List Char → Nat → Prop where
  | digit (c : Char) (d : Nat) (shown : Digit base c d) : Numeral base [c] d
  | more (cs : List Char) (n : Nat) (c : Char) (d : Nat) (front : Numeral base cs n) (shown : Digit base c d) :
      Numeral base (cs ++ [c]) (n * base + d)

def Unsigned (base : Nat) (cs : List Char) (n : Nat) : Prop :=
  ∃ digits, (cs = digits ∨ cs = '+' :: digits) ∧ Numeral base digits n

theorem digit_of_value (c : Char) (d : Nat) (found : digitValue? 16 c = some d) : Digit 16 c d := by
  have figures : ∀ n < 10, (Nat.digitChar n).toNat = n + 48 := by decide
  have letters : ∀ n < 6, (Nat.digitChar (n + 10)).toNat = n + 97 ∧ (Nat.digitChar (n + 10)).toUpper.toNat = n + 65 := by
    decide
  have range (low high : Char) (within : low ≤ c ∧ c ≤ high) : low.toNat ≤ c.toNat ∧ c.toNat ≤ high.toNat := within
  obtain ⟨valued, small⟩ := Option.filter_eq_some_iff.mp found
  refine ⟨of_decide_eq_true small, ?_⟩
  by_cases figure : '0' ≤ c ∧ c ≤ '9'
  · rw [if_pos figure] at valued
    have bounds : 48 ≤ c.toNat ∧ c.toNat ≤ 57 := range '0' '9' figure
    have same : c.toNat - 48 = d := Option.some.inj valued
    exact .inl (Char.toNat_inj.mp (by rw [figures d (by omega)]; omega))
  · rw [if_neg figure] at valued
    by_cases lower : 'a' ≤ c ∧ c ≤ 'f'
    · rw [if_pos lower] at valued
      have bounds : 97 ≤ c.toNat ∧ c.toNat ≤ 102 := range 'a' 'f' lower
      have same : c.toNat - 97 + 10 = d := Option.some.inj valued
      exact .inl (Char.toNat_inj.mp (by rw [← same, (letters (c.toNat - 97) (by omega)).1]; omega))
    · rw [if_neg lower] at valued
      by_cases upper : 'A' ≤ c ∧ c ≤ 'F'
      · rw [if_pos upper] at valued
        have bounds : 65 ≤ c.toNat ∧ c.toNat ≤ 70 := range 'A' 'F' upper
        have same : c.toNat - 65 + 10 = d := Option.some.inj valued
        exact .inr (Char.toNat_inj.mp (by rw [← same, (letters (c.toNat - 65) (by omega)).2]; omega))
      · rw [if_neg upper] at valued
        cases valued

theorem digit_value_shown (c : Char) (d : Nat) (shown : Digit 16 c d) : digitValue? 16 c = some d := by
  have table : ∀ d < 16, digitValue? 16 (Nat.digitChar d) = some d ∧ digitValue? 16 (Nat.digitChar d).toUpper = some d := by
    decide
  obtain ⟨small, rfl | rfl⟩ := shown
  · exact (table d small).1
  · exact (table d small).2

theorem digit_value_below (base : Nat) (bounded : base ≤ 16) (c : Char) (d : Nat) :
    digitValue? base c = some d ↔ digitValue? 16 c = some d ∧ d < base := by
  simp only [digitValue?, Option.filter_eq_some_iff, decide_eq_true_eq]
  constructor
  · rintro ⟨valued, small⟩
    exact ⟨⟨valued, by omega⟩, small⟩
  · rintro ⟨⟨valued, -⟩, small⟩
    exact ⟨valued, small⟩

theorem digit_value_iff (base : Nat) (bounded : base ≤ 16) (c : Char) (d : Nat) :
    digitValue? base c = some d ↔ Digit base c d := by
  rw [digit_value_below base bounded]
  constructor
  · rintro ⟨found, small⟩
    exact ⟨small, (digit_of_value c d found).2⟩
  · rintro ⟨small, shown⟩
    exact ⟨digit_value_shown c d ⟨by omega, shown⟩, small⟩

theorem digits_value_append (base acc : Nat) (cs : List Char) (c : Char) :
    digitsValue? base acc (cs ++ [c]) =
      (digitsValue? base acc cs).bind fun n => (digitValue? base c).map fun d => n * base + d := by
  induction cs generalizing acc with
  | nil => cases found : digitValue? base c <;> simp [digitsValue?, found]
  | cons first rest ih => cases found : digitValue? base first <;> simp [digitsValue?, found, ih]

theorem numeral_nonempty (base : Nat) (cs : List Char) (n : Nat) (written : Numeral base cs n) : cs ≠ [] := by
  cases written <;> simp

theorem numeral_digits (base : Nat) (cs : List Char) (n : Nat) (written : Numeral base cs n) :
    ∀ c ∈ cs, ∃ d, Digit base c d := by
  induction written with
  | digit c d shown => simpa using ⟨d, shown⟩
  | more cs n c d front shown ih =>
      intro other member
      rcases List.mem_append.mp member with before | last
      · exact ih other before
      · exact ⟨d, List.mem_singleton.mp last ▸ shown⟩

theorem digits_value_iff (base : Nat) (bounded : base ≤ 16) (cs : List Char) (nonempty : cs ≠ []) (n : Nat) :
    digitsValue? base 0 cs = some n ↔ Numeral base cs n := by
  constructor
  · intro found
    induction cs using List.reverseRecOn generalizing n with
    | nil => exact absurd rfl nonempty
    | append_singleton cs c ih =>
        rw [digits_value_append] at found
        obtain ⟨front, before, mapped⟩ := Option.bind_eq_some_iff.mp found
        obtain ⟨d, valued, rfl⟩ := Option.map_eq_some_iff.mp mapped
        have shown := (digit_value_iff base bounded c d).mp valued
        by_cases alone : cs = []
        · subst alone
          cases Option.some.inj before
          rw [List.nil_append, Nat.zero_mul, Nat.zero_add]
          exact .digit c d shown
        · exact .more cs front c d (ih alone front before) shown
  · intro written
    induction written with
    | digit c d shown => simp [digitsValue?, (digit_value_iff base bounded c d).mpr shown]
    | more cs n c d front shown ih =>
        rw [digits_value_append, ih (numeral_nonempty base cs n front), (digit_value_iff base bounded c d).mpr shown]
        rfl

theorem digit_no_sign (base : Nat) (bounded : base ≤ 16) (d : Nat) : ¬ Digit base '+' d := by
  rw [← digit_value_iff base bounded, digit_value_below base bounded]
  exact fun ⟨found, _⟩ => nomatch found

theorem unsigned_iff (base limit : Nat) (bounded : base ≤ 16) (cs : List Char) (n : Nat) :
    unsigned? base limit cs = some n ↔ n < limit ∧ Unsigned base cs n := by
  -- Only what is behind the sign is read, and no numeral has a sign of its own.
  have reads (digits : List Char) :
      (if digits.isEmpty then none else (digitsValue? base 0 digits).filter (· < limit)) = some n ↔
        n < limit ∧ Numeral base digits n := by
    by_cases nothing : digits = []
    · subst nothing
      refine ⟨nofun, fun ⟨_, written⟩ => absurd rfl (numeral_nonempty base [] n written)⟩
    · rw [if_neg (by simpa using nothing), Option.filter_eq_some_iff, digits_value_iff base bounded digits nothing,
        decide_eq_true_eq, and_comm]
  unfold unsigned?
  split
  · rename_i digits
    rw [reads digits]
    refine and_congr_right fun _ => ⟨fun written => ⟨digits, .inr rfl, written⟩, ?_⟩
    rintro ⟨other, whole | behind, written⟩
    · subst whole
      obtain ⟨d, shown⟩ := numeral_digits base _ n written '+' List.mem_cons_self
      exact absurd shown (digit_no_sign base bounded d)
    · exact (List.cons.inj behind).2 ▸ written
  · rename_i unsigned
    rw [reads cs]
    refine and_congr_right fun _ => ⟨fun written => ⟨cs, .inl rfl, written⟩, ?_⟩
    rintro ⟨other, whole | behind, written⟩
    · exact whole ▸ written
    · exact absurd behind (unsigned other)

theorem numeral_leading_zero (base : Nat) (positive : 0 < base) (cs : List Char) (n : Nat) (written : Numeral base cs n) :
    Numeral base ('0' :: cs) n := by
  induction written with
  | digit c d shown =>
      have zero := Numeral.more ['0'] 0 c d (.digit '0' 0 ⟨positive, .inl rfl⟩) shown
      rwa [Nat.zero_mul, Nat.zero_add] at zero
  | more cs n c d front shown ih => exact .more ('0' :: cs) n c d ih shown

theorem numeral_leading_zeros (base : Nat) (positive : 0 < base) (zeros : Nat) (cs : List Char) (n : Nat)
    (written : Numeral base cs n) : Numeral base (List.replicate zeros '0' ++ cs) n := by
  induction zeros with
  | zero => exact written
  | succ zeros ih => exact numeral_leading_zero base positive _ n ih

theorem numeral_to_digits (base : Nat) (several : 1 < base) (n : Nat) : Numeral base (Nat.toDigits base n) n := by
  induction n using Nat.strongRecOn with
  | ind n ih =>
      by_cases single : n < base
      · rw [Nat.toDigits_of_lt_base single]
        exact .digit _ n ⟨single, .inl rfl⟩
      · have long : base ≤ n := Nat.le_of_not_lt single
        have less : n / base < n := Nat.div_lt_self (by omega) several
        have last : Digit base (Nat.digitChar (n % base)) (n % base) := ⟨Nat.mod_lt n (by omega), .inl rfl⟩
        have written := Numeral.more _ _ _ _ (ih (n / base) less) last
        rw [Nat.div_add_mod' n base] at written
        rw [Nat.toDigits_of_base_le several long]
        exact written

theorem numeral_upper (base : Nat) (bounded : base ≤ 16) (cs : List Char) (n : Nat) (written : Numeral base cs n) :
    Numeral base (cs.map Char.toUpper) n := by
  have again : ∀ d < 16, (Nat.digitChar d).toUpper.toUpper = (Nat.digitChar d).toUpper := by decide
  have upper (c : Char) (d : Nat) (shown : Digit base c d) : Digit base c.toUpper d := by
    obtain ⟨small, rfl | rfl⟩ := shown
    · exact ⟨small, .inr rfl⟩
    · exact ⟨small, .inr (again d (by omega))⟩
  induction written with
  | digit c d shown => exact .digit c.toUpper d (upper c d shown)
  | more cs n c d front shown ih =>
      rw [List.map_append]
      exact .more (cs.map Char.toUpper) n c.toUpper d ih (upper c d shown)

end PulseAnalyzer
