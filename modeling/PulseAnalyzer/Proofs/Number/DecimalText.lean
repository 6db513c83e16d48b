import Mathlib
import PulseAnalyzer.Number.Reading

set_option autoImplicit false

namespace PulseAnalyzer

def Figures (cs : List Char) : Prop := ∀ c ∈ cs, isDigit c = true

theorem figures_to_digits (n : Nat) : Figures (Nat.toDigits 10 n) := by
  intro c member
  simpa [isDigit, Char.isDigit, Char.le_def] using Nat.isDigit_of_mem_toDigits (by decide) (by decide) member

theorem figures_zeros (n : Nat) : Figures (List.replicate n '0') := by
  intro c member
  rw [List.eq_of_mem_replicate member]
  rfl

theorem figures_append (a b : List Char) : Figures (a ++ b) ↔ Figures a ∧ Figures b := List.forall_mem_append

theorem fold_figures (acc : Nat) (cs : List Char) (figures : Figures cs) :
    cs.foldl (fun n c => if isDigit c then n * 10 + (c.toNat - 48) else n) acc = acc * 10 ^ cs.length + digitsNat cs := by
  induction cs generalizing acc with
  | nil => simp [digitsNat]
  | cons c cs ih =>
      obtain ⟨digit, later⟩ := List.forall_mem_cons.mp figures
      rw [digitsNat, List.foldl_cons, List.foldl_cons, if_pos digit, if_pos digit, ih _ later, ih _ later, List.length_cons]
      ring

theorem digits_nat_append (a b : List Char) (figures : Figures b) :
    digitsNat (a ++ b) = digitsNat a * 10 ^ b.length + digitsNat b := by
  rw [digitsNat, List.foldl_append, fold_figures _ b figures]
  rfl

theorem digits_nat_zeros (n : Nat) : digitsNat (List.replicate n '0') = 0 := by
  induction n with
  | zero => rfl
  | succ n ih => exact ih

theorem digits_nat_to_digits (n : Nat) : digitsNat (Nat.toDigits 10 n) = n := by
  have digit : ∀ d < 10, digitsNat [Nat.digitChar d] = d := by decide
  induction n using Nat.strongRecOn with
  | ind n ih =>
      by_cases single : n < 10
      · rw [Nat.toDigits_of_lt_base single]
        exact digit n single
      · have last : Figures [Nat.digitChar (n % 10)] := by
          have table : ∀ d < 10, isDigit (Nat.digitChar d) = true := by decide
          exact List.forall_mem_singleton.mpr (table (n % 10) (by omega))
        rw [Nat.toDigits_of_base_le (by decide) (by omega), digits_nat_append _ _ last, ih (n / 10) (by omega),
          digit (n % 10) (by omega), List.length_singleton]
        omega

def DigitOr (marks : List Char) (c : Char) : Prop := isDigit c = true ∨ c ∈ marks

def EndsFigures (cs : List Char) : Prop := ∀ c ∈ cs.head?, isDigit c = false

theorem span_figures (a b : List Char) (figures : Figures a) (ends : EndsFigures b) :
    (a ++ b).takeWhile isDigit = a ∧ (a ++ b).dropWhile isDigit = b := by
  have stops : b.takeWhile isDigit = [] ∧ b.dropWhile isDigit = b := by
    cases b with
    | nil => exact ⟨rfl, rfl⟩
    | cons c b =>
        have here : isDigit c = false := ends c rfl
        simp [here]
  rw [List.takeWhile_append_of_pos figures, List.dropWhile_append_of_pos figures, stops.1, stops.2, List.append_nil]
  exact ⟨rfl, rfl⟩

theorem read_point (whole fraction tail : List Char) (e : Int) (before : Figures whole) (figured : whole ≠ [])
    (after : Figures fraction) (ends : EndsFigures tail) (part : exponentPart? tail = some e) :
    unsignedDecimal? (whole ++ '.' :: (fraction ++ tail)) =
      some ⟨digitsNat (whole ++ fraction), e - fraction.length⟩ := by
  have point : EndsFigures ('.' :: (fraction ++ tail)) := by
    rintro c ⟨⟩
    rfl
  obtain ⟨taken, left⟩ := span_figures whole _ before point
  obtain ⟨shown, behind⟩ := span_figures fraction tail after ends
  have present : whole.isEmpty = false := List.isEmpty_eq_false_iff.mpr figured
  simp only [unsignedDecimal?, taken, left, shown, behind, part, present, Bool.false_and, Bool.false_eq_true, if_false,
    Option.map_some]

theorem read_power (whole tail : List Char) (e : Int) (before : Figures whole) (figured : whole ≠ [])
    (part : exponentPart? ('e' :: tail) = some e) : unsignedDecimal? (whole ++ 'e' :: tail) = some ⟨digitsNat whole, e⟩ := by
  have ends : EndsFigures ('e' :: tail) := by
    rintro c ⟨⟩
    rfl
  obtain ⟨taken, left⟩ := span_figures whole _ before ends
  have present : whole.isEmpty = false := List.isEmpty_eq_false_iff.mpr figured
  simp only [unsignedDecimal?, taken, left, present, Bool.false_and, Bool.false_eq_true, if_false]
  change (exponentPart? ('e' :: tail)).map (fun e => (⟨digitsNat (whole ++ []), e - ((0 : Nat) : Int)⟩ : Decimal)) = _
  rw [part, Option.map_some, List.append_nil, Int.natCast_zero, Int.sub_zero]

theorem exponent_read (power : Int) :
    exponentPart? ('e' :: (if power < 0 then '-' else '+') :: Nat.toDigits 10 power.natAbs) = some power := by
  have all : (Nat.toDigits 10 power.natAbs).all isDigit = true := List.all_eq_true.mpr (figures_to_digits _)
  have shown : Nat.toDigits 10 power.natAbs ≠ [] := Nat.toDigits_ne_nil
  by_cases below : power < 0
  · simp [exponentPart?, below, splitSign, all, shown, digits_nat_to_digits, abs_of_neg below]
  · simp [exponentPart?, below, splitSign, all, shown, digits_nat_to_digits, abs_of_nonneg (Int.not_lt.mp below)]

namespace Decimal

def value (d : Decimal) : ℚ := d.coefficient * 10 ^ d.exponent

-- A text without a sign, in the characters of numbers, that reads as this value.
structure Writes (cs : List Char) (d : Decimal) : Prop where
  number : ∀ c ∈ cs, DigitOr ['.', 'e', '+', '-'] c
  read : ∃ r, unsignedDecimal? cs = some r ∧ r.value = d.value

theorem writes_point (whole fraction tail : List Char) (e : Int) (d : Decimal) (before : Figures whole)
    (figured : whole ≠ []) (after : Figures fraction) (ends : EndsFigures tail)
    (tailed : ∀ c ∈ tail, DigitOr ['.', 'e', '+', '-'] c) (part : exponentPart? tail = some e)
    (same : (digitsNat (whole ++ fraction) : ℚ) * 10 ^ (e - fraction.length) = d.value) :
    Writes (whole ++ '.' :: (fraction ++ tail)) d where
  number := by
    intro c member
    rw [List.mem_append, List.mem_cons, List.mem_append] at member
    rcases member with inside | rfl | inside | inside
    · exact .inl (before c inside)
    · exact .inr (by decide)
    · exact .inl (after c inside)
    · exact tailed c inside
  read := ⟨_, read_point whole fraction tail e before figured after ends part, same⟩

theorem zeros_chars (n : Nat) : (zeros n).toList = List.replicate n '0' := String.toList_ofList

theorem value_shifted (n places : Nat) : ((n * 10 ^ places : Nat) : ℚ) * 10 ^ (-(places : Int)) = n := by
  have unit : (10 : ℚ) ^ places ≠ 0 := by positivity
  rw [zpow_neg, zpow_natCast, Nat.cast_mul, Nat.cast_pow, Nat.cast_ofNat]
  field_simp

theorem whole_writes (d : Decimal) (places : Nat) (same : ((d.coefficient * 10 ^ places : Nat) : ℚ) = d.value) :
    Writes (Nat.toDigits 10 d.coefficient ++ List.replicate places '0' ++ ['.', '0']) d := by
  have before : Figures (Nat.toDigits 10 d.coefficient ++ List.replicate places '0') :=
    (figures_append _ _).mpr ⟨figures_to_digits d.coefficient, figures_zeros places⟩
  have zero : Figures ['0'] := figures_zeros 1
  have figured : Nat.toDigits 10 d.coefficient ++ List.replicate places '0' ≠ [] :=
    List.append_ne_nil_of_left_ne_nil Nat.toDigits_ne_nil _
  refine writes_point _ ['0'] [] 0 d before figured zero nofun nofun rfl ?_
  have written : digitsNat (Nat.toDigits 10 d.coefficient ++ List.replicate places '0' ++ ['0']) =
      d.coefficient * 10 ^ places * 10 ^ 1 := by
    rw [digits_nat_append _ _ zero, digits_nat_append _ _ (figures_zeros places), digits_nat_zeros, digits_nat_to_digits,
      List.length_replicate]
    rfl
  rw [written, List.length_singleton, zero_sub, value_shifted, same]

theorem fraction_writes (d : Decimal) (e : Nat) (exponent : d.exponent = .negSucc e) (whole fraction : List Char)
    (figures : Figures (whole ++ fraction)) (figured : whole ≠ []) (places : fraction.length = e + 1)
    (read : digitsNat (whole ++ fraction) = d.coefficient) : Writes (whole ++ '.' :: fraction) d := by
  obtain ⟨before, after⟩ := (figures_append whole fraction).mp figures
  have writes := writes_point whole fraction [] 0 d before figured after nofun nofun rfl
    (by rw [read, places, zero_sub, value, exponent]; rfl)
  rwa [List.append_nil] at writes

theorem positional_writes (d : Decimal) : Writes (d.positional ".0").toList d := by
  have figures := figures_to_digits d.coefficient
  have read := digits_nat_to_digits d.coefficient
  unfold positional
  dsimp only
  split
  · rename_i e exponent
    by_cases nothing : d.coefficient = 0
    · rw [if_pos nothing]
      have writes := whole_writes d 0 (by rw [value, nothing]; simp)
      simpa using writes
    · rw [if_neg nothing]
      have writes := whole_writes d e (by rw [value, exponent]; push_cast; rfl)
      simpa [zeros_chars] using writes
  · rename_i e exponent
    split
    · rename_i short
      have writes := fraction_writes d e exponent
        ((Nat.toDigits 10 d.coefficient).take ((Nat.toDigits 10 d.coefficient).length - (e + 1)))
        ((Nat.toDigits 10 d.coefficient).drop ((Nat.toDigits 10 d.coefficient).length - (e + 1)))
        (by rwa [List.take_append_drop])
        (by rw [← List.length_pos_iff, List.length_take]; omega)
        (by rw [List.length_drop]; omega)
        (by rwa [List.take_append_drop])
      simpa using writes
    · rename_i long
      have padded : Figures (List.replicate (e + 1 - (Nat.toDigits 10 d.coefficient).length) '0' ++
          Nat.toDigits 10 d.coefficient) := (figures_append _ _).mpr ⟨figures_zeros _, figures⟩
      have writes := fraction_writes d e exponent ['0']
        (List.replicate (e + 1 - (Nat.toDigits 10 d.coefficient).length) '0' ++ Nat.toDigits 10 d.coefficient)
        ((figures_append _ _).mpr ⟨figures_zeros 1, padded⟩) (by decide)
        (by rw [List.length_append, List.length_replicate]; omega)
        (by rw [← List.append_assoc, digits_nat_append _ _ figures, read]
            change digitsNat (List.replicate (_ + 1) '0') * _ + _ = _
            rw [digits_nat_zeros, Nat.zero_mul, Nat.zero_add])
      simpa [zeros_chars] using writes

theorem power_chars (power : Int) : ((if power < 0 then "e-" else "e+") ++ Nat.repr power.natAbs).toList =
    'e' :: (if power < 0 then '-' else '+') :: Nat.toDigits 10 power.natAbs := by
  rw [String.toList_append, Nat.repr_eq_ofList_toDigits, String.toList_ofList]
  split <;> rfl

theorem power_number (power : Int) :
    ∀ c ∈ 'e' :: (if power < 0 then '-' else '+') :: Nat.toDigits 10 power.natAbs, DigitOr ['.', 'e', '+', '-'] c := by
  intro c member
  rw [List.mem_cons, List.mem_cons] at member
  rcases member with rfl | rfl | digit
  · exact .inr (by decide)
  · split <;> exact .inr (by decide)
  · exact .inl (figures_to_digits power.natAbs c digit)

theorem scientific_writes (d : Decimal) : Writes d.scientific.toList d := by
  have figures := figures_to_digits d.coefficient
  have read := digits_nat_to_digits d.coefficient
  have shown : Nat.toDigits 10 d.coefficient ≠ [] := Nat.toDigits_ne_nil
  unfold scientific
  dsimp only
  generalize Nat.toDigits 10 d.coefficient = digits at *
  rw [String.append_assoc, String.toList_append, power_chars]
  generalize placed : d.exponent + digits.length - 1 = power
  have ends : EndsFigures ('e' :: (if power < 0 then '-' else '+') :: Nat.toDigits 10 power.natAbs) := by
    rintro c ⟨⟩
    rfl
  cases digits with
  | nil => exact absurd rfl shown
  | cons first rest =>
      cases rest with
      | nil =>
          have exponent : power = d.exponent := by simpa using placed.symm
          have read_back := read_power [first] _ power figures (List.cons_ne_nil first []) (exponent_read power)
          have writes : Writes ([first] ++ 'e' :: (if power < 0 then '-' else '+') :: Nat.toDigits 10 power.natAbs) d := by
            refine ⟨fun c member => ?_, _, read_back, by rw [value, value, read, exponent]⟩
            rcases List.mem_append.mp member with digit | part
            · exact .inl (figures c digit)
            · exact power_number power c part
          simpa using writes
      | cons next more =>
          obtain ⟨leading, following⟩ := (figures_append [first] (next :: more)).mp figures
          have exponent : power - (next :: more).length = d.exponent := by
            rw [List.length_cons] at placed
            push_cast at placed
            omega
          have same : (digitsNat ([first] ++ next :: more) : ℚ) * 10 ^ (power - (next :: more).length) = d.value := by
            rw [List.singleton_append, read, exponent, value]
          have writes := writes_point [first] (next :: more) _ power d leading (List.cons_ne_nil first []) following ends
            (power_number power) (exponent_read power) same
          simpa using writes

end Decimal
end PulseAnalyzer
