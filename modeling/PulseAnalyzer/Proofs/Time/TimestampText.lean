import PulseAnalyzer.Proofs.Number.DecimalText
import PulseAnalyzer.Proofs.Time.Calendar

set_option autoImplicit false

namespace PulseAnalyzer

theorem figures_cut (a b rest more : List Char) (first : Figures a) (second : Figures b) (ends : EndsFigures rest)
    (ends' : EndsFigures more) (same : a ++ rest = b ++ more) : a = b ∧ rest = more := by
  obtain ⟨taken, left⟩ := span_figures a rest first ends
  obtain ⟨taken', left'⟩ := span_figures b more second ends'
  rw [same] at taken left
  exact ⟨taken.symm.trans taken', left.symm.trans left'⟩

namespace Timestamp

-- A leap second follows the last second of a minute.
structure Valid (t : Timestamp) : Prop where
  short : t.nanos < 2000000000
  leap : 1000000000 ≤ t.nanos → t.secs % 60 = 59

theorem padded_chars (width n : Nat) : (padded width n).toList =
    List.replicate (width - (Nat.toDigits 10 n).length) '0' ++ Nat.toDigits 10 n := String.toList_ofList

theorem padded_figures (width n : Nat) : Figures (padded width n).toList := by
  rw [padded_chars]
  exact (figures_append _ _).mpr ⟨figures_zeros _, figures_to_digits n⟩

theorem padded_read (width n : Nat) : digitsNat (padded width n).toList = n := by
  rw [padded_chars, digits_nat_append _ _ (figures_to_digits n), digits_nat_zeros, digits_nat_to_digits, Nat.zero_mul,
    Nat.zero_add]

theorem padded_length (width n : Nat) (wide : 0 < width) (fits : n < 10 ^ width) : (padded width n).toList.length = width := by
  have short : (Nat.toDigits 10 n).length ≤ width := (Nat.length_toDigits_le_iff (by decide) wide).mpr fits
  rw [padded_chars, List.length_append, List.length_replicate]
  omega

theorem padded_cut (width m n : Nat) (rest more : List Char) (ends : EndsFigures rest) (ends' : EndsFigures more)
    (same : (padded width m).toList ++ rest = (padded width n).toList ++ more) : m = n ∧ rest = more := by
  obtain ⟨alike, after⟩ := figures_cut _ _ rest more (padded_figures width m) (padded_figures width n) ends ends' same
  rw [← padded_read width m, alike, padded_read]
  exact ⟨rfl, after⟩

theorem year_read (year : Int) (rest : List Char) :
    splitSign ((yearText year).toList ++ rest) = (decide (year < 0), (padded 4 year.natAbs).toList ++ rest) := by
  unfold yearText
  split
  · rename_i ordinary
    have plain : year.toNat = year.natAbs := by omega
    have figures := padded_figures 4 year.natAbs
    have shown : (padded 4 year.natAbs).toList ≠ [] := by
      rw [padded_chars]
      exact List.append_ne_nil_of_right_ne_nil _ Nat.toDigits_ne_nil
    rw [plain, decide_eq_false (by omega : ¬ year < 0)]
    generalize (padded 4 year.natAbs).toList = cs at figures shown
    cases cs with
    | nil => exact absurd rfl shown
    | cons c cs =>
        have digit := figures c List.mem_cons_self
        unfold splitSign
        split
        · rename_i sign
          cases sign
          cases digit
        · rename_i sign
          cases sign
          cases digit
        · rfl
  · by_cases before : year < 0
    · rw [if_pos before, String.toList_append, decide_eq_true before]
      rfl
    · rw [if_neg before, String.toList_append, decide_eq_false before]
      rfl

theorem year_cut (year other : Int) (rest more : List Char) (ends : EndsFigures rest) (ends' : EndsFigures more)
    (same : (yearText year).toList ++ rest = (yearText other).toList ++ more) : year = other ∧ rest = more := by
  have read := congrArg splitSign same
  rw [year_read, year_read] at read
  obtain ⟨sign, digits⟩ := Prod.mk.inj read
  obtain ⟨size, after⟩ := padded_cut 4 _ _ rest more ends ends' digits
  rw [decide_eq_decide] at sign
  exact ⟨by omega, after⟩

theorem fraction_read (nanos : Nat) (short : nanos < 1000000000) :
    (nanos = 0 ∧ (fractionText nanos).toList = []) ∨
    ∃ digits, (fractionText nanos).toList = '.' :: digits ∧ Figures digits ∧
      digitsNat digits * 10 ^ (9 - digits.length) = nanos := by
  have shown (places : Nat) (unit : Nat) (wide : 0 < places) (scaled : 10 ^ (9 - places) = unit)
      (fits : nanos / unit < 10 ^ places) (whole : nanos / unit * unit = nanos) :
      ∃ digits, ("." ++ padded places (nanos / unit)).toList = '.' :: digits ∧ Figures digits ∧
        digitsNat digits * 10 ^ (9 - digits.length) = nanos := by
    refine ⟨(padded places (nanos / unit)).toList, by rw [String.toList_append]; rfl, padded_figures _ _, ?_⟩
    rw [padded_read, padded_length places _ wide fits, scaled, whole]
  unfold fractionText
  split
  · exact .inl ⟨‹_›, rfl⟩
  · refine .inr ?_
    split
    · exact shown 3 1000000 (by decide) (by decide) (by omega) (by omega)
    · split
      · exact shown 6 1000 (by decide) (by decide) (by omega) (by omega)
      · have whole := shown 9 1 (by decide) (by decide) (by omega) (by omega)
        rwa [Nat.div_one] at whole

theorem fraction_ends (nanos : Nat) (short : nanos < 1000000000) : EndsFigures ((fractionText nanos).toList ++ ['Z']) := by
  rcases fraction_read nanos short with ⟨-, silent⟩ | ⟨digits, shown, -⟩
  · rw [silent]
    rintro c ⟨⟩
    rfl
  · rw [shown]
    rintro c ⟨⟩
    rfl

theorem fraction_once (m n : Nat) (first : m < 1000000000) (second : n < 1000000000)
    (same : (fractionText m).toList ++ ['Z'] = (fractionText n).toList ++ ['Z']) : m = n := by
  have alike := List.append_cancel_right same
  rcases fraction_read m first with ⟨zero, silent⟩ | ⟨digits, shown, -, read⟩
  · rcases fraction_read n second with ⟨zero', -⟩ | ⟨digits', shown', -⟩
    · rw [zero, zero']
    · rw [silent, shown'] at alike
      cases alike
  · rcases fraction_read n second with ⟨-, silent'⟩ | ⟨digits', shown', -, read'⟩
    · rw [shown, silent'] at alike
      cases alike
    · rw [shown, shown'] at alike
      rw [← read, ← read', (List.cons.inj alike).2]

def shownSecond (t : Timestamp) : Nat := (t.secs % 86400).toNat % 60 + if 1000000000 ≤ t.nanos then 1 else 0
def shownNanos (t : Timestamp) : Nat := t.nanos - (if 1000000000 ≤ t.nanos then 1 else 0) * 1000000000

theorem text_chars (t : Timestamp) : t.text.toList =
    (yearText (dateOfDays (t.secs / 86400)).year).toList ++ '-' :: ((padded 2 (dateOfDays (t.secs / 86400)).month).toList ++
      '-' :: ((padded 2 (dateOfDays (t.secs / 86400)).day).toList ++
      'T' :: ((padded 2 ((t.secs % 86400).toNat / 3600)).toList ++
      ':' :: ((padded 2 ((t.secs % 86400).toNat / 60 % 60)).toList ++
      ':' :: ((padded 2 t.shownSecond).toList ++ ((fractionText t.shownNanos).toList ++ ['Z'])))))) := by
  have dash (cs : List Char) : "-".toList ++ cs = '-' :: cs := rfl
  have letter (cs : List Char) : "T".toList ++ cs = 'T' :: cs := rfl
  have colon (cs : List Char) : ":".toList ++ cs = ':' :: cs := rfl
  have last : "Z".toList = ['Z'] := rfl
  simp only [text, String.toList_append, List.append_assoc, dash, letter, colon, last, shownSecond, shownNanos, List.cons_append]

theorem shown_nanos_short (t : Timestamp) (valid : t.Valid) : t.shownNanos < 1000000000 := by
  have short := valid.short
  unfold shownNanos
  split <;> omega

-- Only a leap second is shown as the sixtieth.
theorem second_once (t u : Timestamp) (first : t.Valid) (second : u.Valid) (days : t.secs / 86400 = u.secs / 86400)
    (hour : (t.secs % 86400).toNat / 3600 = (u.secs % 86400).toNat / 3600)
    (minute : (t.secs % 86400).toNat / 60 % 60 = (u.secs % 86400).toNat / 60 % 60)
    (shown : t.shownSecond = u.shownSecond) (nanos : t.shownNanos = u.shownNanos) : t = u := by
  have leap := first.leap
  have leap' := second.leap
  obtain ⟨secs, into⟩ := t
  obtain ⟨secs', into'⟩ := u
  unfold shownSecond at shown
  unfold shownNanos at nanos
  dsimp only at *
  have same : secs = secs' ∧ into = into' := by
    by_cases late : 1000000000 ≤ into <;> by_cases late' : 1000000000 ≤ into' <;>
      simp only [late, late', if_true, if_false] at shown nanos <;> omega
  rw [same.1, same.2]

theorem text_once (t u : Timestamp) (first : t.Valid) (second : u.Valid) (same : t.text = u.text) : t = u := by
  have dash (cs : List Char) : EndsFigures ('-' :: cs) := by rintro c ⟨⟩; rfl
  have letter (cs : List Char) : EndsFigures ('T' :: cs) := by rintro c ⟨⟩; rfl
  have colon (cs : List Char) : EndsFigures (':' :: cs) := by rintro c ⟨⟩; rfl
  have ends := fraction_ends t.shownNanos (shown_nanos_short t first)
  have ends' := fraction_ends u.shownNanos (shown_nanos_short u second)
  have chars := congrArg String.toList same
  rw [text_chars, text_chars] at chars
  obtain ⟨year, chars⟩ := year_cut _ _ _ _ (dash _) (dash _) chars
  obtain ⟨month, chars⟩ := padded_cut 2 _ _ _ _ (dash _) (dash _) (List.cons.inj chars).2
  obtain ⟨day, chars⟩ := padded_cut 2 _ _ _ _ (letter _) (letter _) (List.cons.inj chars).2
  obtain ⟨hour, chars⟩ := padded_cut 2 _ _ _ _ (colon _) (colon _) (List.cons.inj chars).2
  obtain ⟨minute, chars⟩ := padded_cut 2 _ _ _ _ (colon _) (colon _) (List.cons.inj chars).2
  obtain ⟨shown, chars⟩ := padded_cut 2 _ _ _ _ ends ends' (List.cons.inj chars).2
  have nanos := fraction_once _ _ (shown_nanos_short t first) (shown_nanos_short u second) chars
  have days : t.secs / 86400 = u.secs / 86400 := by
    refine date_once _ _ ?_
    generalize dateOfDays (t.secs / 86400) = a at *
    generalize dateOfDays (u.secs / 86400) = b at *
    cases a
    cases b
    simp_all
  exact second_once t u first second days hour minute shown nanos

def Written : Char → Prop := DigitOr ['-', '+', 'T', ':', '.', 'Z']

theorem padded_written (width n : Nat) : ∀ c ∈ (padded width n).toList, Written c :=
  fun c member => .inl (padded_figures width n c member)

theorem year_written (year : Int) : ∀ c ∈ (yearText year).toList, Written c := by
  unfold yearText
  split
  · exact padded_written 4 _
  · rw [String.toList_append]
    refine List.forall_mem_append.mpr ⟨?_, padded_written 4 _⟩
    split <;> exact List.forall_mem_singleton.mpr (.inr (by decide))

theorem fraction_written (nanos : Nat) (short : nanos < 1000000000) : ∀ c ∈ (fractionText nanos).toList, Written c := by
  rcases fraction_read nanos short with ⟨-, silent⟩ | ⟨digits, shown, figures, -⟩
  · rw [silent]
    exact List.forall_mem_nil _
  · rw [shown]
    exact List.forall_mem_cons.mpr ⟨.inr (by decide), fun c member => .inl (figures c member)⟩

theorem text_written (t : Timestamp) (valid : t.Valid) : ∀ c ∈ t.text.toList, Written c := by
  have mark (c : Char) (listed : c ∈ ['-', '+', 'T', ':', '.', 'Z']) (cs : List Char) (later : ∀ d ∈ cs, Written d) :
      ∀ d ∈ c :: cs, Written d := List.forall_mem_cons.mpr ⟨.inr listed, later⟩
  have field (n : Nat) (cs : List Char) (later : ∀ d ∈ cs, Written d) : ∀ d ∈ (padded 2 n).toList ++ cs, Written d :=
    List.forall_mem_append.mpr ⟨padded_written 2 n, later⟩
  have fraction := fraction_written t.shownNanos (shown_nanos_short t valid)
  have zone : ∀ d ∈ ['Z'], Written d := List.forall_mem_singleton.mpr (.inr (by decide))
  rw [text_chars]
  refine List.forall_mem_append.mpr ⟨year_written _, mark '-' (by decide) _ (field _ _ ?_)⟩
  refine mark '-' (by decide) _ (field _ _ (mark 'T' (by decide) _ (field _ _ ?_)))
  refine mark ':' (by decide) _ (field _ _ (mark ':' (by decide) _ (field _ _ ?_)))
  exact List.forall_mem_append.mpr ⟨fraction, zone⟩

end Timestamp
end PulseAnalyzer
