import Mathlib.Data.List.Forall2
import Mathlib.Data.List.TakeWhile
import PulseAnalyzer.Text.Ascii

set_option autoImplicit false

namespace PulseAnalyzer

-- The core is what is left of a text when all blanks at both ends are gone.
structure Trimmed (cs core : List Char) : Prop where
  surrounded : ∃ left right, cs = left ++ core ++ right ∧ (∀ c ∈ left, isBlank c = true) ∧ ∀ c ∈ right, isBlank c = true
  first : ∀ c, core.head? = some c → isBlank c = false
  last : ∀ c, core.getLast? = some c → isBlank c = false

theorem drop_blanks (left core : List Char) (blank : ∀ c ∈ left, isBlank c = true)
    (first : ∀ c, core.head? = some c → isBlank c = false) : (left ++ core).dropWhile isBlank = core := by
  rw [List.dropWhile_append_of_pos blank]
  cases core with
  | nil => rfl
  | cons c rest => simp [first c rfl]

theorem drop_blanks_first (cs : List Char) (c : Char) (first : (cs.dropWhile isBlank).head? = some c) :
    isBlank c = false := by
  have stops := List.head?_dropWhile_not isBlank cs
  rwa [first] at stops

theorem trim_blanks_of_trimmed (cs core : List Char) (trimmed : Trimmed cs core) : trimBlanks cs = core := by
  obtain ⟨⟨left, right, rfl, before, after⟩, first, last⟩ := trimmed
  have behind : ∀ c ∈ right.reverse, isBlank c = true := fun c member => after c (List.mem_reverse.mp member)
  cases core with
  | nil =>
      have blank : (left ++ [] ++ right).dropWhile isBlank = [] := by
        rw [List.append_nil, List.dropWhile_append_of_pos before]
        exact List.dropWhile_eq_nil_iff.mpr after
      rw [trimBlanks, blank]
      rfl
  | cons c rest =>
      have front : (left ++ (c :: rest ++ right)).dropWhile isBlank = c :: rest ++ right :=
        drop_blanks left _ before first
      have back : ((c :: rest) ++ right).reverse.dropWhile isBlank = (c :: rest).reverse := by
        rw [List.reverse_append]
        refine drop_blanks right.reverse _ behind fun other head => last other ?_
        rwa [List.head?_reverse] at head
      rw [trimBlanks, List.append_assoc, front, back, List.reverse_reverse]

theorem trimmed_trim_blanks (cs : List Char) : Trimmed cs (trimBlanks cs) := by
  have whole : cs.dropWhile isBlank = trimBlanks cs ++ ((cs.dropWhile isBlank).reverse.takeWhile isBlank).reverse := by
    rw [trimBlanks, ← List.reverse_append, List.takeWhile_append_dropWhile, List.reverse_reverse]
  constructor
  · refine ⟨cs.takeWhile isBlank, ((cs.dropWhile isBlank).reverse.takeWhile isBlank).reverse, ?_, ?_, ?_⟩
    · rw [List.append_assoc, ← whole, List.takeWhile_append_dropWhile]
    · exact fun c member => List.mem_takeWhile_imp member
    · exact fun c member => List.mem_takeWhile_imp (List.mem_reverse.mp member)
  · intro c first
    refine drop_blanks_first cs c ?_
    rw [whole, List.head?_append, first]
    rfl
  · intro c last
    rw [trimBlanks, List.getLast?_reverse] at last
    exact drop_blanks_first _ c last

theorem trimmed_iff (cs core : List Char) : Trimmed cs core ↔ trimBlanks cs = core := by
  constructor
  · exact trim_blanks_of_trimmed cs core
  · intro same
    rw [← same]
    exact trimmed_trim_blanks cs

def Spells (text name : List Char) : Prop := List.Forall₂ (fun c d => c = d ∨ c = d.toUpper) text name

theorem to_lower_code (c : Char) :
    c.toLower.val.toNat = if 65 ≤ c.val.toNat ∧ c.val.toNat ≤ 90 then c.val.toNat + 32 else c.val.toNat := by
  by_cases capital : 'A'.val ≤ c.val ∧ c.val ≤ 'Z'.val
  · have bounds : 65 ≤ c.val.toNat ∧ c.val.toNat ≤ 90 := capital
    have lowered : c.toLower.val = c.val + ('a'.val - 'A'.val) := by
      delta Char.toLower
      rw [dif_pos capital]
    have codes : 'a'.val.toNat = 97 ∧ 'A'.val.toNat = 65 := ⟨rfl, rfl⟩
    rw [lowered, if_pos bounds, UInt32.toNat_add, UInt32.toNat_sub]
    omega
  · have kept : c.toLower.val = c.val := by
      delta Char.toLower
      rw [dif_neg capital]
    rw [kept]
    exact (if_neg capital).symm

theorem to_upper_code (d : Char) :
    d.toUpper.val.toNat = if 97 ≤ d.val.toNat ∧ d.val.toNat ≤ 122 then d.val.toNat - 32 else d.val.toNat := by
  by_cases small : 'a'.val ≤ d.val ∧ d.val ≤ 'z'.val
  · have bounds : 97 ≤ d.val.toNat ∧ d.val.toNat ≤ 122 := small
    have raised : d.toUpper.val = d.val + ('A'.val - 'a'.val) := by
      delta Char.toUpper
      rw [dif_pos small]
    have codes : 'a'.val.toNat = 97 ∧ 'A'.val.toNat = 65 := ⟨rfl, rfl⟩
    rw [raised, if_pos bounds, UInt32.toNat_add, UInt32.toNat_sub]
    omega
  · have kept : d.toUpper.val = d.val := by
      delta Char.toUpper
      rw [dif_neg small]
    rw [kept]
    exact (if_neg small).symm

theorem to_lower_iff (c d : Char) (small : d.isLower = true) : c.toLower = d ↔ c = d ∨ c = d.toUpper := by
  have letter := Bool.and_eq_true_iff.mp small
  have bounds : 97 ≤ d.val.toNat ∧ d.val.toNat ≤ 122 := ⟨of_decide_eq_true letter.1, of_decide_eq_true letter.2⟩
  have lowered := to_lower_code c
  have raised := to_upper_code d
  rw [if_pos bounds] at raised
  simp only [Char.ext_iff, ← UInt32.toNat_inj]
  split at lowered <;> omega

theorem lower_spells_iff (text name : List Char) (small : ∀ d ∈ name, d.isLower = true) :
    text.map Char.toLower = name ↔ Spells text name := by
  induction text generalizing name with
  | nil => cases name <;> simp [Spells]
  | cons c rest ih =>
      cases name with
      | nil => simp [Spells]
      | cons d letters =>
          have here := to_lower_iff c d (small d List.mem_cons_self)
          have later := ih letters fun e member => small e (List.mem_cons_of_mem d member)
          simp only [Spells, List.map_cons, List.cons.injEq, List.forall₂_cons] at later ⊢
          rw [here, later]

end PulseAnalyzer
