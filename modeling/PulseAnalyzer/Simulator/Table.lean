set_option autoImplicit false

namespace PulseAnalyzer

abbrev Table (κ α : Type) := List (κ × α)

namespace Table

variable {κ α : Type} [DecidableEq κ]

def lookup (key : κ) : Table κ α → Option α
  | [] => none
  | (k, value) :: rest => if key = k then some value else lookup key rest

def erase (key : κ) (table : Table κ α) : Table κ α := table.filter fun entry => entry.1 ≠ key

def put (key : κ) (value : α) (table : Table κ α) : Table κ α := (key, value) :: erase key table

theorem lookup_erase (key other : κ) (table : Table κ α) :
    lookup other (erase key table) = if other = key then none else lookup other table := by
  induction table with
  | nil => simp [erase, lookup]
  | cons entry rest ih =>
    rcases entry with ⟨k, value⟩
    simp only [erase, List.filter_cons] at ih ⊢
    by_cases same : k = key
    · subst same
      simp only [ne_eq, not_true_eq_false, decide_false, Bool.false_eq_true, if_false, ih, lookup]
      by_cases here : other = k <;> simp [here]
    · simp only [ne_eq, same, not_false_eq_true, decide_true, if_true, lookup, ih]
      by_cases here : other = k
      · subst here
        simp [same]
      · simp [here]

theorem lookup_put (key other : κ) (value : α) (table : Table κ α) :
    lookup other (put key value table) =
      if other = key then some value else lookup other table := by
  by_cases here : other = key
  · simp [put, lookup, here]
  · simp [put, lookup, lookup_erase, here]

end Table
end PulseAnalyzer
