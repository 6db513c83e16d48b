set_option autoImplicit false

namespace PulseAnalyzer

abbrev Entries (α : Type) := List (String × α)

namespace Entries

variable {α : Type}

def get? (key : String) : Entries α → Option α
  | [] => none
  | (k, value) :: rest => if key = k then some value else get? key rest

def put (key : String) (value : α) : Entries α → Entries α
  | [] => [(key, value)]
  | (k, old) :: rest =>
    if key = k then (key, value) :: rest
    else if key < k then (key, value) :: (k, old) :: rest
    else (k, old) :: put key value rest

theorem get?_put_same (key : String) (value : α) (entries : Entries α) :
    get? key (put key value entries) = some value := by
  induction entries with
  | nil => simp [put, get?]
  | cons entry rest ih =>
    rcases entry with ⟨k, old⟩
    by_cases same : key = k
    · simp [put, get?, same]
    · by_cases less : key < k
      · simp [put, get?, same, less]
      · simpa [put, get?, same, less] using ih

theorem get?_put_other (key other : String) (value : α) (entries : Entries α)
    (different : other ≠ key) : get? other (put key value entries) = get? other entries := by
  induction entries with
  | nil => simp [put, get?, different]
  | cons entry rest ih =>
    rcases entry with ⟨k, old⟩
    by_cases same : key = k
    · subst same
      simp [put, get?, different]
    · by_cases less : key < k
      · simp [put, get?, same, less, different]
      · by_cases here : other = k
        · simp [put, get?, same, less, here]
        · simpa [put, get?, same, less, here] using ih

end Entries
end PulseAnalyzer
