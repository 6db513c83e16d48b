import Mathlib.Data.List.Induction
import PulseAnalyzer.Simulator.Injection

set_option autoImplicit false

namespace PulseAnalyzer

namespace Injection

-- How many calls the scenarios let pass, with their codes, up to the first that lets none pass.
def allowances : List Scenario → List (Nat × Int)
  | .after _ passes code :: rest => (passes, code) :: allowances rest
  | _ => []

def refusal? : List Scenario → Option Int
  | [] => .none
  | .always _ code :: _ => some code
  | .after _ _ _ :: rest => refusal? rest

def owned (scenarios : List Scenario) (operation : String) : List Scenario :=
  scenarios.filter fun s => s.operation = operation

-- One more call passes all of these when the count stands at `seen`: the first is consulted at `seen + 1`, the next
-- at `seen + 2`, and so on.
def Spares (given : List (Nat × Int)) (seen : Nat) : Prop :=
  ∀ i entry, given[i]? = some entry → seen + (i + 1) ≤ entry.1

structure FirstSpent (given : List (Nat × Int)) (seen i : Nat) (entry : Nat × Int) : Prop where
  here : given[i]? = some entry
  spent : entry.1 < seen + (i + 1)
  least : ∀ k < i, ∀ other, given[k]? = some other → seen + (k + 1) ≤ other.1

theorem spares_cons (first : Nat × Int) (rest : List (Nat × Int)) (seen : Nat) (head : seen + 1 ≤ first.1)
    (tail : Spares rest (seen + 1)) : Spares (first :: rest) seen := by
  intro i entry here
  cases i with
  | zero =>
      cases Option.some.inj here
      exact head
  | succ i =>
      have bound := tail i entry here
      omega

theorem spares_tail (first : Nat × Int) (rest : List (Nat × Int)) (seen : Nat) (spares : Spares (first :: rest) seen) :
    Spares rest (seen + 1) := by
  intro i entry here
  have bound := spares (i + 1) entry here
  omega

theorem spares_mono (given : List (Nat × Int)) (seen less : Nat) (fewer : less ≤ seen) (spares : Spares given seen) :
    Spares given less := by
  intro i entry here
  have bound := spares i entry here
  omega

theorem first_spent_cons (first entry : Nat × Int) (rest : List (Nat × Int)) (seen i : Nat) (passes : seen + 1 ≤ first.1)
    (later : FirstSpent rest (seen + 1) i entry) : FirstSpent (first :: rest) seen (i + 1) entry := by
  refine ⟨later.here, ?_, fun k before other here => ?_⟩
  · have beyond := later.spent
    omega
  · cases k with
    | zero =>
        cases Option.some.inj here
        exact passes
    | succ k =>
        have bound := later.least k (Nat.lt_of_succ_lt_succ before) other here
        omega

theorem spares_or_spent (given : List (Nat × Int)) (seen : Nat) :
    Spares given seen ∨ ∃ i entry, FirstSpent given seen i entry := by
  induction given generalizing seen with
  | nil => exact .inl nofun
  | cons first rest ih =>
      by_cases passes : seen + 1 ≤ first.1
      · rcases ih (seen + 1) with spares | ⟨i, entry, later⟩
        · exact .inl (spares_cons first rest seen passes spares)
        · exact .inr ⟨i + 1, entry, first_spent_cons first entry rest seen i passes later⟩
      · exact .inr ⟨0, first, rfl, Nat.lt_of_not_le passes, nofun⟩

theorem first_spent_unspared (given : List (Nat × Int)) (seen i : Nat) (entry : Nat × Int)
    (first : FirstSpent given seen i entry) : ¬ Spares given seen :=
  fun spares => Nat.not_lt.mpr (spares i entry first.here) first.spent

theorem first_spent_once (given : List (Nat × Int)) (seen i j : Nat) (a b : Nat × Int) (one : FirstSpent given seen i a)
    (other : FirstSpent given seen j b) : a = b := by
  have same : i = j := by
    by_contra differs
    rcases Nat.lt_or_gt_of_ne differs with before | after
    · exact Nat.not_lt.mpr (other.least i before a one.here) one.spent
    · exact Nat.not_lt.mpr (one.least j after b other.here) other.spent
  subst same
  exact Option.some.inj (one.here.symm.trans other.here)

theorem consult_spared (own : List Scenario) (seen : Nat) (spares : Spares (allowances own) seen) :
    consult own seen = ((refusal? own).elim (.ok ()) .error, seen + (allowances own).length) := by
  induction own generalizing seen with
  | nil => rfl
  | cons s rest ih =>
      cases s with
      | always operation code => rfl
      | after operation passes code =>
          have passing : ¬ passes < seen + 1 := Nat.not_lt.mpr (spares 0 (passes, code) rfl)
          have counted : seen + 1 + (allowances rest).length = seen + ((allowances rest).length + 1) := by omega
          simp [consult, passing, ih (seen + 1) (spares_tail _ _ seen spares), refusal?, allowances, counted]

theorem consult_spent (own : List Scenario) (seen i : Nat) (entry : Nat × Int)
    (first : FirstSpent (allowances own) seen i entry) : consult own seen = (.error entry.2, seen + (i + 1)) := by
  induction own generalizing seen i with
  | nil => cases first.here
  | cons s rest ih =>
      cases s with
      | always operation code => cases first.here
      | after operation passes code =>
          obtain ⟨here, spent, least⟩ := first
          cases i with
          | zero =>
              cases Option.some.inj here
              simp only [consult, if_pos spent]
          | succ i =>
              have passing : ¬ passes < seen + 1 := Nat.not_lt.mpr (least 0 (Nat.succ_pos i) (passes, code) rfl)
              have later : FirstSpent (allowances rest) (seen + 1) i entry := by
                refine ⟨here, by omega, fun k before other found => ?_⟩
                have bound := least (k + 1) (Nat.succ_lt_succ before) other found
                omega
              have counted : seen + 1 + (i + 1) = seen + (i + 1 + 1) := by omega
              simp [consult, passing, ih (seen + 1) i later, counted]

theorem refusal_none_iff (own : List Scenario) :
    refusal? own = .none ↔ ∀ operation code, Scenario.always operation code ∉ own := by
  induction own with
  | nil => simp [refusal?]
  | cons s rest ih =>
      cases s with
      | always operation code =>
          refine ⟨nofun, fun absent => ?_⟩
          exact absurd List.mem_cons_self (absent operation code)
      | after operation passes code => simp [refusal?, ih]

theorem refusal_owned_iff (scenarios : List Scenario) (operation : String) :
    refusal? (owned scenarios operation) = .none ↔ ∀ code, Scenario.always operation code ∉ scenarios := by
  rw [refusal_none_iff]
  constructor
  · intro absent code member
    exact absent operation code (List.mem_filter.mpr ⟨member, decide_eq_true rfl⟩)
  · intro absent other code member
    obtain ⟨present, same⟩ := List.mem_filter.mp member
    cases (of_decide_eq_true same : other = operation)
    exact absent code present

def tally (own : List Scenario) : Nat → Nat
  | 0 => 0
  | calls + 1 => (consult own (tally own calls)).2

-- Either every call has counted every allowance once, or one allowance had nothing left for an earlier call and its
-- last call is counted already. Both go on, since the count never falls.
theorem tally_cases (own : List Scenario) (calls : Nat) :
    tally own calls = calls * (allowances own).length ∨
    ∃ i entry before, (allowances own)[i]? = some entry ∧ before < calls ∧ entry.1 < tally own calls ∧
      entry.1 < before * (allowances own).length + (i + 1) := by
  induction calls with
  | zero => exact .inl (by simp [tally])
  | succ calls ih =>
      rcases spares_or_spent (allowances own) (tally own calls) with spares | ⟨j, found, first⟩
      · have counted : tally own (calls + 1) = tally own calls + (allowances own).length := by
          rw [tally, consult_spared own _ spares]
        rcases ih with even | ⟨i, entry, before, here, earlier, passed, spent⟩
        · exact .inl (by rw [counted, even, Nat.succ_mul])
        · have bound := spares i entry here
          omega
      · have counted : tally own (calls + 1) = tally own calls + (j + 1) := by
          rw [tally, consult_spent own _ j found first]
        rcases ih with even | ⟨i, entry, before, here, earlier, passed, spent⟩
        · have beyond := first.spent
          rw [even] at beyond
          exact .inr ⟨j, found, calls, first.here, Nat.lt_succ_self calls, by rw [counted, even]; exact beyond, beyond⟩
        · exact .inr ⟨i, entry, before, here, by omega, by omega, spent⟩

theorem tally_passes_iff (own : List Scenario) (calls : Nat) :
    (consult own (tally own calls)).1 = .ok () ↔
      refusal? own = .none ∧ Spares (allowances own) (calls * (allowances own).length) := by
  have plain : (consult own (tally own calls)).1 = .ok () ↔
      refusal? own = .none ∧ Spares (allowances own) (tally own calls) := by
    rcases spares_or_spent (allowances own) (tally own calls) with spares | ⟨i, entry, first⟩
    · rw [consult_spared own _ spares]
      cases refusal? own <;> simp [spares]
    · simp [consult_spent own _ i entry first, first_spent_unspared _ _ i entry first]
  rw [plain]
  rcases tally_cases own calls with even | ⟨i, entry, before, here, earlier, passed, spent⟩
  · rw [even]
  · have now : ¬ Spares (allowances own) (tally own calls) := by
      intro spares
      have bound := spares i entry here
      omega
    have fewer : before * (allowances own).length ≤ calls * (allowances own).length :=
      Nat.mul_le_mul_right _ (Nat.le_of_lt earlier)
    have ever : ¬ Spares (allowances own) (calls * (allowances own).length) := by
      intro spares
      have bound := spares i entry here
      omega
    simp [now, ever]

theorem tally_unfailing (own : List Scenario) (calls : Nat)
    (passed : ∀ before < calls, (consult own (tally own before)).1 = .ok ()) :
    tally own calls = calls * (allowances own).length := by
  rcases tally_cases own calls with even | ⟨i, entry, before, here, earlier, -, spent⟩
  · exact even
  · have bound := ((tally_passes_iff own before).mp (passed before earlier)).2 i entry here
    omega

def asked (i : Injection) (past : List String) : Injection :=
  past.foldl (fun i operation => (i.check operation).2) i

theorem asked_scenarios (i : Injection) (past : List String) : (i.asked past).scenarios = i.scenarios := by
  induction past generalizing i with
  | nil => rfl
  | cons operation rest ih => exact ih (i.check operation).2

theorem asked_count (scenarios : List Scenario) (past : List String) (operation : String) :
    ((ofList scenarios).asked past).count operation = tally (owned scenarios operation) (past.count operation) := by
  induction past using List.reverseRecOn with
  | nil => rfl
  | append_singleton past other ih =>
      have kept : ((ofList scenarios).asked past).scenarios = scenarios := asked_scenarios _ past
      have stepped : (ofList scenarios).asked (past ++ [other]) = (((ofList scenarios).asked past).check other).2 :=
        List.foldl_append
      rw [stepped, count, check, Table.lookup_put, kept]
      by_cases same : operation = other
      · subst same
        rw [if_pos rfl, List.count_append, List.count_singleton_self, ih]
        rfl
      · rw [if_neg same, List.count_append, List.count_singleton, if_neg (by simpa using Ne.symm same)]
        exact ih

theorem check_asked (scenarios : List Scenario) (past : List String) (operation : String) :
    (((ofList scenarios).asked past).check operation).1 =
      (consult (owned scenarios operation) (tally (owned scenarios operation) (past.count operation))).1 := by
  have kept : ((ofList scenarios).asked past).scenarios = scenarios := asked_scenarios _ past
  rw [check, kept, asked_count]
  rfl

theorem earlier_call (past : List String) (operation : String) (calls : Nat) (fewer : calls < past.count operation) :
    ∃ before after, past = before ++ operation :: after ∧ before.count operation = calls := by
  induction past generalizing calls with
  | nil => cases fewer
  | cons first rest ih =>
      by_cases same : first = operation
      · subst same
        cases calls with
        | zero => exact ⟨[], rest, rfl, rfl⟩
        | succ calls =>
            rw [List.count_cons_self] at fewer
            obtain ⟨before, after, split, counted⟩ := ih calls (Nat.lt_of_succ_lt_succ fewer)
            exact ⟨first :: before, after, by rw [split]; rfl, by rw [List.count_cons_self, counted]⟩
      · rw [List.count_cons_of_ne same] at fewer
        obtain ⟨before, after, split, counted⟩ := ih calls fewer
        exact ⟨first :: before, after, by rw [split]; rfl, by rw [List.count_cons_of_ne same, counted]⟩

theorem check_passes_iff (scenarios : List Scenario) (past : List String) (operation : String) :
    (((ofList scenarios).asked past).check operation).1 = .ok () ↔
      (∀ code, Scenario.always operation code ∉ scenarios) ∧
      Spares (allowances (owned scenarios operation))
        (past.count operation * (allowances (owned scenarios operation)).length) := by
  rw [check_asked, tally_passes_iff, refusal_owned_iff]

theorem check_unfailing (scenarios : List Scenario) (past : List String) (operation : String)
    (passed : ∀ before after, past = before ++ operation :: after →
      (((ofList scenarios).asked before).check operation).1 = .ok ()) :
    (((ofList scenarios).asked past).check operation).1 =
      (consult (owned scenarios operation)
        (past.count operation * (allowances (owned scenarios operation)).length)).1 := by
  rw [check_asked, tally_unfailing]
  intro calls fewer
  obtain ⟨before, after, split, counted⟩ := earlier_call past operation calls fewer
  rw [← counted, ← check_asked]
  exact passed before after split

theorem consult_error_iff (own : List Scenario) (seen : Nat) (code : Int) :
    (consult own seen).1 = .error code ↔
      (∃ i entry, FirstSpent (allowances own) seen i entry ∧ code = entry.2) ∨
      (Spares (allowances own) seen ∧ refusal? own = some code) := by
  rcases spares_or_spent (allowances own) seen with spares | ⟨i, entry, first⟩
  · have unspent : ¬ ∃ i entry, FirstSpent (allowances own) seen i entry ∧ code = entry.2 :=
      fun ⟨i, entry, first, _⟩ => first_spent_unspared _ seen i entry first spares
    rw [consult_spared own seen spares, or_iff_right unspent, and_iff_right spares]
    cases refusal? own <;> simp
  · have unspared := first_spent_unspared _ seen i entry first
    rw [consult_spent own seen i entry first]
    constructor
    · intro same
      exact .inl ⟨i, entry, first, (Except.error.inj same).symm⟩
    · rintro (⟨j, other, again, told⟩ | ⟨spares, -⟩)
      · rw [told, first_spent_once _ seen i j entry other first again]
      · exact absurd spares unspared

theorem check_counts_calls (scenarios : List Scenario) (past : List String) (operation : String) :
    let given := allowances (owned scenarios operation)
    let seen := past.count operation * given.length
    let result (calls : List String) := (((ofList scenarios).asked calls).check operation).1
    (∀ other, other.count operation = past.count operation → result other = result past) ∧
    (result past = .ok () ↔ (∀ code, Scenario.always operation code ∉ scenarios) ∧
      ∀ i entry, given[i]? = some entry → seen + (i + 1) ≤ entry.1) ∧
    (∀ passes code, owned scenarios operation = [.after operation passes code] →
      (result past = .ok () ↔ past.count operation < passes)) ∧
    (result past ≠ .ok () → ∀ later, result (past ++ later) ≠ .ok ()) ∧
    ((∀ before after, past = before ++ operation :: after → result before = .ok ()) → ∀ code,
      result past = .error code ↔
        (∃ i entry, FirstSpent given seen i entry ∧ code = entry.2) ∨
        (Spares given seen ∧ refusal? (owned scenarios operation) = some code)) := by
  intro given seen result
  refine ⟨fun other equal => ?_, check_passes_iff scenarios past operation, fun passes code single => ?_,
    fun failed later passed => failed ?_, fun passed code => ?_⟩
  · change (((ofList scenarios).asked other).check operation).1 = (((ofList scenarios).asked past).check operation).1
    rw [check_asked, check_asked, equal]
  · have sole : Spares [(passes, code)] (past.count operation * 1) ↔ past.count operation < passes := by
      constructor
      · intro spares
        have bound := spares 0 (passes, code) rfl
        omega
      · intro fewer
        exact spares_cons _ [] _ (by omega) nofun
    change (((ofList scenarios).asked past).check operation).1 = .ok () ↔ past.count operation < passes
    rw [check_asked, tally_passes_iff, single]
    exact (and_iff_right rfl).trans sole
  · obtain ⟨never, spares⟩ := (check_passes_iff scenarios (past ++ later) operation).mp passed
    refine (check_passes_iff scenarios past operation).mpr ⟨never, spares_mono _ _ _ ?_ spares⟩
    rw [List.count_append]
    exact Nat.mul_le_mul_right _ (Nat.le_add_right _ _)
  · have told := consult_error_iff (owned scenarios operation) seen code
    rw [← check_unfailing scenarios past operation passed] at told
    exact told

-- Three allowances of one operation, of which the second is spent first, and one of another operation.
theorem second_allowance_spent :
    let scenarios : List Scenario :=
      [.after "run_active" 5 (-7), .after "open" 1 (-1), .after "run_active" 3 (-8), .after "run_active" 9 (-9)]
    let result (operation : String) (calls : List String) := (((ofList scenarios).asked calls).check operation).1
    let past := ["open", "run_active"]
    (∀ before after, past = before ++ "run_active" :: after → result "run_active" before = .ok ()) ∧
    result "run_active" past = .error (-8) ∧
    result "run_active" ["run_active", "stop_run"] = result "run_active" past ∧
    result "run_active" (past ++ ["open", "run_active", "open"]) ≠ .ok () ∧
    result "open" past ≠ .ok () := by
  intro scenarios result past
  have passed : ∀ before after, past = before ++ "run_active" :: after → result "run_active" before = .ok () := by
    intro before after split
    have counted : before.count "run_active" = 0 := by
      have whole := congrArg (List.count "run_active") split
      rw [List.count_append, List.count_cons_self] at whole
      have one : past.count "run_active" = 1 := rfl
      omega
    obtain ⟨depends, -⟩ := check_counts_calls scenarios [] "run_active"
    exact depends before counted
  obtain ⟨depends, -, -, sticks, tells⟩ := check_counts_calls scenarios past "run_active"
  obtain ⟨-, -, single, -, -⟩ := check_counts_calls scenarios past "open"
  have failed : result "run_active" past = .error (-8) :=
    (tells passed (-8)).mpr (.inl ⟨1, (3, -8), ⟨rfl, by decide, by decide⟩, rfl⟩)
  have refused : result "run_active" past ≠ .ok () := fun same => nomatch failed.symm.trans same
  have unopened : result "open" past ≠ .ok () := fun same => Nat.lt_irrefl 1 ((single 1 (-1) rfl).mp same)
  exact ⟨passed, failed, depends _ rfl, sticks refused _, unopened⟩

end Injection
end PulseAnalyzer
