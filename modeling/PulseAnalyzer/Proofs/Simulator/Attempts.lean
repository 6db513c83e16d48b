import PulseAnalyzer.Proofs.Simulator.ValueStore

set_option autoImplicit false

namespace PulseAnalyzer

abbrev Answers := List (Instant × Event)

namespace Injection

-- No counter reaches its end in so many more calls.
def Room (left : Nat) (i : Injection) : Prop :=
  ∀ operation, i.count operation + left * i.scenarios.length < UInt32.size

theorem consult_bounded (own : List Scenario) (seen : Nat) : (consult own seen).2 ≤ seen + own.length := by
  induction own generalizing seen with
  | nil => exact Nat.le_refl seen
  | cons first rest ih =>
      cases first with
      | always operation code => exact Nat.le_add_right seen (rest.length + 1)
      | after operation passes code =>
          have later := ih (seen + 1)
          rw [consult, List.length_cons]
          split
          · exact Nat.add_le_add_left (Nat.le_add_left 1 rest.length) seen
          · omega

theorem consult_counter_within (checked : Bool) (own : List Scenario) (seen : Nat)
    (room : seen + own.length < UInt32.size) :
    consultCounter checked own seen = (some (consult own seen).1, (consult own seen).2) := by
  induction own generalizing seen with
  | nil => rfl
  | cons first rest ih =>
      cases first with
      | always operation code => rfl
      | after operation passes code =>
          rw [List.length_cons] at room
          have next : nextCount? checked seen = some (seen + 1) := if_pos (by omega)
          rw [consultCounter, next, consult]
          by_cases spent : passes < seen + 1
          · simp only [if_pos spent]
          · simp only [if_neg spent]
            exact ih (seen + 1) (by omega)

section room
variable (i : Injection) (left : Nat) (operation : String) (room : i.Room (left + 1))
include room

theorem attempt_within (checked : Bool) :
    i.attempt checked operation = (some (i.check operation).1, (i.check operation).2) := by
  have few : (i.scenarios.filter fun s => s.operation = operation).length ≤ i.scenarios.length :=
    List.length_filter_le _ _
  have bound := room operation
  rw [Nat.succ_mul] at bound
  rw [attempt, consult_counter_within checked _ _ (by omega)]
  rfl

theorem check_room : (i.check operation).2.Room left := by
  intro other
  have bound := room other
  rw [Nat.succ_mul] at bound
  change (Table.lookup other (Table.put operation _ i.counts)).getD 0 + left * i.scenarios.length < UInt32.size
  rw [Table.lookup_put]
  by_cases same : other = operation
  · subst same
    have few : (i.scenarios.filter fun s => s.operation = other).length ≤ i.scenarios.length := List.length_filter_le _ _
    have counted := consult_bounded (i.scenarios.filter fun s => s.operation = other) (i.count other)
    rw [if_pos rfl, Option.getD_some]
    omega
  · rw [if_neg same]
    change i.count other + left * i.scenarios.length < UInt32.size
    omega

end room
end Injection

namespace SimulatedApi
open Acquisition

def reached (s : SimulatedApi) (checked : Bool) (past : List (Instant × Call)) : SimulatedApi :=
  past.foldl (fun s asked => (s.attempt checked asked.1 asked.2).2) s

def answers (s : SimulatedApi) (checked : Bool) : List (Instant × Call) → Answers
  | [] => []
  | (now, call) :: rest =>
    let made := s.attempt checked now call
    (made.1.map fun answer => (now, ⟨.api call, answer⟩)).toList ++ made.2.answers checked rest

def logged (s : SimulatedApi) (call : Call) (injection : Injection) : SimulatedApi :=
  { s with calls := s.calls.push call, injection }

-- A call is abandoned, or refused, or it does its work with no counter overflowing where this is checked.
inductive Attempted (s : SimulatedApi) (checked : Bool) (now : Instant) (call : Call) :
    Option call.Answer × SimulatedApi → Prop where
  | abandoned (injection : Injection) : Attempted s checked now call (none, s.logged call injection)
  | refused (injection : Injection) (code : Int) :
      Attempted s checked now call (some (.error code), s.logged call injection)
  | done (injection : Injection) (fits : checked = true → s.overflows call = false) :
      Attempted s checked now call (some (.ok ((s.logged call injection).perform now call).1),
        ((s.logged call injection).perform now call).2)

theorem logged_overflows (s : SimulatedApi) (call : Call) (injection : Injection) :
    (s.logged call injection).overflows call = s.overflows call := by
  cases call with
  | special target run => cases run <;> rfl
  | _ => rfl

theorem attempt_attempted (s : SimulatedApi) (checked : Bool) (now : Instant) (call : Call) :
    s.Attempted checked now call (s.attempt checked now call) := by
  unfold attempt
  generalize s.injection.attempt checked call.operation = found
  obtain ⟨verdict, injection⟩ := found
  match verdict with
  | none => exact .abandoned injection
  | some (.error code) => exact .refused injection code
  | some (.ok ()) =>
      change s.Attempted checked now call (if !(s.logged call injection).reaches call then _ else
        if checked && (s.logged call injection).overflows call then _ else _)
      rw [logged_overflows]
      split
      · exact .refused injection badChannel
      · split
        · exact .abandoned injection
        · rename_i fits
          exact .done injection fun enforced => by simpa [enforced] using fits

theorem perform_counters (s : SimulatedApi) (now : Instant) (call : Call) :
    (s.perform now call).2.injection = s.injection ∧
    ((s.perform now call).2.snapshots = s.snapshots ∨ (s.perform now call).2.snapshots = 0 ∨
      (s.perform now call).2.snapshots = s.snapshots + 1) := by
  cases call with
  | startRun target resume =>
      cases resume with
      | true => exact ⟨rfl, .inl rfl⟩
      | false => exact ⟨rfl, .inr (.inl rfl)⟩
  | runActive channel =>
      obtain ⟨script, running, same⟩ := s.poll_changes now channel
      change (s.poll now channel).2.injection = s.injection ∧ ((s.poll now channel).2.snapshots = s.snapshots ∨ _)
      rw [same]
      exact ⟨rfl, .inl rfl⟩
  | special target run =>
      cases run with
      | snapshot clear => exact ⟨rfl, .inr (.inr rfl)⟩
      | adcTrace period => exact ⟨rfl, .inl rfl⟩
  | _ => exact ⟨rfl, .inl rfl⟩

structure Room (left : Nat) (s : SimulatedApi) : Prop where
  failures : s.injection.Room left
  snapshots : s.snapshots.toNat + left < UInt32.size

section room
variable (s : SimulatedApi) (left : Nat) (room : s.Room (left + 1)) (now : Instant) (call : Call)
include room

theorem unfilled (call : Call) : s.overflows call = false := by
  cases call with
  | special target run =>
      cases run with
      | snapshot clear =>
          refine decide_eq_false fun full => ?_
          have bound := room.snapshots
          have wrapped : (s.snapshots.toNat + 1) % UInt32.size = 0 := congrArg UInt32.toNat full
          rw [Nat.mod_eq_of_lt (by omega)] at wrapped
          cases wrapped
      | adcTrace period => rfl
  | _ => rfl

theorem attempt_answered (checked : Bool) :
    s.attempt checked now call = (some (s.answer now call).1, (s.answer now call).2) := by
  have found := s.injection.attempt_within left call.operation room.failures checked
  have fits : (s.noted call).overflows call = false := (s.logged_overflows call _).trans (s.unfilled left room call)
  rw [attempt, found, answer, enter]
  cases verdict : (s.injection.check call.operation).1 with
  | error code => rfl
  | ok done =>
      change (if !(s.noted call).reaches call then _ else if checked && (s.noted call).overflows call then _ else _) = _
      rw [fits, Bool.and_false, reaches]
      cases named : channelOf? call with
      | none => rfl
      | some channel =>
          change (if !decide (channel < s.channels) then _ else _) = _
          by_cases beyond : s.channels ≤ channel
          · simp [Nat.not_lt.mpr beyond, beyond]
          · simp [Nat.not_le.mp beyond, beyond]

theorem answer_room : (s.answer now call).2.Room left := by
  have later := s.injection.check_room left call.operation room.failures
  have bound := room.snapshots
  rcases s.answer_cases now call with ⟨code, -, same⟩ | ⟨-, same⟩
  · rw [same]
    exact ⟨later, show s.snapshots.toNat + left < UInt32.size by omega⟩
  · rw [same]
    obtain ⟨kept, counted⟩ := (s.noted call).perform_counters now call
    refine ⟨kept.symm ▸ later, ?_⟩
    change ((s.noted call).perform now call).2.snapshots.toNat + left < UInt32.size
    have grown : ((s.noted call).perform now call).2.snapshots.toNat ≤ s.snapshots.toNat + 1 := by
      rcases counted with unchanged | cleared | next
      · rw [unchanged]
        exact Nat.le_succ _
      · rw [cleared]
        exact Nat.zero_le _
      · rw [next]
        exact Nat.mod_le _ _
    omega

end room

theorem reached_answered (s : SimulatedApi) (checked : Bool) (past : List (Instant × Call)) (room : s.Room past.length) :
    s.reached checked past = s.after past ∧ (s.answers checked past).map Prod.snd = s.history past := by
  induction past generalizing s with
  | nil => exact ⟨rfl, rfl⟩
  | cons asked rest ih =>
      obtain ⟨now, call⟩ := asked
      have answered := s.attempt_answered rest.length room now call checked
      obtain ⟨same, told⟩ := ih (s.answer now call).2 (s.answer_room rest.length room now call)
      constructor
      · change (s.attempt checked now call).2.reached checked rest = _
        rw [answered]
        exact same
      · rw [answers, answered, history, ← told]
        rfl

theorem planned_room (channels : Nat) (seed : UInt64) (script : List Bool) (scenarios : List Scenario) (calls : Nat)
    (few : calls * (scenarios.length + 1) < UInt32.size) : (planned channels seed script scenarios).Room calls := by
  rw [Nat.mul_succ] at few
  constructor
  · intro operation
    change 0 + calls * scenarios.length < UInt32.size
    omega
  · change 0 + calls < UInt32.size
    omega

end SimulatedApi
end PulseAnalyzer
