import Mathlib.Data.List.Induction
import PulseAnalyzer.Proofs.Simulator.Untouched

set_option autoImplicit false

namespace PulseAnalyzer

def Event.SetsValue (channel : Nat) (name : String) : Event → Prop
  | ⟨.api (.setValue other title _), .ok _⟩ => other = channel ∧ title = name
  | _ => False

namespace SimulatedApi
open Acquisition

def planned (channels : Nat) (seed : UInt64) (script : List Bool) (scenarios : List Scenario) : SimulatedApi :=
  { make channels seed with script, injection := .ofList scenarios }

def after (s : SimulatedApi) (past : List (Instant × Call)) : SimulatedApi :=
  past.foldl (fun s asked => (s.answer asked.1 asked.2).2) s

def history (s : SimulatedApi) : List (Instant × Call) → List Event
  | [] => []
  | (now, call) :: rest => ⟨.api call, (s.answer now call).1⟩ :: (s.answer now call).2.history rest

theorem after_append (s : SimulatedApi) (past later : List (Instant × Call)) :
    s.after (past ++ later) = (s.after past).after later := List.foldl_append

theorem history_append (s : SimulatedApi) (past later : List (Instant × Call)) :
    s.history (past ++ later) = s.history past ++ (s.after past).history later := by
  induction past generalizing s with
  | nil => rfl
  | cons first rest ih => exact congrArg (List.cons _) (ih (s.answer first.1 first.2).2)

-- A planned failure comes first, then a channel that does not exist.
inductive Refuses (s : SimulatedApi) (call : Call) : Int → Prop where
  | planned (code : Int) (fails : (s.injection.check call.operation).1 = .error code) : Refuses s call code
  | unknown (channel : Nat) (passes : (s.injection.check call.operation).1 = .ok ()) (named : channelOf? call = some channel)
      (beyond : s.channels ≤ channel) : Refuses s call badChannel

theorem refuses_once (s : SimulatedApi) (call : Call) (a b : Int) (first : s.Refuses call a) (second : s.Refuses call b) :
    a = b := by
  cases first with
  | planned code fails =>
      cases second with
      | planned other again => exact Except.error.inj (fails.symm.trans again)
      | unknown channel passes => cases fails.symm.trans passes
  | unknown channel passes =>
      cases second with
      | planned other fails => cases fails.symm.trans passes
      | unknown => rfl

def noted (s : SimulatedApi) (call : Call) : SimulatedApi :=
  { s with calls := s.calls.push call, injection := (s.injection.check call.operation).2 }

theorem enter_cases (s : SimulatedApi) (call : Call) :
    (∃ code, s.Refuses call code ∧ s.enter call = (.error code, s.noted call)) ∨
    ((∀ code, ¬ s.Refuses call code) ∧ s.enter call = (.ok (), s.noted call)) := by
  cases checked : (s.injection.check call.operation).1 with
  | error code => exact .inl ⟨code, .planned code checked, by simp only [enter, checked]; rfl⟩
  | ok done =>
      have unplanned (code : Int) (refuses : s.Refuses call code) :
          ∃ channel, channelOf? call = some channel ∧ s.channels ≤ channel := by
        cases refuses with
        | planned _ fails => cases checked.symm.trans fails
        | unknown channel _ named beyond => exact ⟨channel, named, beyond⟩
      cases named : channelOf? call with
      | none =>
          refine .inr ⟨fun code refuses => ?_, by simp only [enter, checked, named]; rfl⟩
          obtain ⟨channel, same, -⟩ := unplanned code refuses
          cases named.symm.trans same
      | some channel =>
          by_cases beyond : s.channels ≤ channel
          · refine .inl ⟨badChannel, .unknown channel checked named beyond, ?_⟩
            simp only [enter, checked, named, if_pos beyond]
            rfl
          · refine .inr ⟨fun code refuses => ?_, by simp only [enter, checked, named, if_neg beyond]; rfl⟩
            obtain ⟨other, same, past⟩ := unplanned code refuses
            cases named.symm.trans same
            exact beyond past

theorem answer_cases (s : SimulatedApi) (now : Instant) (call : Call) :
    (∃ code, s.Refuses call code ∧ s.answer now call = (.error code, s.noted call)) ∨
    ((∀ code, ¬ s.Refuses call code) ∧
      s.answer now call = (.ok ((s.noted call).perform now call).1, ((s.noted call).perform now call).2)) := by
  rcases s.enter_cases call with ⟨code, refuses, entered⟩ | ⟨admits, entered⟩
  · exact .inl ⟨code, refuses, by rw [answer, entered]⟩
  · exact .inr ⟨admits, by rw [answer, entered]⟩

theorem refused_iff (s : SimulatedApi) (now : Instant) (call : Call) (code : Int) :
    (s.answer now call).1 = .error code ↔ s.Refuses call code := by
  rcases s.answer_cases now call with ⟨other, refuses, same⟩ | ⟨admits, same⟩
  · rw [same]
    constructor
    · rintro ⟨⟩
      exact refuses
    · exact fun again => congrArg Except.error (s.refuses_once call other code refuses again)
  · rw [same]
    exact ⟨nofun, fun refuses => absurd refuses (admits code)⟩

theorem refused_noted (s : SimulatedApi) (now : Instant) (call : Call) (code : Int)
    (refused : (s.answer now call).1 = .error code) : (s.answer now call).2 = s.noted call := by
  rcases s.answer_cases now call with ⟨other, refuses, same⟩ | ⟨admits, same⟩
  · rw [same]
  · exact absurd ((s.refused_iff now call code).mp refused) (admits code)

theorem perform_keeps (s : SimulatedApi) (now : Instant) (call : Call) :
    (s.perform now call).2.calls = s.calls ∧ (s.perform now call).2.channels = s.channels := by
  cases call with
  | special target run => cases run <;> exact ⟨rfl, rfl⟩
  | runActive channel =>
      obtain ⟨script, running, same⟩ := s.poll_changes now channel
      change (s.poll now channel).2.calls = s.calls ∧ (s.poll now channel).2.channels = s.channels
      rw [same]
      exact ⟨rfl, rfl⟩
  | _ => exact ⟨rfl, rfl⟩

theorem answer_logs (s : SimulatedApi) (now : Instant) (call : Call) :
    (s.answer now call).2.calls = s.calls.push call ∧ (s.answer now call).2.channels = s.channels := by
  rcases s.answer_cases now call with ⟨code, -, same⟩ | ⟨-, same⟩
  · rw [same]
    exact ⟨rfl, rfl⟩
  · rw [same]
    exact (s.noted call).perform_keeps now call

theorem after_logs (s : SimulatedApi) (past : List (Instant × Call)) :
    (s.after past).calls.toList = s.calls.toList ++ past.map Prod.snd ∧ (s.after past).channels = s.channels := by
  induction past generalizing s with
  | nil => exact ⟨(List.append_nil _).symm, rfl⟩
  | cons first rest ih =>
      obtain ⟨logged, count⟩ := s.answer_logs first.1 first.2
      obtain ⟨later, kept⟩ := ih (s.answer first.1 first.2).2
      refine ⟨later.trans ?_, kept.trans count⟩
      rw [logged, Array.toList_push, List.append_assoc]
      rfl

theorem answer_unset (s : SimulatedApi) (now : Instant) (call : Call) (channel : Nat) (name : String)
    (unset : ¬ Event.SetsValue channel name ⟨.api call, (s.answer now call).1⟩) :
    (s.answer now call).2.value? channel name = s.value? channel name := by
  cases call with
  | setValue other title value =>
      rcases s.answer_cases now (.setValue other title value) with ⟨code, -, same⟩ | ⟨-, same⟩
      · rw [same]
        rfl
      · rw [same] at unset ⊢
        have differs : (channel, name) ≠ (other, title) := fun here =>
          unset ⟨(congrArg Prod.fst here).symm, (congrArg Prod.snd here).symm⟩
        exact (Table.lookup_put _ _ _ _).trans (if_neg differs)
  | _ => exact congrArg (Table.lookup (channel, name)) (Bench.call_api_values s now _ trivial)

theorem answer_set (s : SimulatedApi) (now : Instant) (channel : Nat) (name : String) (value : Float)
    (accepted : (s.answer now (.setValue channel name value)).1 = .ok ()) :
    (s.answer now (.setValue channel name value)).2.value? channel name = some value := by
  rcases s.answer_cases now (.setValue channel name value) with ⟨code, -, same⟩ | ⟨-, same⟩
  · rw [same] at accepted
    cases accepted
  · rw [same]
    exact (Table.lookup_put _ _ _ _).trans (if_pos rfl)

theorem sets_accepted (s : SimulatedApi) (now : Instant) (call : Call) (channel : Nat) (name : String)
    (sets : Event.SetsValue channel name ⟨.api call, (s.answer now call).1⟩) :
    ∃ value, call = .setValue channel name value ∧ (s.answer now (.setValue channel name value)).1 = .ok () := by
  cases call with
  | setValue other title value =>
      cases answered : (s.answer now (.setValue other title value)).1 with
      | error code =>
          rw [answered] at sets
          cases sets
      | ok done =>
          rw [answered] at sets
          obtain ⟨rfl, rfl⟩ := sets
          exact ⟨value, rfl, answered⟩
  | _ => cases sets

def Remembers (start : SimulatedApi) (past : List (Instant × Call)) (channel : Nat) (name : String) : Option Float → Prop
  | some value => ∃ early time between, past = early ++ (time, .setValue channel name value) :: between ∧
      ((start.after early).answer time (.setValue channel name value)).1 = .ok () ∧
      ∀ e ∈ ((start.after early).answer time (.setValue channel name value)).2.history between, ¬ e.SetsValue channel name
  | none => ∀ e ∈ start.history past, ¬ e.SetsValue channel name

theorem value_remembered (start : SimulatedApi) (empty : start.values = []) (past : List (Instant × Call)) (channel : Nat)
    (name : String) : start.Remembers past channel name ((start.after past).value? channel name) := by
  induction past using List.reverseRecOn with
  | nil =>
      have nothing : (start.after []).value? channel name = none := by rw [after, List.foldl_nil, value?, empty]; rfl
      rw [nothing]
      exact List.forall_mem_nil _
  | append_singleton past asked ih =>
      obtain ⟨now, call⟩ := asked
      rw [after_append]
      change start.Remembers _ channel name (((start.after past).answer now call).2.value? channel name)
      by_cases sets : Event.SetsValue channel name ⟨.api call, ((start.after past).answer now call).1⟩
      · obtain ⟨value, rfl, accepted⟩ := (start.after past).sets_accepted now call channel name sets
        rw [answer_set _ now channel name value accepted]
        exact ⟨past, now, [], rfl, accepted, List.forall_mem_nil _⟩
      · rw [answer_unset _ now call channel name sets]
        have last : ∀ e ∈ (start.after past).history [(now, call)], ¬ e.SetsValue channel name :=
          List.forall_mem_singleton.mpr sets
        cases found : (start.after past).value? channel name with
        | none =>
            rw [found] at ih
            rw [Remembers, history_append]
            exact List.forall_mem_append.mpr ⟨ih, last⟩
        | some value =>
            rw [found] at ih
            obtain ⟨early, time, between, rfl, accepted, unset⟩ := ih
            refine ⟨early, time, between ++ [(now, call)], by simp, accepted, ?_⟩
            rw [after_append] at last
            rw [history_append]
            exact List.forall_mem_append.mpr ⟨unset, last⟩

theorem api_keeps_store (channels : Nat) (seed : UInt64) (script : List Bool) (scenarios : List Scenario)
    (past : List (Instant × Call)) (now : Instant) (call : Call) :
    let start := planned channels seed script scenarios
    let s := start.after past
    let t := (s.answer now call).2
    s.calls.toList = past.map Prod.snd ∧ t.calls = s.calls.push call ∧ s.channels = channels ∧
    (∀ code, (s.answer now call).1 = .error code ↔ s.Refuses call code) ∧
    (∀ code, (s.answer now call).1 = .error code → t = s.noted call) ∧
    ∀ channel name value, (s.answer now (.getValue channel name)).1 = .ok value →
      ∃ last, start.Remembers past channel name last ∧ value = last.getD 0.0 := by
  intro start s t
  obtain ⟨logged, count⟩ := start.after_logs past
  refine ⟨logged, (s.answer_logs now call).1, count, s.refused_iff now call, s.refused_noted now call, ?_⟩
  intro channel name value read
  refine ⟨s.value? channel name, start.value_remembered rfl past channel name, ?_⟩
  rcases s.answer_cases now (.getValue channel name) with ⟨code, -, same⟩ | ⟨-, same⟩
  · rw [same] at read
    cases read
  · rw [same] at read
    exact (Except.ok.inj read).symm

-- The third value is refused and the poll of a channel beyond the last takes nothing from the script.
theorem refused_value_keeps_store :
    let start := planned 2 0 [true] [.after "set_acquisition_value" 2 (-7)]
    let past := [(0, .setValue 1 "gain" 2.5), (10, .setValue 1 "gain" 3.5), (20, .runActive 4)]
    let s := start.after past
    let t := (s.answer 30 (.setValue 1 "gain" 4.5)).2
    s.calls.toList = past.map Prod.snd ∧ s.script = [true] ∧ t = s.noted (.setValue 1 "gain" 4.5) ∧
    ∃ last, start.Remembers past 1 "gain" last ∧ 3.5 = last.getD 0.0 := by
  have refused : (((planned 2 0 [true] [.after "set_acquisition_value" 2 (-7)]).after
      [(0, .setValue 1 "gain" 2.5), (10, .setValue 1 "gain" 3.5), (20, .runActive 4)]).answer 30
      (.setValue 1 "gain" 4.5)).1 = .error (-7) := by rfl
  have read : (((planned 2 0 [true] [.after "set_acquisition_value" 2 (-7)]).after
      [(0, .setValue 1 "gain" 2.5), (10, .setValue 1 "gain" 3.5), (20, .runActive 4)]).answer 30
      (.getValue 1 "gain")).1 = .ok 3.5 := by rfl
  intro start past s t
  obtain ⟨logged, -, -, -, fails, reads⟩ :=
    api_keeps_store 2 0 [true] [.after "set_acquisition_value" 2 (-7)] past 30 (.setValue 1 "gain" 4.5)
  exact ⟨logged, rfl, fails (-7) refused, reads 1 "gain" 3.5 read⟩

end SimulatedApi
end PulseAnalyzer
