import PulseAnalyzer.Proofs.Run.Event
import PulseAnalyzer.Proofs.Simulator.ValueStore

set_option autoImplicit false

namespace PulseAnalyzer

namespace Event

def stopsRun : Event → Bool
  | ⟨.api (.stopRun _), .ok _⟩ => true
  | _ => false

def polled? : Event → Option Bool
  | ⟨.api (.runActive _), .ok active⟩ => some active
  | _ => none

end Event

def polled (events : List Event) : List Bool := events.filterMap Event.polled?

theorem polled_append (a b : List Event) : polled (a ++ b) = polled a ++ polled b := List.filterMap_append

theorem polled_one (e : Event) (active : Bool) (told : e.polled? = some active) : polled [e] = [active] := by
  simp [polled, told]

theorem polled_none (e : Event) (quiet : e.polled? = none) : polled [e] = [] := by simp [polled, quiet]

-- No start and no stop succeeds here, and no poll past the scripted ones tells that the run is over.
structure GoesOn (scripted : Nat) (events : List Event) : Prop where
  unstarted : ∀ e ∈ events, e.isStarted = false
  unstopped : ∀ e ∈ events, e.stopsRun = false
  unended : false ∉ (polled events).drop scripted

theorem goes_on_nil (scripted : Nat) : GoesOn scripted [] :=
  ⟨List.forall_mem_nil _, List.forall_mem_nil _, by simp [polled]⟩

theorem unended_one (told : List Bool) (e : Event) (scripted : Nat) :
    false ∉ (told ++ polled [e]).drop scripted ↔
      false ∉ told.drop scripted ∧ (e.polled? = some false → told.length < scripted) := by
  rw [List.drop_append, List.mem_append, not_or]
  refine and_congr_right fun _ => ?_
  cases heard : e.polled? with
  | none => simp [polled_none e heard]
  | some active =>
      rw [polled_one e active heard]
      by_cases within : told.length < scripted
      · have past : scripted - told.length = (scripted - told.length - 1) + 1 := by omega
        rw [past, List.drop_succ_cons]
        simp [within]
      · have past : scripted - told.length = 0 := by omega
        rw [past, List.drop_zero]
        simp [within, eq_comm]

theorem goes_on_one (scripted : Nat) (events : List Event) (e : Event) :
    GoesOn scripted (events ++ [e]) ↔ GoesOn scripted events ∧ e.isStarted = false ∧ e.stopsRun = false ∧
      (e.polled? = some false → (polled events).length < scripted) := by
  constructor
  · rintro ⟨unstarted, unstopped, unended⟩
    obtain ⟨starts, start⟩ := List.forall_mem_append.mp unstarted
    obtain ⟨stops, stop⟩ := List.forall_mem_append.mp unstopped
    rw [polled_append, unended_one] at unended
    exact ⟨⟨starts, stops, unended.1⟩, start e List.mem_cons_self, stop e List.mem_cons_self, unended.2⟩
  · rintro ⟨⟨starts, stops, early⟩, start, stop, last⟩
    refine ⟨List.forall_mem_append.mpr ⟨starts, List.forall_mem_singleton.mpr start⟩,
      List.forall_mem_append.mpr ⟨stops, List.forall_mem_singleton.mpr stop⟩, ?_⟩
    rw [polled_append, unended_one]
    exact ⟨early, last⟩

theorem next_of_drop {α : Type} (l : List α) (n : Nat) (first : α) (rest : List α) (left : l.drop n = first :: rest) :
    l[n]? = some first := by
  rw [← List.head?_drop, left]
  rfl

namespace SimulatedApi
open Acquisition

def InTime (s : SimulatedApi) (now : Instant) (channel : Nat) : Prop :=
  ∀ limit, s.timeLimit? channel = some limit → s.elapsed now < limit

theorem elapsed_since (s : SimulatedApi) (now time : Instant) (since : s.startedAt = some time) :
    s.elapsed now = Duration.toSecs ⟨now - time⟩ := by
  rw [elapsed, since]

theorem poll_scripted (s : SimulatedApi) (now : Instant) (channel : Nat) (active : Bool) (rest : List Bool)
    (next : s.script = active :: rest) : s.poll now channel = (active, { s with script := rest }) := by
  rw [poll, next]

theorem poll_unscripted (s : SimulatedApi) (now : Instant) (channel : Nat) (spent : s.script = []) :
    ((s.poll now channel).1 = true ↔ s.running = true ∧ s.InTime now channel) ∧
    s.poll now channel = ((s.poll now channel).1, { s with running := (s.poll now channel).1 }) := by
  cases going : s.running with
  | false =>
      have told : s.poll now channel = (false, s) := by simp [poll, spent, going]
      rw [told]
      exact ⟨by simp, by rw [← going]⟩
  | true =>
      cases limited : s.timeLimit? channel with
      | none =>
          have told : s.poll now channel = (true, s) := by simp [poll, spent, going, limited]
          rw [told]
          exact ⟨by simp [InTime, limited], by rw [← going]⟩
      | some limit =>
          by_cases early : s.elapsed now < limit
          · have told : s.poll now channel = (true, s) := by simp [poll, spent, going, limited, early]
            rw [told]
            exact ⟨by simp [InTime, limited, early], by rw [← going]⟩
          · have told : s.poll now channel = (false, { s with running := false }) := by
              simp [poll, spent, going, limited, early]
            rw [told]
            exact ⟨by simp [InTime, limited, early], rfl⟩

inductive Turn (s : SimulatedApi) (now : Instant) : Event → SimulatedApi → Prop where
  | begun (target : Target) (resume : Bool) (t : SimulatedApi) (going : t.running = true) (since : t.startedAt = some now)
      (script : t.script = s.script) : Turn s now (.success (.startRun target resume) ()) t
  | ended (target : Target) (t : SimulatedApi) (still : t.running = false) (script : t.script = s.script) :
      Turn s now (.success (.stopRun target) ()) t
  | scripted (channel : Nat) (active : Bool) (rest : List Bool) (t : SimulatedApi) (next : s.script = active :: rest)
      (script : t.script = rest) (running : t.running = s.running) (since : t.startedAt = s.startedAt) :
      Turn s now (.success (.runActive channel) active) t
  | looked (channel : Nat) (active : Bool) (t : SimulatedApi) (spent : s.script = []) (script : t.script = [])
      (told : active = true ↔ s.running = true ∧ s.InTime now channel) (running : t.running = active)
      (since : t.startedAt = s.startedAt) : Turn s now (.success (.runActive channel) active) t
  | aside (e : Event) (t : SimulatedApi) (unstarted : e.isStarted = false) (unstopped : e.stopsRun = false)
      (unpolled : e.polled? = none) (script : t.script = s.script) (running : t.running = s.running)
      (since : t.startedAt = s.startedAt) : Turn s now e t

theorem refused_turn (s : SimulatedApi) (now : Instant) (call : Call) (code : Int) :
    s.Turn now (.failure call code) (s.noted call) := by
  refine .aside _ _ ?_ ?_ ?_ rfl rfl rfl
  · cases call <;> rfl
  · cases call <;> rfl
  · cases call <;> rfl

theorem answer_turn (s : SimulatedApi) (now : Instant) (call : Call) :
    s.Turn now ⟨.api call, (s.answer now call).1⟩ (s.answer now call).2 := by
  rcases s.answer_cases now call with ⟨code, -, same⟩ | ⟨-, same⟩
  · rw [same]
    exact s.refused_turn now call code
  · rw [same]
    cases call with
    | startRun target resume => exact .begun target resume _ rfl rfl rfl
    | stopRun target => exact .ended target _ rfl rfl
    | runActive channel =>
        change s.Turn now (.success (.runActive channel) ((s.noted (.runActive channel)).poll now channel).1)
          ((s.noted (.runActive channel)).poll now channel).2
        cases next : s.script with
        | nil =>
            obtain ⟨told, left⟩ := (s.noted (.runActive channel)).poll_unscripted now channel next
            rw [left]
            exact .looked channel _ _ next next told rfl rfl
        | cons active rest =>
            rw [poll_scripted (s.noted (.runActive channel)) now channel active rest next]
            exact .scripted channel active rest _ next rfl rfl rfl
    | special target run => cases run <;> exact .aside _ _ rfl rfl rfl rfl rfl rfl
    | _ => exact .aside _ _ rfl rfl rfl rfl rfl rfl

end SimulatedApi
end PulseAnalyzer
