import PulseAnalyzer.Proofs.Simulator.RunTurns

set_option autoImplicit false

namespace PulseAnalyzer
namespace SimulatedApi
open Acquisition

def heard (start : SimulatedApi) (past : List (Instant × Call)) (now : Instant) (call : Call) : Event :=
  ⟨.api call, ((start.after past).answer now call).1⟩

theorem history_one (start : SimulatedApi) (past : List (Instant × Call)) (now : Instant) (call : Call) :
    start.history (past ++ [(now, call)]) = start.history past ++ [start.heard past now call] :=
  start.history_append past [(now, call)]

theorem after_one (start : SimulatedApi) (past : List (Instant × Call)) (now : Instant) (call : Call) :
    start.after (past ++ [(now, call)]) = ((start.after past).answer now call).2 :=
  start.after_append past [(now, call)]

-- The run has gone on since a start at this time that succeeded.
def RunsSince (start : SimulatedApi) (past : List (Instant × Call)) (time : Instant) : Prop :=
  ∃ early target resume late, past = early ++ [(time, .startRun target resume)] ++ late ∧
    ((start.after early).answer time (.startRun target resume)).1 = .ok () ∧
    GoesOn (start.script.length - (polled (start.history early)).length)
      ((start.after (early ++ [(time, .startRun target resume)])).history late)

theorem polled_started (start : SimulatedApi) (early late : List (Instant × Call)) (time : Instant) (target : Target)
    (resume : Bool) :
    (polled (start.history (early ++ [(time, .startRun target resume)] ++ late))).length =
      (polled (start.history early)).length +
        (polled ((start.after (early ++ [(time, .startRun target resume)])).history late)).length := by
  have silent : (start.heard early time (.startRun target resume)).polled? = none := rfl
  rw [history_append, history_one, polled_append, polled_append, polled_none _ silent, List.append_nil,
    List.length_append]

theorem heard_started (start : SimulatedApi) (past : List (Instant × Call)) (now : Instant) (call : Call)
    (begins : (start.heard past now call).isStarted = true) :
    ∃ target resume, call = .startRun target resume ∧ ((start.after past).answer now (.startRun target resume)).1 = .ok () := by
  cases call with
  | startRun target resume =>
      refine ⟨target, resume, rfl, ?_⟩
      cases answered : ((start.after past).answer now (.startRun target resume)).1 with
      | ok done => rfl
      | error code =>
          rw [heard, answered] at begins
          cases begins
  | _ => cases begins

theorem runs_since_one (start : SimulatedApi) (past : List (Instant × Call)) (now : Instant) (call : Call) (time : Instant) :
    start.RunsSince (past ++ [(now, call)]) time ↔
      ((start.heard past now call).isStarted = true ∧ time = now) ∨
      (start.RunsSince past time ∧ (start.heard past now call).isStarted = false ∧
        (start.heard past now call).stopsRun = false ∧
        ((start.heard past now call).polled? = some false → (polled (start.history past)).length < start.script.length)) := by
  constructor
  · rintro ⟨early, target, resume, late, split, begun, goes⟩
    rcases List.eq_nil_or_concat late with rfl | ⟨before, last, rfl⟩
    · rw [List.append_nil] at split
      obtain ⟨rfl, same⟩ := List.append_inj' split rfl
      cases same
      refine .inl ⟨?_, rfl⟩
      rw [heard, begun]
      rfl
    · rw [List.concat_eq_append] at split goes
      rw [← List.append_assoc] at split
      obtain ⟨rfl, same⟩ := List.append_inj' split rfl
      cases same
      rw [history_one, goes_on_one, heard, ← after_append] at goes
      obtain ⟨goes, unstarted, unstopped, unended⟩ := goes
      refine .inr ⟨⟨early, target, resume, before, rfl, begun, goes⟩, unstarted, unstopped, fun ended => ?_⟩
      have within := unended ended
      rw [polled_started]
      omega
  · rintro (⟨begins, rfl⟩ | ⟨⟨early, target, resume, before, rfl, begun, goes⟩, unstarted, unstopped, unended⟩)
    · obtain ⟨target, resume, rfl, begun⟩ := start.heard_started past time call begins
      exact ⟨past, target, resume, [], (List.append_nil _).symm, begun, goes_on_nil _⟩
    · refine ⟨early, target, resume, before ++ [(now, call)], List.append_assoc _ _ _, begun, ?_⟩
      rw [history_one, goes_on_one, heard, ← after_append]
      refine ⟨goes, unstarted, unstopped, fun ended => ?_⟩
      have within := unended ended
      rw [polled_started] at within
      omega

section fresh
variable (start : SimulatedApi) (past : List (Instant × Call))

theorem history_turn (now : Instant) (call : Call) :
    (start.after past).Turn now (start.heard past now call) (start.after (past ++ [(now, call)])) := by
  rw [after_one]
  exact (start.after past).answer_turn now call

-- The script answers the first polls in order, and only polls that succeed use it up.
theorem script_told :
    (start.after past).script = start.script.drop (polled (start.history past)).length ∧
    (polled (start.history past)).take start.script.length = start.script.take (polled (start.history past)).length := by
  induction past using List.reverseRecOn with
  | nil => exact ⟨rfl, by simp [history, polled]⟩
  | append_singleton past asked ih =>
      obtain ⟨now, call⟩ := asked
      obtain ⟨left, told⟩ := ih
      have turn := start.history_turn past now call
      rw [history_one, polled_append]
      generalize start.heard past now call = e at turn
      generalize start.after (past ++ [(now, call)]) = t at turn
      cases turn with
      | begun target resume _ _ _ script =>
          rw [script, polled_none _ rfl, List.append_nil]
          exact ⟨left, told⟩
      | ended target _ _ script =>
          rw [script, polled_none _ rfl, List.append_nil]
          exact ⟨left, told⟩
      | scripted channel active rest _ next script =>
          rw [next] at left
          have known := next_of_drop start.script _ active rest left.symm
          have within := (List.getElem?_eq_some_iff.mp known).1
          rw [List.take_of_length_le (Nat.le_of_lt within)] at told
          rw [script, polled_one _ active rfl, List.length_append, List.length_singleton]
          constructor
          · rw [← List.drop_drop, ← left]
            rfl
          · rw [List.take_add_one, known, ← told, List.take_of_length_le]
            · rfl
            · rw [List.length_append]
              exact within
      | looked channel active _ spent script =>
          have past : start.script.length ≤ (polled (start.history past)).length :=
            List.drop_eq_nil_iff.mp (left.symm.trans spent)
          rw [script, polled_one _ active rfl, List.length_append, List.length_singleton]
          refine ⟨(List.drop_eq_nil_of_le (Nat.le_succ_of_le past)).symm, ?_⟩
          rw [List.take_append_of_le_length past, told, List.take_of_length_le past,
            List.take_of_length_le (Nat.le_succ_of_le past)]
      | aside _ _ _ _ unpolled script =>
          rw [script, polled_none _ unpolled, List.append_nil]
          exact ⟨left, told⟩

theorem script_next (active : Bool) (rest : List Bool) (next : (start.after past).script = active :: rest) :
    start.script[(polled (start.history past)).length]? = some active :=
  next_of_drop start.script _ active rest ((start.script_told past).1.symm.trans next)

theorem script_spent : (start.after past).script = [] ↔ start.script.length ≤ (polled (start.history past)).length := by
  rw [(start.script_told past).1, List.drop_eq_nil_iff]

theorem runs_since_of_history (fresh : start.running = false) :
    ((start.after past).running = true ↔ ∃ time, start.RunsSince past time) ∧
    ∀ time, start.RunsSince past time → (start.after past).startedAt = some time := by
  induction past using List.reverseRecOn with
  | nil =>
      have never (time : Instant) : ¬ start.RunsSince [] time := by
        rintro ⟨early, target, resume, late, split, -⟩
        simp at split
      exact ⟨⟨fun going => absurd going (by simp [after, fresh]), fun ⟨time, since⟩ => absurd since (never time)⟩,
        fun time since => absurd since (never time)⟩
  | append_singleton past asked ih =>
      obtain ⟨now, call⟩ := asked
      obtain ⟨flag, clock⟩ := ih
      have turn := start.history_turn past now call
      have spent := start.script_spent past
      simp only [runs_since_one]
      generalize start.heard past now call = e at turn
      generalize start.after (past ++ [(now, call)]) = t at turn
      cases turn with
      | begun target resume _ going since => simp [Event.isStarted, going, since]
      | ended target _ still => simp [Event.isStarted, Event.stopsRun, still]
      | scripted channel active rest _ next _ running since =>
          have within : (polled (start.history past)).length < start.script.length := by
            rw [← Nat.not_le, ← spent, next]
            simp
          simpa [Event.isStarted, Event.stopsRun, within, running, since] using ⟨flag, clock⟩
      | looked channel active _ done _ told running since =>
          have past : ¬ (polled (start.history past)).length < start.script.length := Nat.not_lt.mpr (spent.mp done)
          cases active with
          | false => simp [Event.isStarted, Event.stopsRun, Event.polled?, past, running]
          | true =>
              have going := (told.mp rfl).1
              simpa [Event.isStarted, Event.stopsRun, Event.polled?, running, since] using ⟨flag.mp going, clock⟩
      | aside _ _ unstarted unstopped unpolled _ running since =>
          simpa [unstarted, unstopped, unpolled, running, since] using ⟨flag, clock⟩

end fresh

theorem stays_idle (s : SimulatedApi) (late : List (Instant × Call)) (spent : s.script = []) (still : s.running = false)
    (unstarted : ∀ e ∈ s.history late, e.isStarted = false) :
    (s.after late).script = [] ∧ (s.after late).running = false := by
  induction late generalizing s with
  | nil => exact ⟨spent, still⟩
  | cons asked rest ih =>
      obtain ⟨now, call⟩ := asked
      obtain ⟨here, later⟩ := List.forall_mem_cons.mp unstarted
      have turn := s.answer_turn now call
      suffices (s.answer now call).2.script = [] ∧ (s.answer now call).2.running = false from
        ih _ this.1 this.2 later
      generalize (⟨.api call, (s.answer now call).1⟩ : Event) = e at turn here
      generalize (s.answer now call).2 = t at turn
      cases turn with
      | begun => cases here
      | ended target _ ended script => exact ⟨script.trans spent, ended⟩
      | scripted channel active left _ next => cases next.symm.trans spent
      | looked channel active _ _ script told running =>
          have inactive : active = false := by simpa [still] using told
          exact ⟨script, running.trans inactive⟩
      | aside _ _ _ _ _ script running => exact ⟨script.trans spent, running.trans still⟩

section polls
variable (s : SimulatedApi) (now : Instant) (channel : Nat)

theorem poll_refused (code : Int) (refused : (s.answer now (.runActive channel)).1 = .error code) :
    (s.answer now (.runActive channel)).2.script = s.script ∧
    (s.answer now (.runActive channel)).2.running = s.running := by
  rw [s.refused_noted now _ code refused]
  exact ⟨rfl, rfl⟩

theorem poll_answered (active : Bool) (answered : (s.answer now (.runActive channel)).1 = .ok active) :
    (∃ rest, s.script = active :: rest ∧ (s.answer now (.runActive channel)).2.script = rest ∧
      (s.answer now (.runActive channel)).2.running = s.running) ∨
    (s.script = [] ∧ (s.answer now (.runActive channel)).2.script = [] ∧
      (s.answer now (.runActive channel)).2.running = active ∧
      (active = true ↔ s.running = true ∧ s.InTime now channel)) := by
  have turn := s.answer_turn now (.runActive channel)
  rw [answered] at turn
  generalize (s.answer now (.runActive channel)).2 = t at turn
  cases turn with
  | scripted _ _ rest _ next script running => exact .inl ⟨rest, next, script, running⟩
  | looked _ _ _ spent script told running => exact .inr ⟨spent, script, running, told⟩
  | aside _ _ _ _ unpolled => cases unpolled

end polls

theorem run_lifecycle (channels : Nat) (seed : UInt64) (script : List Bool) (scenarios : List Scenario)
    (past : List (Instant × Call)) (now : Instant) (channel : Nat) :
    let start := planned channels seed script scenarios
    let s := start.after past
    let t := (s.answer now (.runActive channel)).2
    let told := polled (start.history past)
    told.take script.length = script.take told.length ∧
    (s.running = true ↔ ∃ time, start.RunsSince past time) ∧
    (∀ code, (s.answer now (.runActive channel)).1 = .error code → t.script = s.script ∧ t.running = s.running) ∧
    (∀ active, (s.answer now (.runActive channel)).1 = .ok active → told.length < script.length →
      script[told.length]? = some active ∧ t.running = s.running) ∧
    (∀ active, (s.answer now (.runActive channel)).1 = .ok active → script.length ≤ told.length →
      t.running = active ∧ (active = true ↔ ∃ time, start.RunsSince past time ∧
        ∀ limit, s.timeLimit? channel = some limit → Duration.toSecs ⟨now - time⟩ < limit)) ∧
    ∀ early time other late, past = early ++ [(time, .runActive other)] ++ late →
      script.length ≤ (polled (start.history early)).length →
      ((start.after early).answer time (.runActive other)).1 = .ok false →
      (∀ e ∈ (start.after (early ++ [(time, .runActive other)])).history late, e.isStarted = false) →
      s.running = false ∧ (s.answer now (.runActive channel)).1 ≠ .ok true := by
  intro start s t told
  obtain ⟨flag, clock⟩ := start.runs_since_of_history past rfl
  refine ⟨(start.script_told past).2, flag, s.poll_refused now channel, fun active answered within => ?_,
    fun active answered beyond => ?_, ?_⟩
  · rcases s.poll_answered now channel active answered with ⟨rest, next, -, running⟩ | ⟨spent, -⟩
    · exact ⟨start.script_next past active rest next, running⟩
    · exact absurd ((start.script_spent past).mp spent) (Nat.not_le_of_lt within)
  · rcases s.poll_answered now channel active answered with ⟨rest, next, -⟩ | ⟨-, -, running, looked⟩
    · exact absurd ((start.script_spent past).mpr beyond) (by rw [next]; simp)
    · refine ⟨running, looked.trans ⟨?_, ?_⟩⟩
      · rintro ⟨going, early⟩
        obtain ⟨time, since⟩ := flag.mp going
        refine ⟨time, since, fun limit limited => ?_⟩
        rw [← s.elapsed_since now time (clock time since)]
        exact early limit limited
      · rintro ⟨time, since, early⟩
        refine ⟨flag.mpr ⟨time, since⟩, fun limit limited => ?_⟩
        rw [s.elapsed_since now time (clock time since)]
        exact early limit limited
  · rintro early time other late rfl beyond inactive unstarted
    have ended : (start.after (early ++ [(time, .runActive other)])).script = [] ∧
        (start.after (early ++ [(time, .runActive other)])).running = false := by
      rw [after_one]
      rcases (start.after early).poll_answered time other false inactive with ⟨rest, next, -⟩ | ⟨-, spent, still, -⟩
      · exact absurd ((start.script_spent early).mpr beyond) (by rw [next]; simp)
      · exact ⟨spent, still⟩
    obtain ⟨spent, still⟩ := stays_idle _ late ended.1 ended.2 unstarted
    rw [← after_append] at spent still
    refine ⟨still, fun answered => ?_⟩
    rcases s.poll_answered now channel true answered with ⟨rest, next, -⟩ | ⟨-, -, -, looked⟩
    · cases next.symm.trans spent
    · cases still.symm.trans (looked.mp rfl).1

-- The first poll is refused and takes nothing from the script; the next one takes it, and there is no run yet. The time
-- of channel 1 is over later, and after that channel 0, which has no limit, is not active either.
theorem preset_ends_run_everywhere :
    let start := planned 2 0 [true] [.after "run_active" 4 (-7)]
    let early := [(0, .setValue 1 "preset_type" 2.0), (0, .setValue 1 "preset_value" 3.0), (0, .runActive 5),
      (5, .runActive 1), (10, .startRun .all false), (20, .runActive 0)]
    let s := start.after (early ++ [(3000000010, .runActive 1)] ++ [])
    polled (start.history (early ++ [(3000000010, .runActive 1)] ++ [])) = [true, true, false] ∧ s.running = false ∧
    (s.answer 3000000020 (.runActive 0)).1 ≠ .ok true := by
  intro start early s
  have told : polled (start.history early) = [true, true] := by decide +kernel
  have ended : ((start.after early).answer 3000000010 (.runActive 1)).1 = .ok false := by decide +kernel
  have all : polled (start.history (early ++ [(3000000010, .runActive 1)] ++ [])) = [true, true, false] := by decide +kernel
  obtain ⟨-, -, -, -, -, idle⟩ := run_lifecycle 2 0 [true] [.after "run_active" 4 (-7)]
    (early ++ [(3000000010, .runActive 1)] ++ []) 3000000020 0
  exact ⟨all, idle early 3000000010 1 [] rfl (by rw [told]; decide) ended (List.forall_mem_nil _)⟩

end SimulatedApi
end PulseAnalyzer
