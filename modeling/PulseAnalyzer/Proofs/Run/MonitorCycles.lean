import PulseAnalyzer.Proofs.Run.Cancellation
import PulseAnalyzer.Proofs.Run.HandedOut
import PulseAnalyzer.Proofs.Run.MonitorVisits

set_option autoImplicit false

namespace PulseAnalyzer
namespace Monitor
open Procedure

-- A budget of cycles, each begun by a tick. All are whole but the last, which the monitor is recalled from
-- or in which a reading fails; the count is what was handed out before, and grows with each whole cycle.
inductive Cycled (session : Session) (channels : List Nat) : Nat → Nat → List Step → Option (Except Fault Nat) → Prop where
  | spent (count : Nat) : Cycled session channels 0 count [] none
  | recalled (budget count : Nat) (deadline : Instant) :
      Cycled session channels (budget + 1) count [.wait deadline none] (some (.ok count))
  | cut (budget count : Nat) (deadline now : Instant) (steps : List Step)
      (visited : Visited session channels steps (.ok none)) :
      Cycled session channels (budget + 1) count (.wait deadline (some now) :: steps) (some (.ok count))
  | failed (budget count : Nat) (deadline now : Instant) (steps : List Step) (fault : Fault)
      (visited : Visited session channels steps (.error fault)) :
      Cycled session channels (budget + 1) count (.wait deadline (some now) :: steps) (some (.error fault))
  | whole (budget count : Nat) (deadline now : Instant) (steps later : List Step) (found : List Measurement)
      (result : Option (Except Fault Nat)) (visited : Visited session channels steps (.ok (some found)))
      (after : Cycled session channels budget (count + found.length) later result) :
      Cycled session channels (budget + 1) count
        (.wait deadline (some now) :: ((steps ++ found.map Step.handOut) ++ later)) result

theorem emissions_steps (found : List Measurement) :
    Sequencer.emissions found = (found.map Step.handOut).flatMap Step.events := by
  induction found with
  | nil => rfl
  | cons first rest ih => exact congrArg (List.cons _) ih

theorem cycles_cycled (m : Monitor) (session : Session) (budget : Nat) (ticker : Ticker) (count : Nat) (events : List Event)
    (result : Option (Except Fault Nat)) (traced : (m.cycles session budget ticker count).Traced events result) :
    ∃ steps, Cycled session m.channels budget count steps result ∧ events = steps.flatMap Step.events := by
  induction budget generalizing ticker count events with
  | zero =>
      obtain ⟨rfl, rfl⟩ := (traced_spent events result).mp traced
      exact ⟨[], .spent count, rfl⟩
  | succ budget ih =>
      obtain ⟨woken, ticked, visiting, rfl⟩ := (traced_ask_bind (.await ticker.deadline) _ events result).mp traced
      cases woken with
      | none =>
          obtain ⟨rfl, rfl⟩ := (traced_pure _ ticked result).mp visiting
          exact ⟨_, .recalled budget count ticker.deadline, rfl⟩
      | some now =>
          rcases (traced_bind _ _ ticked result).mp visiting with
            ⟨found, visit, after, read, emitting, rfl⟩ | ⟨fault, failed, rfl⟩ | ⟨stuck, -⟩
          · obtain ⟨steps, outcome, visited, rfl, same⟩ := read_all_visited session m.channels visit _ read
            cases same
            cases found with
            | none =>
                obtain ⟨rfl, rfl⟩ := (traced_pure _ after result).mp emitting
                exact ⟨_, .cut budget count ticker.deadline now steps visited, by simp [Step.events]⟩
            | some measurements =>
                rcases (traced_bind _ _ after result).mp emitting with
                  ⟨_, emits, more, handed, again, rfl⟩ | ⟨fault, impossible, -⟩ | ⟨impossible, -⟩
                · obtain ⟨rfl, -⟩ := Sequencer.emit_all_traced measurements emits _ handed
                  obtain ⟨later, cycled, rfl⟩ := ih (ticker.taken now) _ more again
                  refine ⟨_, .whole budget count ticker.deadline now steps later measurements result visited cycled, ?_⟩
                  simp [Step.events, emissions_steps]
                · cases (Sequencer.emit_all_traced measurements after _ impossible).2
                · cases (Sequencer.emit_all_traced measurements after _ impossible).2
          · obtain ⟨steps, outcome, visited, rfl, same⟩ := read_all_visited session m.channels ticked _ failed
            cases same
            exact ⟨_, .failed budget count ticker.deadline now steps fault visited, rfl⟩
          · obtain ⟨_, _, _, _, impossible⟩ := read_all_visited session m.channels ticked _ stuck
            cases impossible

structure AllOrNothing (channels : List Nat) (budget count : Nat) (steps : List Step) (result : Option (Except Fault Nat)) :
    Prop where
  order : ∀ round ∈ rounds steps, round.map Reading.subject <+: rota channels
  inRounds : readings steps = (rounds steps).flatten
  earlier : ∀ round ∈ (rounds steps).dropLast, (whole? channels round).isSome
  handed : handedOut steps = (wholeRounds channels steps).flatten
  ends : EndsInFault steps result
  counted : ∀ n, result = some (.ok n) → n = count + (handedOut steps).length ∧
    (handedOut steps).length = (wholeRounds channels steps).length * channels.length ∧
    ∃ past last, steps = past ++ [last] ∧ last.isRecall
  unended : result = none → (rounds steps).length = budget ∧ ∀ round ∈ rounds steps, (whole? channels round).isSome

theorem cycled_begins (session : Session) (channels : List Nat) (budget count : Nat) (steps : List Step)
    (result : Option (Except Fault Nat)) (cycled : Cycled session channels budget count steps result) :
    ∀ step rest, steps = step :: rest → step.isWait = true := by
  intro step rest begins
  cases cycled <;> cases begins <;> rfl

theorem readings_hand_outs (found : List Measurement) : readings (found.map Step.handOut) = [] :=
  List.filterMap_eq_nil_iff.mpr (List.forall_mem_map.mpr fun _ _ => rfl)

theorem handed_out_hand_outs (found : List Measurement) : handedOut (found.map Step.handOut) = found := by
  induction found with
  | nil => rfl
  | cons first rest ih => exact congrArg (List.cons first) ih

theorem led_hand_outs (found : List Measurement) : Led false (found.map Step.handOut) := by
  induction found with
  | nil => trivial
  | cons first rest ih => exact ih

section round
variable (session : Session) (channels : List Nat) (steps : List Step)

theorem visit_last (budget count : Nat) (deadline now : Instant) (outcome : Except Fault (Option (List Measurement)))
    (result : Option (Except Fault Nat)) (visited : Visited session channels steps outcome)
    (unwhole : outcome.toOption.join = none) (ends : EndsInFault steps result) (ended : result ≠ none)
    (counted : ∀ n, result = some (.ok n) → n = count ∧ outcome = .ok none) :
    AllOrNothing channels budget count (.wait deadline (some now) :: steps) result := by
  have quiet := visited_quiet session channels steps outcome visited
  have alone : rounds (.wait deadline (some now) :: steps) = [readings steps] := by
    have first := rounds_round steps [] (fun step member => (quiet step member).1) deadline now nofun
    rwa [List.append_nil] at first
  have nothing : handedOut (.wait deadline (some now) :: steps) = [] :=
    List.filterMap_eq_nil_iff.mpr (List.forall_mem_cons.mpr ⟨rfl, fun step member => (quiet step member).2⟩)
  have earlier : wholeRounds channels (.wait deadline (some now) :: steps) = [] := by
    rw [wholeRounds, alone, List.filterMap_cons_none ((visited_whole session channels steps outcome visited).trans unwhole)]
    rfl
  refine ⟨?_, ?_, ?_, ?_, ?_, fun n same => ?_, fun spent => absurd spent ended⟩
  · rw [alone]
    exact List.forall_mem_singleton.mpr (visited_order session channels steps outcome visited)
  · rw [alone, List.flatten_cons, List.flatten_nil, List.append_nil]
    rfl
  · rw [alone]
    exact List.forall_mem_nil _
  · rw [nothing, earlier]
    rfl
  · exact ends_in_fault_append [.wait deadline (some now)] steps result (List.forall_mem_singleton.mpr rfl) ends
  · obtain ⟨rfl, cut⟩ := counted n same
    obtain ⟨past, rfl⟩ := visited_recalled session channels steps outcome visited cut
    rw [nothing, earlier]
    exact ⟨rfl, (Nat.zero_mul _).symm, .wait deadline (some now) :: past, .check true, rfl, rfl⟩

section whole
variable (deadline now : Instant) (later : List Step) (found : List Measurement)
  (visited : Visited session channels steps (.ok (some found)))

theorem readings_whole :
    readings (.wait deadline (some now) :: ((steps ++ found.map Step.handOut) ++ later)) = readings steps ++ readings later := by
  change readings ((steps ++ found.map Step.handOut) ++ later) = _
  rw [readings_append, readings_append, readings_hand_outs, List.append_nil]

include visited

theorem handed_out_whole :
    handedOut (.wait deadline (some now) :: ((steps ++ found.map Step.handOut) ++ later)) = found ++ handedOut later := by
  have nothing : handedOut steps = [] :=
    List.filterMap_eq_nil_iff.mpr fun step member => (visited_quiet session channels steps _ visited step member).2
  change handedOut ((steps ++ found.map Step.handOut) ++ later) = _
  rw [handed_out_append, handed_out_append, nothing, handed_out_hand_outs, List.nil_append]

theorem sound_whole : Sound (.wait deadline (some now) :: (steps ++ found.map Step.handOut)) := by
  have sound : Sound steps := visited_ends session channels steps _ visited
  exact List.forall_mem_cons.mpr ⟨rfl, List.forall_mem_append.mpr ⟨sound, List.forall_mem_map.mpr fun _ _ => rfl⟩⟩

variable (begins : ∀ step rest, later = step :: rest → step.isWait = true)
include begins

theorem rounds_whole :
    rounds (.wait deadline (some now) :: ((steps ++ found.map Step.handOut) ++ later)) = readings steps :: rounds later := by
  have unwaiting : ∀ step ∈ steps ++ found.map Step.handOut, step.isWait = false :=
    List.forall_mem_append.mpr ⟨fun step member => (visited_quiet session channels steps _ visited step member).1,
      List.forall_mem_map.mpr fun _ _ => rfl⟩
  rw [rounds_round _ later unwaiting deadline now begins, readings_append, readings_hand_outs, List.append_nil]

theorem whole_rounds_whole :
    wholeRounds channels (.wait deadline (some now) :: ((steps ++ found.map Step.handOut) ++ later)) =
      found :: wholeRounds channels later := by
  have whole : whole? channels (readings steps) = some found := visited_whole session channels steps _ visited
  rw [wholeRounds, rounds_whole session channels steps deadline now later found visited begins,
    List.filterMap_cons_some whole]
  rfl

theorem visit_whole (budget count : Nat) (result : Option (Except Fault Nat))
    (after : AllOrNothing channels budget (count + found.length) later result) :
    AllOrNothing channels (budget + 1) count
      (.wait deadline (some now) :: ((steps ++ found.map Step.handOut) ++ later)) result := by
  have whole : whole? channels (readings steps) = some found := visited_whole session channels steps _ visited
  have isWhole : (whole? channels (readings steps)).isSome := Option.isSome_of_eq_some whole
  have each := rounds_whole session channels steps deadline now later found visited begins
  have handed := handed_out_whole session channels steps deadline now later found visited
  have wholes := whole_rounds_whole session channels steps deadline now later found visited begins
  refine ⟨?_, ?_, ?_, ?_, ?_, fun n same => ?_, fun spent => ?_⟩
  · rw [each]
    exact List.forall_mem_cons.mpr ⟨visited_order session channels steps _ visited, after.order⟩
  · rw [each, List.flatten_cons, ← after.inRounds, readings_whole]
  · rw [each]
    cases others : rounds later with
    | nil => exact List.forall_mem_nil _
    | cons first rest =>
        have earlier := after.earlier
        rw [others] at earlier
        exact List.forall_mem_cons.mpr ⟨isWhole, earlier⟩
  · rw [handed, wholes, List.flatten_cons, after.handed]
  · exact ends_in_fault_append _ later result (sound_whole session channels steps deadline now found visited) after.ends
  · obtain ⟨counted, multiple, past, last, rfl, recalled⟩ := after.counted n same
    have sized := whole_length channels (readings steps) found whole
    rw [handed, wholes, List.length_append, List.length_cons, Nat.succ_mul, multiple, sized]
    refine ⟨?_, Nat.add_comm _ _, .wait deadline (some now) :: ((steps ++ found.map Step.handOut) ++ past), last, ?_, recalled⟩
    · rw [counted, multiple, sized, Nat.add_assoc]
    · rw [List.cons_append, List.append_assoc _ past]
  · obtain ⟨many, all⟩ := after.unended spent
    rw [each, List.length_cons, many]
    exact ⟨rfl, List.forall_mem_cons.mpr ⟨isWhole, all⟩⟩

end whole

end round

theorem cycled_all_or_nothing (session : Session) (channels : List Nat) (budget count : Nat) (steps : List Step)
    (result : Option (Except Fault Nat)) (cycled : Cycled session channels budget count steps result) :
    AllOrNothing channels budget count steps result := by
  induction cycled with
  | spent count =>
      exact ⟨List.forall_mem_nil _, rfl, List.forall_mem_nil _, rfl, List.forall_mem_nil _, nofun,
        fun _ => ⟨rfl, List.forall_mem_nil _⟩⟩
  | recalled budget count deadline =>
      refine ⟨List.forall_mem_nil _, rfl, List.forall_mem_nil _, rfl, List.forall_mem_singleton.mpr rfl, fun n same => ?_, nofun⟩
      cases same
      exact ⟨rfl, (Nat.zero_mul _).symm, [], _, rfl, rfl⟩
  | cut budget count deadline now steps visited =>
      refine visit_last session channels steps _ count deadline now _ _ visited rfl
        (visited_ends session channels steps _ visited) nofun fun n same => ?_
      cases same
      exact ⟨rfl, rfl⟩
  | failed budget count deadline now steps fault visited =>
      exact visit_last session channels steps _ count deadline now _ _ visited rfl
        (visited_ends session channels steps _ visited) nofun nofun
  | whole budget count deadline now steps later found result visited after ih =>
      exact visit_whole session channels steps deadline now later found visited
        (cycled_begins session channels budget _ later result after) budget count result ih

theorem cycled_led (session : Session) (channels : List Nat) (budget count : Nat) (steps : List Step)
    (result : Option (Except Fault Nat)) (cycled : Cycled session channels budget count steps result) : Led false steps := by
  induction cycled with
  | spent | recalled => trivial
  | cut budget count deadline now steps visited => exact visited_led session channels steps _ visited
  | failed budget count deadline now steps fault visited => exact visited_led session channels steps _ visited
  | whole budget count deadline now steps later found result visited after ih =>
      have visit := led_append steps _ false (visited_led session channels steps _ visited) (led_hand_outs found)
      exact led_append _ later false visit ih

theorem cycled_made (session : Session) (channels : List Nat) (budget count : Nat) (steps : List Step)
    (result : Option (Except Fault Nat)) (cycled : Cycled session channels budget count steps result) :
    ∀ r ∈ readings steps, r.Made session := by
  induction cycled with
  | spent | recalled => exact List.forall_mem_nil _
  | cut budget count deadline now steps visited => exact visited_made session channels steps _ visited
  | failed budget count deadline now steps fault visited => exact visited_made session channels steps _ visited
  | whole budget count deadline now steps later found result visited after ih =>
      rw [readings_whole]
      exact List.forall_mem_append.mpr ⟨visited_made session channels steps _ visited, ih⟩

-- A reading that comes after a point was let begin before it, when no check finds the monitor going on after it.
theorem begun_before (steps : List Step) (led : Led false steps) (before after : List Event)
    (split : steps.flatMap Step.events = before ++ after) (cancelled : Cancelled after) (early late : List Step) (r : Reading)
    (here : steps = early ++ .reading r :: late) :
    early.flatMap Step.events <+: before ∧ (early.flatMap Step.events = before → before.getLast? = some (.checked false)) := by
  subst here
  rcases led_reading early late r false led with ⟨-, impossible⟩ | ⟨past, rfl⟩
  · cases impossible
  · have ended : (past ++ [Step.check false]).flatMap Step.events = past.flatMap Step.events ++ [.checked false] := by
      simp [Step.events]
    rw [List.flatMap_append, ended, List.append_assoc] at split
    rw [ended]
    refine ⟨?_, fun same => by rw [← same, List.getLast?_concat]⟩
    rcases List.append_eq_append_iff.mp split with ⟨left, rfl, same⟩ | ⟨left, same, rfl⟩
    · cases left with
      | nil =>
          rw [List.nil_append] at same
          have wrong := cancelled false (same ▸ List.mem_cons_self)
          cases wrong
      | cons e left =>
          obtain ⟨rfl, -⟩ := List.cons.inj same
          exact ⟨left, by simp⟩
    · have wrong := cancelled false (by simp)
      cases wrong

-- Whatever the link answers and whenever the monitor is cancelled, its history is a sequence of steps of which the
-- whole cycles are handed out; no reading begins after the cancellation but one that a check right before it let go.
theorem run_all_or_nothing {σ : Type} (answer : (r : Request) → σ → r.Answer × σ) (start : σ) (m : Monitor)
    (least : minPeriod.nanos ≤ m.period.nanos) (most : m.period.nanos ≤ maxPeriod.nanos) (session : Session) (budget : Nat) :
    let events := Program.history answer (m.run session budget).run start
    let result := (Program.run answer (m.run session budget).run start).1
    ∃ steps, events = steps.flatMap Step.events ∧ (∀ r ∈ readings steps, r.Made session) ∧
      emitted events = handedOut steps ∧ AllOrNothing m.channels budget 0 steps result ∧
      ∀ before after, events = before ++ after → Cancelled after →
        ∀ early r late, steps = early ++ .reading r :: late → early.flatMap Step.events <+: before ∧
          (early.flatMap Step.events = before → before.getLast? = some (.checked false)) := by
  intro events result
  have traced : (m.run session budget).Traced events result :=
    Program.history_traced answer (m.run session budget).run start
  have begins : m.run session budget =
      Procedure.ask .now >>= fun now => m.cycles session budget (.startingAt now m.period) 0 := by
    rw [run, period_valid m.period least most]
    rfl
  rw [begins] at traced
  obtain ⟨now, rest, cycling, split⟩ := (traced_ask_bind .now _ events result).mp traced
  obtain ⟨steps, cycled, rfl⟩ := m.cycles_cycled session budget _ 0 rest result cycling
  have all := cycled_all_or_nothing session m.channels budget 0 steps result cycled
  have led := cycled_led session m.channels budget 0 steps result cycled
  have made := cycled_made session m.channels budget 0 steps result cycled
  refine ⟨.clock now :: steps, split, made, ?_, ?_, fun before after cut cancelled early r late here => ?_⟩
  · rw [split]
    exact emitted_steps session (.clock now :: steps) made
  · exact ⟨all.order, all.inRounds, all.earlier, all.handed,
      ends_in_fault_append [.clock now] steps result (List.forall_mem_singleton.mpr rfl) all.ends,
      fun n same => by
        obtain ⟨counted, multiple, past, last, rfl, recalled⟩ := all.counted n same
        exact ⟨counted, multiple, .clock now :: past, last, rfl, recalled⟩,
      all.unended⟩
  · exact begun_before (.clock now :: steps) led before after (split.symm.trans cut) cancelled early late r here

-- Cancelled while the first channel of the second cycle is read, the monitor hands out the first cycle only.
theorem recalled_monitor_all_or_nothing :
    let m : Monitor := ⟨[1, 0], .ofMillis 150⟩
    let b : Bench := { Bench.make (.make 2 0) (.simulated (.make 2)) with plan := ⟨none, none, some 9⟩ }
    let events := Program.history Bench.answer (m.run ⟨.standard, []⟩ 3).run b
    minPeriod.nanos ≤ m.period.nanos ∧ m.period.nanos ≤ maxPeriod.nanos ∧
    ∃ steps, events = steps.flatMap Step.events ∧ emitted events = handedOut steps ∧ (handedOut steps).length = 2 ∧
      AllOrNothing [1, 0] 3 0 steps (some (.ok 2)) := by
  have ran : (Program.run Bench.answer ((Monitor.mk [1, 0] (.ofMillis 150)).run ⟨.standard, []⟩ 3).run
      { Bench.make (.make 2 0) (.simulated (.make 2)) with plan := ⟨none, none, some 9⟩ }).1 = some (.ok 2) := by rfl
  intro m b events
  obtain ⟨steps, same, -, handed, all, -⟩ := run_all_or_nothing Bench.answer b m (by decide) (by decide) ⟨.standard, []⟩ 3
  rw [show (Program.run Bench.answer (m.run ⟨.standard, []⟩ 3).run b).1 = some (.ok 2) from ran] at all
  have counted := (all.counted 2 rfl).1
  exact ⟨by decide, by decide, steps, same, handed, by omega, all⟩

end Monitor
end PulseAnalyzer
