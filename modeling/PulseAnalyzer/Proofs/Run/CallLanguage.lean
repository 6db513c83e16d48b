import PulseAnalyzer.Proofs.Program.Recital
import PulseAnalyzer.Proofs.Run.Phrases

set_option autoImplicit false

namespace PulseAnalyzer

def Plan.settings : Plan → List (String × Float)
  | .bounded plan => [("preset_type", plan.presetType.code), ("preset_value", plan.presetValue)]
  | .snapshot _ => [("number_mca_channels", 4096.0), ("preset_type", 0.0)]
  | .trace _ => []

namespace Sequencer
open Procedure

-- The grammar of the calls of a run and the summary that goes with them. The channel `first` is
-- polled; a trace run that reads only some of the channels was cancelled.
inductive Spoken (s : Sequencer) (first : Nat) : Plan → List Event → Summary → Prop where
  | unstarted (plan : Plan) :
      Spoken s first plan (writes plan.settings s.channels) ⟨.cancelled, 0⟩
  | bounded (plan : BoundedPlan) (answers : List Bool) (reads : List Event) (found : List Measurement)
      (going : Going answers) (read : complete? .readOut s.channels reads = some found) :
      Spoken s first (.bounded plan)
        (writes (Plan.bounded plan).settings s.channels ++ .success (.startRun s.target plan.resume) () ::
          (polls first answers ++ .success (.stopRun s.target) () :: reads))
        ⟨pollOutcome answers, s.channels.length⟩
  | snapshot (plan : SnapshotPlan) (cycles : List (List Event)) (part : List Event)
      (taken : s.Cycles plan.clear cycles part) :
      Spoken s first (.snapshot plan)
        (writes (Plan.snapshot plan).settings s.channels ++ .success (.startRun s.target false) () ::
          (cycles.flatten ++ part ++ [.success (.stopRun s.target) ()]))
        ⟨.cancelled, cycles.length * s.channels.length⟩
  | trace (plan : TracePlan) (count : Nat) (reads : List Event) (found : List Measurement)
      (within : count ≤ s.channels.length)
      (read : complete? .captureRead (s.channels.take count) reads = some found) :
      Spoken s first (.trace plan)
        (.success (.special s.target (.adcTrace plan.samplePeriod)) () :: reads)
        (if count = s.channels.length then ⟨.completed, s.channels.length⟩ else ⟨.cancelled, 0⟩)

theorem bounded_speaks (s : Sequencer) (first budget : Nat) (plan : BoundedPlan) :
    Speaks (s.bounded first budget plan) fun summary word =>
      summary = ⟨.cancelled, 0⟩ ∧ word = writes (Plan.bounded plan).settings s.channels ∨
      ∃ answers reads found, answers.length ≤ budget ∧ 0 < budget ∧ Going answers ∧
        complete? .readOut s.channels reads = some found ∧
        summary = ⟨pollOutcome answers, s.channels.length⟩ ∧
        word = writes (Plan.bounded plan).settings s.channels ++ .success (.startRun s.target plan.resume) () ::
          (polls first answers ++ .success (.stopRun s.target) () :: reads) := by
  have polled := ticker_speaks pollInterval (poll first budget) _ (by decide) (by decide) fun t =>
    poll_speaks first budget t
  have reads := fun outcome : Outcome => speaks_bind _ _ _ _ (read_spectra_speaks s.channels) fun measurements =>
    speaks_bind _ _ _ _ (emit_all_speaks measurements) fun _ =>
      speaks_pure (⟨outcome, measurements.length⟩ : Summary)
  have run : Speaks (s.bounded first budget plan) _ :=
    measured_speaks s (Plan.bounded plan).settings plan.resume _ _ _ _ polled reads
  refine speaks_congr _ _ _ run fun summary word => or_congr_right ?_
  constructor
  · rintro ⟨answers, reads, found, few, allowed, going, complete, rfl, rfl⟩
    refine ⟨pollOutcome answers, _, reads, ⟨answers, few, allowed, going, rfl, rfl⟩, ?_, rfl⟩
    have size := complete_length _ _ _ _ complete
    exact ⟨found, reads, [], complete, ⟨(), [], [], rfl, ⟨by rw [size], rfl⟩, rfl⟩, (List.append_nil reads).symm⟩
  · rintro ⟨_, _, _, ⟨answers, few, allowed, going, rfl, rfl⟩,
      ⟨found, reads, _, complete, ⟨_, _, _, rfl, ⟨rfl, rfl⟩, rfl⟩, rfl⟩, rfl⟩
    refine ⟨answers, reads, found, few, allowed, going, complete, ?_, by simp⟩
    rw [complete_length _ _ _ _ complete]

theorem snapshots_speaks (s : Sequencer) (budget : Nat) (plan : SnapshotPlan) (valid : plan.validate = .ok ()) :
    Speaks (s.snapshots budget plan) fun summary word =>
      summary = ⟨.cancelled, 0⟩ ∧ word = writes (Plan.snapshot plan).settings s.channels ∨
      ∃ cycles part, cycles.length < budget ∧ s.Cycles plan.clear cycles part ∧
        summary = ⟨.cancelled, cycles.length * s.channels.length⟩ ∧
        word = writes (Plan.snapshot plan).settings s.channels ++ .success (.startRun s.target false) () ::
          (cycles.flatten ++ part ++ [.success (.stopRun s.target) ()]) := by
  obtain ⟨positive, bounded⟩ := check_period_bounds _ _ _ valid
  have taken := ticker_speaks plan.period (fun t => s.takeSnapshots plan.clear budget t 0) _ positive bounded
    fun t => take_snapshots_speaks s plan.clear budget t 0
  have run : Speaks (s.snapshots budget plan) _ :=
    measured_speaks s (Plan.snapshot plan).settings false _ _ _ _ taken fun records =>
      speaks_pure (⟨.cancelled, records⟩ : Summary)
  refine speaks_congr _ _ _ run fun summary word => or_congr_right ?_
  constructor
  · rintro ⟨cycles, part, few, takes, rfl, rfl⟩
    exact ⟨_, _, [], ⟨cycles, part, few, takes, rfl, rfl⟩, ⟨by rw [Nat.zero_add], rfl⟩, rfl⟩
  · rintro ⟨_, _, _, ⟨cycles, part, few, takes, rfl, rfl⟩, ⟨rfl, rfl⟩, rfl⟩
    exact ⟨cycles, part, few, takes, by rw [Nat.zero_add], rfl⟩

theorem perform_spoken (s : Sequencer) (first : Nat) (plan : Plan) (valid : plan.validate = .ok ())
    (word : List Event) (summary : Summary) :
    s.Spoken first plan word summary ↔
      ∃ budget events, (s.perform first budget plan).Traced events (some (.ok summary)) ∧ called events = word := by
  cases plan with
  | bounded plan =>
      refine Iff.trans ?_ (exists_congr fun budget => bounded_speaks s first budget plan summary word)
      constructor
      · intro spoken
        cases spoken with
        | unstarted => exact ⟨0, .inl ⟨rfl, rfl⟩⟩
        | bounded _ answers reads found going read =>
            exact ⟨answers.length + 1, .inr ⟨answers, reads, found, Nat.le_succ _, Nat.succ_pos _, going, read, rfl, rfl⟩⟩
      · rintro ⟨budget, ⟨rfl, rfl⟩ | ⟨answers, reads, found, -, -, going, read, rfl, rfl⟩⟩
        · exact .unstarted (.bounded plan)
        · exact .bounded plan answers reads found going read
  | snapshot plan =>
      refine Iff.trans ?_ (exists_congr fun budget => snapshots_speaks s budget plan valid summary word)
      constructor
      · intro spoken
        cases spoken with
        | unstarted => exact ⟨0, .inl ⟨rfl, rfl⟩⟩
        | snapshot _ cycles part taken =>
            exact ⟨cycles.length + 1, .inr ⟨cycles, part, Nat.lt_succ_self _, taken, rfl, rfl⟩⟩
      · rintro ⟨budget, ⟨rfl, rfl⟩ | ⟨cycles, part, -, taken, rfl, rfl⟩⟩
        · exact .unstarted (.snapshot plan)
        · exact .snapshot plan cycles part taken
  | trace plan =>
      have silent : writes (Plan.trace plan).settings s.channels = [] :=
        List.flatMap_eq_nil_iff.mpr fun _ _ => rfl
      refine Iff.trans ?_ (exists_congr fun _ => trace_speaks s plan summary word)
      constructor
      · intro spoken
        cases spoken with
        | unstarted => exact ⟨0, .inl ⟨rfl, silent⟩⟩
        | trace _ count reads found within read => exact ⟨0, .inr ⟨count, reads, found, within, read, rfl, rfl⟩⟩
      · rintro ⟨-, ⟨rfl, rfl⟩ | ⟨count, reads, found, within, read, rfl, rfl⟩⟩
        · exact silent ▸ Spoken.unstarted (.trace plan)
        · exact .trace plan count reads found within read

theorem run_speaks (s : Sequencer) (first budget : Nat) (others : List Nat) (plan : Plan)
    (language : Summary → List Event → Prop) (listed : s.channels = first :: others)
    (valid : plan.validate = .ok ()) (speaks : Speaks (s.perform first budget plan) language) :
    Speaks (s.run budget plan) language := by
  have idle : ∀ result : Except Fault Summary, Speaks (do
      ask (.enter .idle)
      Procedure.ofExcept result) fun found word => result = .ok found ∧ word = [] := by
    intro result
    have entered := speaks_ask_bind (.enter .idle) _ _ (fun _ => rfl) fun _ => speaks_of_except result
    exact speaks_congr _ _ _ entered fun found word => ⟨fun said => ⟨(), said⟩, fun ⟨_, said⟩ => said⟩
  have faulty : ∀ fault : Fault, Speaks (do
      ask (.enter .idle)
      Procedure.ofExcept (.error fault : Except Fault Summary)) fun _ _ => False := fun fault =>
    speaks_congr _ _ _ (idle (.error fault)) fun found word => by simp
  have settled := speaks_bind _ _ _ _ (speaks_of_except plan.validate) fun _ =>
    speaks_lift_bind (s.perform first budget plan) (fun result => do
      ask (.enter .idle)
      Procedure.ofExcept result) _ _ speaks (fun summary => idle (.ok summary)) faulty
  have run : s.run budget plan = (do
      Procedure.ofExcept plan.validate
      let result ← ExceptT.lift (s.perform first budget plan).run
      ask (.enter .idle)
      Procedure.ofExcept result) := by
    rw [Sequencer.run, listed]
  rw [run]
  refine speaks_congr _ _ _ settled fun summary word => ?_
  rw [valid]
  constructor
  · intro said
    exact ⟨(), [], word, ⟨rfl, rfl⟩, ⟨summary, word, [], said, ⟨rfl, rfl⟩, (List.append_nil word).symm⟩, rfl⟩
  · rintro ⟨_, _, _, ⟨-, rfl⟩, ⟨_, during, _, said, ⟨same, rfl⟩, rfl⟩, rfl⟩
    cases same
    rw [List.append_nil]
    exact said

theorem run_spoken (s : Sequencer) (first : Nat) (others : List Nat) (plan : Plan)
    (listed : s.channels = first :: others) (valid : plan.validate = .ok ()) (word : List Event) (summary : Summary) :
    s.Spoken first plan word summary ↔
      ∃ budget events, (s.run budget plan).Traced events (some (.ok summary)) ∧ called events = word := by
  refine (perform_spoken s first plan valid word summary).trans (exists_congr fun budget => ?_)
  exact run_speaks s first budget others plan _ listed valid (fun _ _ => Iff.rfl) summary word

-- Whatever a run that returns has called is a word of the grammar, and each word is said by a run in
-- surroundings that recite its answers.
theorem run_call_language (s : Sequencer) (first : Nat) (others : List Nat) (plan : Plan)
    (listed : s.channels = first :: others) (valid : plan.validate = .ok ()) :
    (∀ (σ : Type) (answer : (r : Request) → σ → r.Answer × σ) (start : σ) (budget : Nat) (summary : Summary),
      (Program.run answer (s.run budget plan).run start).1 = some (.ok summary) →
      s.Spoken first plan (called (Program.history answer (s.run budget plan).run start)) summary) ∧
    ∀ (word : List Event) (summary : Summary), s.Spoken first plan word summary →
      ∃ (σ : Type) (answer : (r : Request) → σ → r.Answer × σ) (start : σ) (budget : Nat),
        (Program.run answer (s.run budget plan).run start).1 = some (.ok summary) ∧
        called (Program.history answer (s.run budget plan).run start) = word := by
  constructor
  · intro σ answer start budget summary returned
    have traced : (s.run budget plan).Traced _ _ := Program.history_traced answer (s.run budget plan).run start
    rw [returned] at traced
    exact (run_spoken s first others plan listed valid _ summary).mpr ⟨budget, _, traced, rfl⟩
  · intro word summary spoken
    obtain ⟨budget, events, traced, rfl⟩ := (run_spoken s first others plan listed valid word summary).mp spoken
    obtain ⟨shown, returned⟩ := Program.traced_recited (s.run budget plan).run events _ traced
    exact ⟨List Event, Program.recite, events, budget, returned, by rw [shown]⟩

-- A snapshot that is cut between its spectrum and its statistics.
theorem recalled_call_language :
    let s : Sequencer := ⟨[1, 0], .all⟩
    s.channels = [1, 0] ∧ (Plan.snapshot .standard).validate = .ok () ∧
    (Program.run recalled (s.run 1 (.snapshot .standard)).run 7).1 = some (.ok ⟨.cancelled, 0⟩) ∧
    s.Spoken 1 (.snapshot .standard) [
      .success (.setValue 1 "number_mca_channels" 4096.0) (), .success (.setValue 1 "preset_type" 0.0) (),
      .success (.setValue 0 "number_mca_channels" 4096.0) (), .success (.setValue 0 "preset_type" 0.0) (),
      .success (.startRun .all false) (), .success (.special .all (.snapshot true)) (),
      .success (.snapshotSpectrum 1 4096) #[], .success (.stopRun .all) ()] ⟨.cancelled, 0⟩ := by
  have returned : (Program.run recalled (Sequencer.run ⟨[1, 0], .all⟩ 1 (.snapshot .standard)).run 7).1 =
      some (.ok ⟨.cancelled, 0⟩) := rfl
  have language := run_call_language ⟨[1, 0], .all⟩ 1 [0] (.snapshot .standard) rfl rfl
  exact ⟨rfl, rfl, returned, language.1 Nat recalled 7 1 ⟨.cancelled, 0⟩ returned⟩

end Sequencer
end PulseAnalyzer
