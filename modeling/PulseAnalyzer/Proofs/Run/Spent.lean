import PulseAnalyzer.Proofs.Run.SnapshotTurn
import PulseAnalyzer.Proofs.Run.StopDiscipline
import PulseAnalyzer.Proofs.Run.Writes

set_option autoImplicit false

namespace PulseAnalyzer

def Event.repeats (e : Event) : Bool := e.part = .poll ∨ e.part = .snapshot

def repetitions (events : List Event) : Nat := events.countP Event.repeats

-- What a run shows that is given up with its budget spent: it is under way, and nothing failed.
structure Exhausted (budget : Nat) (events : List Event) : Prop where
  clean : Clean events
  begun : started events
  unstopped : stopped events = false
  used : repetitions events = budget

theorem repetitions_cons (e : Event) (rest : List Event) :
    repetitions (e :: rest) = repetitions rest + if e.repeats then 1 else 0 :=
  List.countP_cons

theorem repetitions_append (a b : List Event) : repetitions (a ++ b) = repetitions a + repetitions b :=
  List.countP_append

theorem parts_repetitions {parts : List Part} {events : List Event} (inside : ∀ e ∈ events, e.part ∈ parts)
    (other : .poll ∉ parts ∧ .snapshot ∉ parts) : repetitions events = 0 := by
  refine List.countP_eq_zero.mpr fun e member repeats => ?_
  rcases of_decide_eq_true repeats with poll | snapshot
  · exact parts_absent inside .poll other.1 e member poll
  · exact parts_absent inside .snapshot other.2 e member snapshot

namespace Sequencer
open Procedure

theorem configure_returns (settings : List (String × Float)) (channels : List Nat) :
    Returns (configure settings channels) := by
  intro events traced
  obtain ⟨_, impossible, -⟩ := configure_writes settings channels events none traced
  cases impossible

theorem ticker_returns (period : Duration) : Returns (ticker period) := by
  apply returns_bind _ _ (returns_ask .now)
  intro now
  split
  · exact returns_of_except _
  · exact returns_pure _

theorem emit_all_returns (measurements : List Measurement) : Returns (emitAll measurements) := by
  intro events traced
  obtain ⟨-, impossible⟩ := emit_all_traced measurements events none traced
  cases impossible

theorem read_spectra_returns (channels : List Nat) : Returns (readSpectra channels) := by
  intro events traced
  obtain ⟨_, impossible, -⟩ := read_spectra_complete channels events none traced
  cases impossible

theorem read_traces_returns (channels : List Nat) : Returns (readTraces channels) := by
  intro events traced
  obtain ⟨_, impossible, -⟩ := read_traces_complete channels events none traced
  cases impossible

theorem closing_returns (s : Sequencer) (outcome : Outcome) :
    Returns (do
      let measurements ← readSpectra s.channels
      emitAll measurements
      return (⟨outcome, measurements.length⟩ : Summary)) := by
  apply returns_bind _ _ (read_spectra_returns s.channels)
  intro measurements
  exact returns_bind _ _ (emit_all_returns measurements) fun _ => returns_pure _

theorem trace_returns (s : Sequencer) (plan : TracePlan) : Returns (s.trace plan) := by
  apply returns_bind _ _ (returns_ask .isCancelled)
  intro cancelled
  cases cancelled with
  | true => exact returns_pure _
  | false =>
      apply returns_bind _ _ (returns_api (.special s.target (.adcTrace plan.samplePeriod)))
      intro _
      apply returns_bind _ _ (read_traces_returns s.channels)
      intro found
      cases found with
      | none => exact returns_pure _
      | some measurements => exact returns_bind _ _ (emit_all_returns measurements) fun _ => returns_pure _

theorem poll_spent (channel budget : Nat) (ticker : Ticker) (events : List Event)
    (traced : (poll channel budget ticker).Traced events none) : repetitions events = budget := by
  induction budget generalizing ticker events with
  | zero =>
      obtain ⟨rfl, -⟩ := (traced_spent events none).mp traced
      rfl
  | succ budget ih =>
      obtain ⟨cancelled, checked, polling, rfl⟩ := (traced_ask_bind .isCancelled _ events none).mp traced
      cases cancelled with
      | true => exact (returns_pure _ checked polling).elim
      | false =>
          rcases (traced_api_bind (.runActive channel) _ checked none).mp polling with
            ⟨active, polled, waiting, rfl⟩ | ⟨_, -, impossible⟩
          · cases active with
            | false => exact (returns_pure _ polled waiting).elim
            | true =>
                obtain ⟨woken, rest, after, rfl⟩ := (traced_ask_bind (.await ticker.deadline) _ polled none).mp waiting
                cases woken with
                | none => exact (returns_pure _ rest after).elim
                | some now =>
                    rw [repetitions_cons, repetitions_cons, repetitions_cons, ih (ticker.taken now) rest after]
                    rfl
          · cases impossible

theorem take_snapshots_spent (s : Sequencer) (clear : Bool) (budget : Nat) (ticker : Ticker) (emitted : Nat)
    (events : List Event) (traced : (s.takeSnapshots clear budget ticker emitted).Traced events none) :
    repetitions events = budget := by
  induction budget generalizing ticker emitted events with
  | zero =>
      obtain ⟨rfl, -⟩ := (traced_spent events none).mp traced
      rfl
  | succ budget ih =>
      cases s.snapshot_turn clear budget ticker emitted events none traced with
      | whole now reads later measurements _ read after =>
          have readOnly := parts_repetitions (read_snapshot_steady s.channels reads _ read).1 (by decide)
          have handedOnly : repetitions (emissions measurements) = 0 :=
            List.countP_eq_zero.mpr (by simp [emissions, Event.repeats, Event.part, Request.part])
          rw [repetitions_cons, repetitions_cons, repetitions_cons, repetitions_append, repetitions_append, readOnly,
            handedOnly, ih (ticker.taken now) _ later after, Nat.zero_add, Nat.zero_add]
          rfl

theorem ticked_spent {α : Type} (period : Duration) (f : Ticker → Procedure α) (budget : Nat)
    (spends : ∀ ticker events, (f ticker).Traced events none → repetitions events = budget) (events : List Event)
    (traced : (ticker period >>= f).Traced events none) : repetitions events = budget := by
  rcases (traced_bind _ _ events none).mp traced with ⟨first, head, tail, begun, after, rfl⟩ | ⟨_, -, impossible⟩ | ⟨stuck, -⟩
  · obtain ⟨now, rfl, -⟩ := ticker_traced period head _ begun
    exact spends first tail after
  · cases impossible
  · exact (ticker_returns period events stuck).elim

theorem measured_spent {α : Type} (s : Sequencer) (lead : Procedure Unit) (resume : Bool) (body : Procedure α)
    (rest : α → Procedure Summary) (budget : Nat) (events : List Event) (leads : Steady [.configuration] lead)
    (led : Returns lead) (runs : Steady Part.running body)
    (spends : ∀ during, body.Traced during none → repetitions during = budget) (closes : ∀ value, Returns (rest value))
    (measured : Measured s lead resume body rest events none) (inRange : ClockInRange events) :
    Exhausted budget events := by
  cases measured with
  | unled _ stuck => exact (led events stuck).elim
  | stopped before during tail outcome answer value _ _ _ _ stuck => exact (closes value tail stuck).elim
  | spent before during configured ran =>
      obtain ⟨writes, written⟩ := leads before _ configured
      obtain ⟨inside, unfailed⟩ := runs during none ran
      obtain ⟨earlyRange, duringRange⟩ := clock_in_range_append _ during inRange
      have early := (clock_in_range_append before _ earlyRange).1
      have opening : Clean (s.startEvents resume) := by simp [startEvents, Clean, Event.fault?]
      refine ⟨?_, ?_, ?_, ?_⟩
      · exact (clean_append _ during).mpr ⟨(clean_append before _).mpr ⟨written early, opening⟩, unfailed duringRange⟩
      · rw [started_append, started_append]
        simp [startEvents, started, Event.isStarted]
      · rw [stopped_append, stopped_append, parts_stopped writes (by decide), parts_stopped inside inert_running.2.1]
        rfl
      · rw [repetitions_append, repetitions_append, parts_repetitions writes (by decide), spends during ran]
        exact Nat.zero_add budget

theorem perform_spent (s : Sequencer) (first budget : Nat) (plan : Plan) (events : List Event) (valid : plan.validate = .ok ())
    (traced : (s.perform first budget plan).Traced events none) (inRange : ClockInRange events) :
    Exhausted budget events := by
  cases plan with
  | bounded plan =>
      refine measured_spent s _ _ _ _ budget events (configure_steady _ _) (configure_returns _ _) ?_ ?_ (closing_returns s)
        (bounded_measured s first budget plan events none traced) inRange
      · exact steady_mono _ _ (polling_steady first budget) (by decide)
      · exact ticked_spent pollInterval _ budget (poll_spent first budget)
  | snapshot plan =>
      obtain ⟨positive, bounded⟩ := check_period_bounds _ _ _ valid
      refine measured_spent s _ _ _ _ budget events (configure_steady _ _) (configure_returns _ _) ?_ ?_
        (fun _ => returns_pure _) (snapshots_measured s budget plan events none traced) inRange
      · refine steady_bind _ _ ?_ fun _ => steady_mono _ _ (take_snapshots_steady _ _ _ _ _) (by decide)
        exact steady_mono _ _ (ticker_steady plan.period positive bounded) (by decide)
      · exact ticked_spent plan.period _ budget fun ticker => take_snapshots_spent s plan.clear budget ticker 0
  | trace plan => exact (trace_returns s plan events traced).elim

theorem run_spent (s : Sequencer) (budget : Nat) (plan : Plan) (events : List Event)
    (traced : (s.run budget plan).Traced events none) (inRange : ClockInRange events) : Exhausted budget events := by
  rcases run_traced s budget plan events none traced with
    ⟨-, -, impossible⟩ | ⟨-, _, -, -, impossible⟩ | ⟨first, _, -, valid, ⟨performed, -⟩ | ⟨_, _, -, -, impossible⟩⟩
  · cases impossible
  · cases impossible
  · exact perform_spent s first budget plan events valid performed inRange
  · cases impossible

end Sequencer
end PulseAnalyzer
