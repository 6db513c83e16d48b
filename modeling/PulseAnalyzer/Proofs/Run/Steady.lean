import PulseAnalyzer.Proofs.Run.Event

set_option autoImplicit false

namespace PulseAnalyzer
namespace Procedure

variable {α β : Type} {parts : List Part}

def Steady (parts : List Part) (p : Procedure α) : Prop :=
  ∀ events result, p.Traced events result →
    (∀ e ∈ events, e.part ∈ parts) ∧ (ClockInRange events → FailStop events result)

theorem steady_mono (fewer : List Part) (p : Procedure α) (steady : Steady fewer p)
    (all : ∀ part ∈ fewer, part ∈ parts) : Steady parts p := by
  intro events result traced
  obtain ⟨inside, stops⟩ := steady events result traced
  exact ⟨fun e member => all e.part (inside e member), stops⟩

theorem steady_pure (value : α) : Steady parts (pure value : Procedure α) := by
  intro events result traced
  obtain ⟨rfl, rfl⟩ := (traced_pure value events result).mp traced
  exact ⟨by simp, fun _ => clean_nil⟩

theorem steady_spent : Steady parts (ExceptT.mk .spent : Procedure α) := by
  intro events result traced
  obtain ⟨rfl, rfl⟩ := (traced_spent events result).mp traced
  exact ⟨by simp, fun _ => clean_nil⟩

theorem steady_ask (r : Request) (part : Part) (same : r.part = part) (here : part ∈ parts)
    (quiet : ∀ answer, Event.fault? ⟨r, answer⟩ = none) : Steady parts (ask r) := by
  intro events result traced
  obtain ⟨answer, rfl, rfl⟩ := (traced_ask r events result).mp traced
  constructor
  · intro e member
    rw [List.mem_singleton.mp member]
    cases same
    exact here
  · intro _ e member
    rw [List.mem_singleton.mp member]
    exact quiet answer

theorem steady_api (call : Acquisition.Call) (part : Part) (same : call.part = part) (here : part ∈ parts) :
    Steady parts (api call) := by
  intro events result traced
  obtain ⟨answer, rfl, rfl⟩ := (traced_api call events result).mp traced
  constructor
  · intro e member
    rw [List.mem_singleton.mp member]
    cases same
    exact here
  · intro _
    cases answer with
    | ok value =>
        intro e member
        rw [List.mem_singleton.mp member]
        rfl
    | error code => exact ⟨[], .failure call code, rfl, rfl, clean_nil⟩

theorem steady_bind (p : Procedure α) (f : α → Procedure β) (first : Steady parts p)
    (rest : ∀ value, Steady parts (f value)) : Steady parts (p >>= f) := by
  intro events result traced
  rcases (traced_bind p f events result).mp traced with
    ⟨value, head, tail, begun, after, rfl⟩ | ⟨fault, failed, rfl⟩ | ⟨stuck, rfl⟩
  · obtain ⟨inside, clean⟩ := first head _ begun
    obtain ⟨insideTail, ending⟩ := rest value tail result after
    refine ⟨List.forall_mem_append.mpr ⟨inside, insideTail⟩, fun inRange => ?_⟩
    obtain ⟨early, late⟩ := clock_in_range_append head tail inRange
    exact fail_stop_append head tail result (clean early) (ending late)
  · exact first events _ failed
  · exact first events _ stuck

theorem steady_check (f : Bool → Procedure β) (here : .check ∈ parts) (stop : Steady parts (f true))
    (go : Steady parts (f false)) : Steady parts (ask .isCancelled >>= f) := by
  apply steady_bind _ f (steady_ask .isCancelled .check rfl here fun _ => rfl)
  intro cancelled
  cases cancelled with
  | true => exact stop
  | false => exact go

end Procedure

namespace Sequencer
open Procedure

theorem write_steady (channel : Nat) (settings : List (String × Float)) :
    Steady [.configuration] (configure.write channel settings) := by
  induction settings with
  | nil => exact steady_pure ()
  | cons setting rest ih => exact steady_bind _ _ (steady_api _ .configuration rfl (by decide)) fun _ => ih

theorem configure_steady (settings : List (String × Float)) (channels : List Nat) :
    Steady [.configuration] (configure settings channels) := by
  induction channels with
  | nil => exact steady_pure ()
  | cons channel rest ih => exact steady_bind _ _ (write_steady channel settings) fun _ => ih

theorem emit_all_steady (measurements : List Measurement) : Steady [.emission] (emitAll measurements) := by
  induction measurements with
  | nil => exact steady_pure ()
  | cons m rest ih => exact steady_bind _ _ (steady_ask _ .emission rfl (by decide) fun _ => rfl) fun _ => ih

theorem ticker_traced (period : Duration) (events : List Event) (result : Option (Except Fault Ticker))
    (traced : (ticker period).Traced events result) :
    ∃ now, events = [⟨.now, now⟩] ∧
      ((period.nanos = 0 ∨ Instant.last < now + period.nanos) ∨
        result = some (.ok (.startingAt (now + period.nanos) period))) := by
  obtain ⟨now, rest, after, rfl⟩ := (traced_ask_bind .now _ events result).mp traced
  split at after
  · rename_i refused
    obtain ⟨rfl, -⟩ := (traced_of_except _ rest result).mp after
    exact ⟨now, rfl, .inl refused⟩
  · obtain ⟨rfl, same⟩ := (traced_pure _ rest result).mp after
    exact ⟨now, rfl, .inr same⟩

-- The check of the period leaves the ticker no reason to refuse.
theorem ticker_steady (period : Duration) (positive : period.nanos ≠ 0)
    (bounded : period.nanos ≤ maxPeriod.nanos) : Steady [.clock] (ticker period) := by
  intro events result traced
  obtain ⟨now, rfl, told⟩ := ticker_traced period events result traced
  refine ⟨by simp [Event.part, Request.part], fun inRange => ?_⟩
  rcases told with (empty | late) | rfl
  · exact absurd empty positive
  · have early : now + period.nanos ≤ Instant.last :=
      Nat.le_trans (Nat.add_le_add_left bounded now) (inRange now List.mem_cons_self)
    exact absurd early (Nat.not_le_of_lt late)
  · intro e member
    rw [List.mem_singleton.mp member]
    rfl

theorem poll_steady (channel budget : Nat) (ticker : Ticker) :
    Steady [.check, .poll, .clock] (poll channel budget ticker) := by
  induction budget generalizing ticker with
  | zero => exact steady_spent
  | succ budget ih =>
      refine steady_check _ (by decide) (steady_pure _) ?_
      apply steady_bind _ _ (steady_api (.runActive channel) .poll rfl (by decide))
      intro active
      cases active with
      | false => exact steady_pure _
      | true =>
          apply steady_bind _ _ (steady_ask (.await ticker.deadline) .clock rfl (by decide) fun _ => rfl)
          intro woken
          cases woken with
          | none => exact steady_pure _
          | some now => exact ih (ticker.taken now)

theorem polling_steady (channel budget : Nat) :
    Steady [.check, .poll, .clock] (do poll channel budget (← ticker pollInterval)) := by
  refine steady_bind _ _ ?_ fun ticker => poll_steady channel budget ticker
  exact steady_mono _ _ (ticker_steady pollInterval (by decide) (by decide)) (by decide)

theorem read_spectra_steady (channels : List Nat) : Steady [.readOut] (readSpectra channels) := by
  induction channels with
  | nil => exact steady_pure []
  | cons channel rest ih =>
      apply steady_bind _ _ (steady_api (.spectrumLength channel) .readOut rfl (by decide))
      intro length
      apply steady_bind _ _ (steady_api (.spectrum channel length) .readOut rfl (by decide))
      intro bins
      apply steady_bind _ _ (steady_api (.statistics channel) .readOut rfl (by decide))
      intro statistics
      exact steady_bind _ _ ih fun _ => steady_pure _

theorem read_snapshot_steady (channels : List Nat) :
    Steady [.check, .snapshotRead] (readSnapshot channels) := by
  induction channels with
  | nil => exact steady_pure _
  | cons channel rest ih =>
      refine steady_check _ (by decide) (steady_pure _) ?_
      apply steady_bind _ _ (steady_api (.snapshotSpectrum channel snapshotLength) .snapshotRead rfl
        (by decide))
      intro bins
      refine steady_check _ (by decide) (steady_pure _) ?_
      apply steady_bind _ _ (steady_api (.snapshotStatistics channel) .snapshotRead rfl
        (by decide))
      intro statistics
      apply steady_bind _ _ ih
      intro others
      cases others with
      | none => exact steady_pure _
      | some found => exact steady_pure _

theorem take_snapshots_steady (s : Sequencer) (clear : Bool) (budget : Nat) (ticker : Ticker) (emitted : Nat) :
    Steady [.check, .clock, .snapshot, .snapshotRead, .emission]
      (s.takeSnapshots clear budget ticker emitted) := by
  induction budget generalizing ticker emitted with
  | zero => exact steady_spent
  | succ budget ih =>
      apply steady_bind _ _ (steady_ask (.await ticker.deadline) .clock rfl (by decide) fun _ => rfl)
      intro woken
      cases woken with
      | none => exact steady_pure _
      | some now =>
          refine steady_check _ (by decide) (steady_pure _) ?_
          apply steady_bind _ _ (steady_api (.special s.target (.snapshot clear)) .snapshot rfl
            (by decide))
          intro _
          apply steady_bind _ _ (steady_mono _ _ (read_snapshot_steady s.channels) (by decide))
          intro found
          cases found with
          | none => exact steady_pure _
          | some measurements =>
              apply steady_bind _ _ (steady_mono _ _ (emit_all_steady measurements) (by decide))
              intro _
              exact ih (ticker.taken now) _

theorem read_traces_steady (channels : List Nat) : Steady [.check, .captureRead] (readTraces channels) := by
  induction channels with
  | nil => exact steady_pure _
  | cons channel rest ih =>
      refine steady_check _ (by decide) (steady_pure _) ?_
      apply steady_bind _ _ (steady_api (.traceLength channel) .captureRead rfl (by decide))
      intro length
      apply steady_bind _ _ (steady_api (.trace channel length) .captureRead rfl (by decide))
      intro samples
      apply steady_bind _ _ ih
      intro others
      cases others with
      | none => exact steady_pure _
      | some found => exact steady_pure _

theorem trace_steady (s : Sequencer) (plan : TracePlan) :
    Steady [.check, .capture, .captureRead, .emission] (s.trace plan) := by
  refine steady_check _ (by decide) (steady_pure _) ?_
  apply steady_bind _ _ (steady_api (.special s.target (.adcTrace plan.samplePeriod)) .capture rfl
    (by decide))
  intro _
  apply steady_bind _ _ (steady_mono _ _ (read_traces_steady s.channels) (by decide))
  intro found
  cases found with
  | none => exact steady_pure _
  | some measurements =>
      apply steady_bind _ _ (steady_mono _ _ (emit_all_steady measurements) (by decide))
      intro _
      exact steady_pure _

end Sequencer
end PulseAnalyzer
