import PulseAnalyzer.Proofs.Run.PollTimes
import PulseAnalyzer.Proofs.Run.Started
import PulseAnalyzer.Proofs.Simulator.Timekeeping

set_option autoImplicit false

namespace PulseAnalyzer
namespace Sequencer
open Procedure

section clock
variable {pace : Pace} (takes : ∀ t e u, pace t e u → e.Takes t u)
include takes

theorem ticker_step {α : Type} (period : Duration) (f : Ticker → Procedure α) (positive : period.nanos ≠ 0)
    (bounded : period.nanos ≤ maxPeriod.nanos) (started : Nat)
    (inRange : started * 1000000 + maxPeriod.nanos ≤ Instant.last) (l : List Stamp)
    (result : Option (Except Fault α)) (v : Nat)
    (clocked : (ticker period >>= f).Clocked pace started l result v) :
    ∃ rest, l = ⟨started, ⟨.now, started * 1000000⟩⟩ :: rest ∧
      (f (.startingAt (started * 1000000 + period.nanos) period)).Clocked pace started rest result v := by
  have early : ¬ (period.nanos = 0 ∨ Instant.last < started * 1000000 + period.nanos) := by
    rintro (empty | late)
    · exact positive empty
    · exact Nat.not_le_of_lt late (Nat.le_trans (Nat.add_le_add_left bounded _) inRange)
  have scheduled : (ticker period >>= f) = ask .now >>= fun now =>
      (if period.nanos = 0 ∨ Instant.last < now + period.nanos then
        Procedure.ofExcept (.error (.range (.unschedulable period)))
      else pure (.startingAt (now + period.nanos) period)) >>= f := rfl
  rw [scheduled] at clocked
  obtain ⟨now, u, rest, rfl, step, after⟩ := clocked_ask_bind .now _ started l result v clocked
  obtain ⟨rfl, rfl⟩ : u = started ∧ now = started * 1000000 := takes started _ u step
  rw [if_neg early] at after
  exact ⟨rest, rfl, after⟩

theorem polls_keep_time (s : Sequencer) (plan : BoundedPlan) (first : Nat) (others : List Nat)
    (listed : s.channels = first :: others) (budget started : Nat)
    (inRange : started * 1000000 + maxPeriod.nanos ≤ Instant.last) (l : List Stamp)
    (result : Option (Except Fault Outcome)) (v : Nat)
    (clocked : Clocked pace (do poll first budget (← ticker pollInterval)) started l result v) :
    Triggered (.runActive first) ((Plan.bounded plan).beat started) l ∧
    ∀ due, (∀ t e u, pace t e u → e.Heeds due t u) →
      (∀ c, due = some c → started < c ∧ ∀ k, (Plan.bounded plan).beat started k ≠ c) →
      ∃ ending : Ending, Timely due (s.cycle (.bounded plan)) ((Plan.bounded plan).beat started) budget l ending v ∧
        ending.Yields (fun _ => .cancelled) result := by
  obtain ⟨rest, rfl, after⟩ := ticker_step takes pollInterval _ (by decide) (by decide) started inRange l result v clocked
  have second : started * 1000000 + pollInterval.nanos = (started + 1000) * 1000000 := by
    change started * 1000000 + 1000000000 = _
    omega
  rw [second] at after
  refine ⟨poll_triggered takes first budget started rest result v after, fun due heeds off => ?_⟩
  obtain ⟨ending, timely, yields⟩ := poll_timely takes due heeds first budget started (fun c planned => (off c planned).1)
    (fun c planned => (off c planned).2) rest result v after
  refine ⟨ending, timely_later due _ _ budget _ rest ending v rfl rfl ?_, yields⟩
  rw [cycle, listed]
  exact timely

theorem snapshots_keep_time (s : Sequencer) (plan : SnapshotPlan) (positive : plan.period.nanos ≠ 0)
    (bounded : plan.period.nanos ≤ maxPeriod.nanos) (budget started : Nat)
    (inRange : started * 1000000 + maxPeriod.nanos ≤ Instant.last) (l : List Stamp)
    (result : Option (Except Fault Nat)) (v : Nat)
    (clocked : Clocked pace (do s.takeSnapshots plan.clear budget (← ticker plan.period) 0) started l result v) :
    Triggered (.special s.target (.snapshot plan.clear)) ((Plan.snapshot plan).beat started) l ∧
    ∀ due, (∀ t e u, pace t e u → e.Heeds due t u) →
      (∀ c, due = some c → started < c ∧ ∀ k, (Plan.snapshot plan).beat started k ≠ c) →
      ∃ ending : Ending, Timely due (s.cycle (.snapshot plan)) ((Plan.snapshot plan).beat started) budget l ending v ∧
        ending.Yields (fun count => count * s.channels.length) result := by
  obtain ⟨rest, rfl, after⟩ := ticker_step takes plan.period _ positive bounded started inRange l result v clocked
  have grid : (Plan.snapshot plan).beat started =
      fun k => Bench.wakeMillis (started * 1000000 + plan.period.nanos + k * plan.period.nanos) := periods_on _ _
  have ahead : started ≤ Bench.wakeMillis (started * 1000000 + plan.period.nanos) := by
    have later := wake_mono (started * 1000000) _ (Nat.le_add_right _ plan.period.nanos)
    rwa [wake_of_millis] at later
  rw [grid]
  refine ⟨snapshot_triggered takes s plan.clear plan.period budget 0 _ started ahead rest result v after,
    fun due heeds off => ?_⟩
  obtain ⟨ending, timely, yields⟩ := snapshot_timely takes due heeds s plan.clear plan.period budget 0 _ started ahead
    (fun c planned => (off c planned).1) (fun c planned => (off c planned).2) rest result v after
  refine ⟨ending, timely_later due _ _ budget _ rest ending v rfl rfl timely, ?_⟩
  simpa using yields

theorem run_on_time (s : Sequencer) (budget : Nat) (plan : Plan) (t v : Nat) (before after : List Stamp) (started : Nat)
    (resume : Bool) (result : Option (Except Fault Summary))
    (inRange : started * 1000000 + maxPeriod.nanos ≤ Instant.last)
    (clocked : (s.run budget plan).Clocked pace t
      (before ++ ⟨started, .success (.startRun s.target resume) ()⟩ :: after) result v) :
    (∃ trigger, (s.cycle plan).head? = some trigger ∧ Triggered trigger (plan.beat started) after) ∧
    ∀ due, (∀ t e u, pace t e u → e.Heeds due t u) →
      (∀ c, due = some c → started < c ∧ ∀ k, plan.beat started k ≠ c) → s.OnTime plan due budget started after result := by
  obtain ⟨first, others, events, ending, listed, valid, performed, split, idles, unspent⟩ :=
    run_performed s budget plan _ result clocked.traced (by simp [shown])
  cases plan with
  | bounded plan =>
      have aftermath := measured_aftermath takes s _ resume _ _ _ (configure_steady _ _)
        (steady_mono _ _ (polling_steady first budget) (by decide)) (closing_steady s) t v before after started clocked.paced
        events ending result (bounded_measured s first budget plan events result performed) idles unspent split
      have keeps := polls_keep_time takes s plan first others listed budget started inRange
      refine ⟨⟨.runActive first, by rw [cycle, listed]; rfl, ?_⟩, fun due heeds off => ?_⟩
      · exact aftermath_triggered pace s _ _ started _ _ (fun d ran u body => (keeps d ran u body).1) after result aftermath
      · refine aftermath_on_time pace s (.bounded plan) due budget started (fun _ => .cancelled) _ _ ?_ ?_
          (fun d ran u body => (keeps d ran u body).2 due heeds off) after result aftermath
        · exact fun count tail told traced => read_out_ends s .cancelled tail told traced
        · intro found tail traced
          obtain ⟨_, impossible, -⟩ := read_out_ends s found tail _ traced
          cases impossible
  | snapshot plan =>
      obtain ⟨positive, bounded⟩ := check_period_bounds _ _ _ valid
      have runs : Steady Part.running (do s.takeSnapshots plan.clear budget (← ticker plan.period) 0) := by
        refine steady_bind _ _ ?_ fun _ => steady_mono _ _ (take_snapshots_steady _ _ _ _ _) (by decide)
        exact steady_mono _ _ (ticker_steady plan.period positive bounded) (by decide)
      have aftermath := measured_aftermath takes s _ resume _ _ _ (configure_steady _ _) runs (fun _ => steady_pure _) t v
        before after started clocked.paced events ending result (snapshots_measured s budget plan events result performed)
        idles unspent split
      have keeps := snapshots_keep_time takes s plan positive bounded budget started inRange
      refine ⟨⟨.special s.target (.snapshot plan.clear), rfl, ?_⟩, fun due heeds off => ?_⟩
      · exact aftermath_triggered pace s _ _ started _ _ (fun d ran u body => (keeps d ran u body).1) after result aftermath
      · refine aftermath_on_time pace s (.snapshot plan) due budget started (fun count => count * s.channels.length) _ _
          ?_ ?_ (fun d ran u body => (keeps d ran u body).2 due heeds off) after result aftermath
        · intro count tail told traced
          obtain ⟨-, rfl⟩ := (traced_pure _ tail told).mp traced
          exact ⟨_, rfl, .inl rfl⟩
        · intro found tail traced
          obtain ⟨-, impossible⟩ := (traced_pure _ tail _).mp traced
          cases impossible
  | trace plan =>
      have begun : .success (.startRun s.target resume) () ∈ events ++ ending := by
        rw [← split, shown_append]
        exact List.mem_append_right _ List.mem_cons_self
      have parts := (trace_steady s plan events result performed).1
      rcases List.mem_append.mp begun with here | here
      · exact absurd rfl (parts_absent parts .start (by decide) _ here)
      · cases idles _ here

end clock

theorem run_keeps_time {σ : Type} (answer : (r : Request) → σ → r.Answer × σ) (millis : σ → Nat) (start : σ)
    (s : Sequencer) (budget : Nat) (plan : Plan) (before after : List Stamp) (started : Nat) (resume : Bool)
    (begun : (s.run budget plan).run.timeline answer millis start =
      before ++ ⟨started, .success (.startRun s.target resume) ()⟩ :: after)
    (inRange : started * 1000000 + maxPeriod.nanos ≤ Instant.last)
    (paced : (s.run budget plan).run.Keeps answer millis Event.Takes start) :
    (∃ trigger, (s.cycle plan).head? = some trigger ∧ Triggered trigger (plan.beat started) after) ∧
    ∀ due, (s.run budget plan).run.Keeps answer millis (Event.Heeds due) start →
      (∀ c, due = some c → started < c ∧ ∀ k, plan.beat started k ≠ c) →
      s.OnTime plan due budget started after ((s.run budget plan).run.run answer start).1 := by
  have clocked := clocked_of_run answer millis (s.run budget plan) start paced
  rw [begun] at clocked
  refine ⟨(run_on_time (fun _ _ _ => id) s budget plan _ _ before after started resume _ inRange clocked).1, ?_⟩
  intro due heeded off
  have both := clocked_of_run answer millis (s.run budget plan) start (paced_both _ _ _ _ _ paced heeded)
  rw [begun] at both
  exact (run_on_time (fun _ _ _ step => step.1) s budget plan _ _ before after started resume _ inRange both).2 due
    (fun _ _ _ step => step.2) off

-- Two snapshots of two channels are taken, after 1501 and 3001 milliseconds.
theorem recalled_bench_keeps_time :
    let s : Sequencer := ⟨[1, 0], .all⟩
    let plan : Plan := .snapshot ⟨⟨1500000001⟩, true⟩
    let b : Bench := { Bench.make (.make 2 0) (.simulated (.make 2)) with plan := ⟨some 4000, none, none⟩ }
    (s.run 9 plan).run.Keeps Bench.answer Bench.millis Event.Takes b ∧
    (s.run 9 plan).run.Keeps Bench.answer Bench.millis (Event.Heeds (some 4000)) b ∧ (∀ k, plan.beat 0 k ≠ 4000) ∧
    ∃ before after, (s.run 9 plan).run.timeline Bench.answer Bench.millis b =
        before ++ ⟨0, .success (.startRun .all false) ()⟩ :: after ∧
      Triggered (.special .all (.snapshot true)) (plan.beat 0) after ∧
      s.OnTime plan (some 4000) 9 0 after (some (.ok ⟨.cancelled, 4⟩)) := by
  have sixth : (((Sequencer.mk [1, 0] .all).run 9 (.snapshot ⟨⟨1500000001⟩, true⟩)).run.timeline Bench.answer Bench.millis
      { Bench.make (.make 2 0) (.simulated (.make 2)) with plan := ⟨some 4000, none, none⟩ })[5]? =
      some ⟨0, .success (.startRun .all false) ()⟩ := by rfl
  have returned : (((Sequencer.mk [1, 0] .all).run 9 (.snapshot ⟨⟨1500000001⟩, true⟩)).run.run Bench.answer
      { Bench.make (.make 2 0) (.simulated (.make 2)) with plan := ⟨some 4000, none, none⟩ }).1 =
      some (.ok ⟨.cancelled, 4⟩) := by rfl
  have off : ∀ k, (Plan.snapshot ⟨⟨1500000001⟩, true⟩).beat 0 k ≠ 4000 := by
    intro k
    change Bench.wakeMillis (0 * 1000000 + (k + 1) * 1500000001) ≠ 4000
    unfold Bench.wakeMillis
    omega
  intro s plan b
  have paced := b.keeps_time ⟨_, rfl⟩ (s.run 9 plan).run
  have heeded := b.keeps_due (some 4000) ⟨rfl, rfl⟩ (s.run 9 plan).run
  obtain ⟨before, after, begun⟩ := List.append_of_mem (List.mem_of_getElem? sixth)
  obtain ⟨⟨trigger, same, triggered⟩, onTime⟩ :=
    run_keeps_time Bench.answer Bench.millis b s 9 plan before after 0 false begun (by decide) paced
  cases same
  rw [returned] at onTime
  refine ⟨paced, heeded, off, before, after, begun, triggered, onTime (some 4000) heeded fun c planned => ?_⟩
  cases planned
  exact ⟨by decide, off⟩

end Sequencer
end PulseAnalyzer
