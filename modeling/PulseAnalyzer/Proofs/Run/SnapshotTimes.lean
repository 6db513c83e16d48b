import PulseAnalyzer.Proofs.Run.SnapshotCycle

set_option autoImplicit false

namespace PulseAnalyzer
namespace Sequencer
open Procedure

section clock
variable {pace : Pace} (takes : ∀ t e u, pace t e u → e.Takes t u)
include takes

theorem snapshot_triggered (s : Sequencer) (clear : Bool) (period : Duration) (budget emitted deadline t : Nat)
    (ahead : t ≤ Bench.wakeMillis deadline) (l : List Stamp) (result : Option (Except Fault Nat)) (v : Nat)
    (clocked : (s.takeSnapshots clear budget (.startingAt deadline period) emitted).Clocked pace t l result v) :
    Triggered (.special s.target (.snapshot clear)) (fun k => Bench.wakeMillis (deadline + k * period.nanos)) l := by
  induction budget generalizing emitted deadline t l with
  | zero =>
      obtain ⟨rfl, -, -⟩ := clocked_spent t l result v clocked
      exact triggered_never _ _ _ rfl
  | succ budget ih =>
      have first (u : Nat) (woken : u = max t (Bench.wakeMillis deadline)) :
          u = Bench.wakeMillis (deadline + 0 * period.nanos) := by
        rw [grid_first, woken]
        exact Nat.max_eq_right ahead
      have once (u : Nat) (woken : u = max t (Bench.wakeMillis deadline)) (reads : List Stamp)
          (other : triggers reads = []) :
          triggers (s.triggering clear t deadline u ++ reads) =
            [(Bench.wakeMillis (deadline + 0 * period.nanos), .special s.target (.snapshot clear))] := by
        rw [triggers_append, other, ← first u woken]
        rfl
      have unread (u : Nat) (reads : List Stamp) (read : ReadAt u s.channels reads) : triggers reads = [] :=
        untriggered reads _ read.parts (by decide) (by decide)
      cases snapshot_step takes s clear budget _ emitted t l result v clocked with
      | interrupted v step => exact triggered_never _ _ _ rfl
      | recalled _ woken waited step => exact triggered_never _ _ _ rfl
      | refused _ woken waited code fault =>
          refine triggered_once _ _ _ ?_
          rw [← first v woken]
          rfl
      | cut _ woken waited reads read step => exact triggered_once _ _ _ (once v woken _ (unread v _ read))
      | failed _ woken waited past last fault read clean fails =>
          exact triggered_once _ _ _ (once v woken _ (unread v _ read))
      | again u woken waited reads handed rest read clean whole measurements emits result v after =>
          have silent : calledAt handed = [] := emitted_uncalled measurements handed emits
          have other : triggers (reads ++ handed) = [] := by
            rw [triggers_append, unread u reads read, triggers, silent]
            rfl
          refine triggered_next _ _ _ _ (once u woken _ other) ?_
          obtain rfl : u = Bench.wakeMillis deadline := woken.trans (Nat.max_eq_right ahead)
          rw [periods_on]
          refine ih (emitted + s.channels.length) (deadline + period.nanos) _ (wake_mono _ _ (Nat.le_add_right _ _)) rest ?_
          rw [← Ticker.taken_at_wake]
          exact after

section first
variable (due : Option Nat) (heeds : ∀ t e u, pace t e u → e.Heeds due t u) (period : Duration) (deadline t u : Nat)
  (ahead : t ≤ Bench.wakeMillis deadline)

omit takes in
include ahead in
theorem first_beat (woken : u = max t (Bench.wakeMillis deadline)) : u = Bench.wakeMillis (deadline + 0 * period.nanos) := by
  rw [grid_first, woken]
  exact Nat.max_eq_right ahead

omit takes in
include heeds ahead in
theorem woken_early (off : ∀ c, due = some c → ∀ k, Bench.wakeMillis (deadline + k * period.nanos) ≠ c)
    (woken : u = max t (Bench.wakeMillis deadline)) (waited : pace t ⟨.await deadline, some (u * 1000000)⟩ u) (c : Nat)
    (planned : due = some c) : u < c := by
  obtain ⟨-, late⟩ := heeds t _ u waited c planned
  have other := off c planned 0
  rw [← first_beat period deadline t u ahead woken] at other
  omega

omit takes in
include heeds ahead in
theorem interrupted_timely (cycle : List Acquisition.Call) (budget : Nat) (early : ∀ c, due = some c → t < c)
    (step : pace t ⟨.await deadline, none⟩ u) :
    Timely due cycle (fun k => Bench.wakeMillis (deadline + k * period.nanos)) budget [⟨t, ⟨.await deadline, none⟩⟩]
      (.cancelled 0) u := by
  obtain ⟨c, planned, rfl, late⟩ := heeds t _ u step
  have same : max t c = c := Nat.max_eq_right (Nat.le_of_lt (early c planned))
  have reached : c ≤ Bench.wakeMillis deadline := by rwa [Nat.max_eq_right ahead] at late
  rw [same]
  refine timely_recalled due _ _ _ _ c planned (by simp [Calm, Event.ends, Event.fault?]) rfl fun k => ?_
  exact Nat.le_trans reached (wake_mono _ _ (Nat.le_add_right _ _))

end first

omit takes in
-- A whole cycle and what follows it, counted from the deadline after it.
theorem cycle_timely (due : Option Nat) (cycle : List Acquisition.Call) (period : Duration) (budget emitted size deadline u : Nat)
    (now : u = Bench.wakeMillis (deadline + 0 * period.nanos)) (first rest : List Stamp) (ending : Ending)
    (result : Option (Except Fault Nat)) (v : Nat) (calm : Calm first) (called : calledAt first = cycle.map (u, ·))
    (passed : ∀ c, due = some c → u < c)
    (timely : Timely due cycle (fun k => Bench.wakeMillis (deadline + period.nanos + k * period.nanos)) budget rest ending v)
    (yields : ending.Yields (fun count => emitted + size + count * size) result) :
    Timely due cycle (fun k => Bench.wakeMillis (deadline + k * period.nanos)) (budget + 1) (first ++ rest) ending.next v ∧
      ending.next.Yields (fun count => emitted + count * size) result := by
  subst now
  rw [← periods_on] at timely
  have more : (fun count => emitted + size + count * size) = fun count => emitted + (count + 1) * size := by
    funext count
    rw [Nat.succ_mul]
    omega
  rw [more] at yields
  exact ⟨timely_next due _ (fun k => Bench.wakeMillis (deadline + k * period.nanos)) budget _ rest ending v calm called passed
    timely, yields_next _ result ending yields⟩

theorem snapshot_timely (due : Option Nat) (heeds : ∀ t e u, pace t e u → e.Heeds due t u) (s : Sequencer) (clear : Bool)
    (period : Duration) (budget emitted deadline t : Nat) (ahead : t ≤ Bench.wakeMillis deadline)
    (early : ∀ c, due = some c → t < c) (off : ∀ c, due = some c → ∀ k, Bench.wakeMillis (deadline + k * period.nanos) ≠ c)
    (l : List Stamp) (result : Option (Except Fault Nat)) (v : Nat)
    (clocked : (s.takeSnapshots clear budget (.startingAt deadline period) emitted).Clocked pace t l result v) :
    ∃ ending : Ending, Timely due (s.snapshotCycle clear) (fun k => Bench.wakeMillis (deadline + k * period.nanos)) budget
      l ending v ∧ ending.Yields (fun count => emitted + count * s.channels.length) result := by
  induction budget generalizing emitted deadline t l with
  | zero =>
      obtain ⟨rfl, -, rfl⟩ := clocked_spent t l result v clocked
      exact ⟨.spent, .spent [] v (List.forall_mem_nil _) rfl nofun, rfl⟩
  | succ budget ih =>
      have first := fun u => first_beat period deadline t u ahead
      have before := fun u => woken_early due heeds period deadline t u ahead off
      cases snapshot_step takes s clear budget _ emitted t l result v clocked with
      | interrupted _ step =>
          have nothing := grid_first emitted s.channels.length
          exact ⟨.cancelled 0, interrupted_timely due heeds period deadline t v ahead _ _ early step,
            congrArg (some ∘ Except.ok) nothing.symm⟩
      | recalled _ woken waited step =>
          exact absurd (heeds v _ v step) (unchecked_early due v v (before v woken waited))
      | refused _ woken waited code fault =>
          have ended := timely_first due (s.snapshotCycle clear) (fun k => Bench.wakeMillis (deadline + k * period.nanos))
            budget v [⟨t, ⟨.await deadline, some (v * 1000000)⟩⟩, ⟨v, .checked false⟩]
            (.failure (.special s.target (.snapshot clear)) code) (first v woken)
            (by simp [Calm, Event.ends, Event.fault?]) rfl ⟨(snapshotCalls s.channels).map (v, ·), rfl⟩
            (before v woken waited)
          exact ⟨.answered, ended, rfl⟩
      | cut _ woken waited reads read step =>
          exact absurd (heeds v _ v step) (unchecked_early due v v (before v woken waited))
      | failed _ woken waited past last fault read clean fails =>
          obtain ⟨calm, cut⟩ := s.snapshot_failed clear t deadline v past last read clean
          have ended := timely_first due (s.snapshotCycle clear) (fun k => Bench.wakeMillis (deadline + k * period.nanos))
            budget v _ last (first v woken) calm (ends_of_fault last fault fails) cut (before v woken waited)
          rw [List.append_assoc] at ended
          exact ⟨.answered, ended, rfl⟩
      | again u woken waited reads handed rest read clean whole measurements emits result v after =>
          obtain ⟨calm, called⟩ := s.snapshot_whole clear t deadline u reads handed read clean whole measurements emits
          have passed := before u woken waited
          have woke : u = Bench.wakeMillis deadline := woken.trans (Nat.max_eq_right ahead)
          have further : u ≤ Bench.wakeMillis (deadline + period.nanos) := by
            rw [woke]
            exact wake_mono _ _ (Nat.le_add_right _ _)
          have others : ∀ c, due = some c → ∀ k, Bench.wakeMillis (deadline + period.nanos + k * period.nanos) ≠ c := by
            intro c planned k
            have other := off c planned (k + 1)
            rwa [grid_next] at other
          rw [woke, Ticker.taken_at_wake, ← woke] at after
          obtain ⟨ending, timely, yields⟩ := ih (emitted + s.channels.length) _ u further passed others rest after
          exact ⟨ending.next, cycle_timely due _ period budget emitted _ deadline u (first u woken) _ rest ending result v
            calm called passed timely yields⟩

end clock
end Sequencer
end PulseAnalyzer
