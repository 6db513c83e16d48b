import PulseAnalyzer.Proofs.Run.Measured

set_option autoImplicit false

namespace PulseAnalyzer

namespace Part

def leading : List Part := [.configuration, .check]
def running : List Part := [.check, .clock, .poll, .snapshot, .snapshotRead, .emission]
def closing : List Part := [.readOut, .emission]
def capturing : List Part := [.check, .capture, .captureRead, .emission]

end Part

theorem check_period_bounds (what : String) (period least : Duration)
    (accepted : checkPeriod what period least = .ok ()) :
    period.nanos ≠ 0 ∧ period.nanos ≤ maxPeriod.nanos := by
  unfold checkPeriod at accepted
  split at accepted
  · cases accepted
  · rename_i inside
    exact ⟨fun empty => inside (.inr (.inr empty)),
      Nat.le_of_not_lt fun late => inside (.inr (.inl late))⟩

theorem fail_stop_map {α β : Type} (f : α → β) (events : List Event) (outcome : Except Fault α)
    (stops : FailStop events (some outcome)) : FailStop events (some (outcome.map f)) := by
  cases outcome with
  | ok value => exact stops
  | error fault => exact stops

namespace Sequencer
open Procedure

-- The outcome of what ran is kept without its value.
inductive Course (s : Sequencer) : List Event → Except Fault Summary → Prop where
  | unstarted (parts : List Part) (events : List Event) (result : Except Fault Summary)
      (early : parts = Part.leading ∨ parts = Part.capturing) (inside : ∀ e ∈ events, e.part ∈ parts)
      (ends : ClockInRange events → FailStop events (some result)) :
      Course s events result
  | refused (before : List Event) (resume : Bool) (code : Int)
      (leads : ∀ e ∈ before, e.part ∈ Part.leading)
      (clean : ClockInRange before → Clean before) :
      Course s (before ++ [.failure (.startRun s.target resume) code])
        (.error (.device "start_run" code))
  | stopped (before during tail : List Event) (resume : Bool) (answer : Except Int Unit)
      (outcome : Except Fault Unit) (result : Except Fault Summary)
      (leads : ∀ e ∈ before, e.part ∈ Part.leading)
      (clean : ClockInRange before → Clean before)
      (ran : ∀ e ∈ during, e.part ∈ Part.running)
      (ends : ClockInRange during → FailStop during (some outcome))
      (read : ∀ e ∈ tail, e.part ∈ Part.closing)
      (last : match settled outcome answer with
        | .error fault => tail = [] ∧ result = .error fault
        | .ok _ => ClockInRange tail → FailStop tail (some result)) :
      Course s
        (before ++ .success (.startRun s.target resume) () :: .entered .running ::
          (during ++ .entered .stopping :: ⟨.api (.stopRun s.target), answer⟩ :: tail))
        result

theorem settled_map {α : Type} (outcome : Except Fault α) (answer : Except Int Unit) :
    settled (outcome.map fun _ => ()) answer = (settled outcome answer).map fun _ => () := by
  cases outcome <;> cases answer <;> rfl

theorem checked_lead (lead : Procedure Unit) (leads : Steady Part.leading lead)
    (before : List Event) (led : lead.Traced before (some (.ok ()))) (cancelled : Bool) :
    (∀ e ∈ before ++ [.checked cancelled], e.part ∈ Part.leading) ∧
      (ClockInRange (before ++ [.checked cancelled]) → Clean (before ++ [.checked cancelled])) := by
  obtain ⟨inside, clean⟩ := leads before _ led
  constructor
  · exact List.forall_mem_append.mpr ⟨inside, by simp [Event.part, Request.part, Part.leading]⟩
  · intro inRange
    have early := (clock_in_range_append before _ inRange).1
    exact (clean_append before _).mpr ⟨clean early, by simp [Clean, Event.fault?]⟩

theorem measured_course {α : Type} (s : Sequencer) (lead : Procedure Unit) (resume : Bool)
    (body : Procedure α) (rest : α → Procedure Summary) (events : List Event)
    (result : Except Fault Summary) (leads : Steady Part.leading lead)
    (runs : Steady Part.running body) (reads : ∀ value, Steady Part.closing (rest value))
    (measured : Measured s lead resume body rest events (some result)) : s.Course events result := by
  cases measured with
  | misled _ fault led =>
      obtain ⟨inside, ends⟩ := leads events _ led
      exact .unstarted Part.leading events _ (.inl rfl) inside ends
  | cancelled before led =>
      obtain ⟨inside, clean⟩ := checked_lead lead leads before led true
      exact .unstarted Part.leading _ _ (.inl rfl) inside clean
  | refused before code led =>
      obtain ⟨led, clean⟩ := checked_lead lead leads before led false
      have course := Course.refused (s := s) (before ++ [.checked false]) resume code led clean
      rw [List.append_assoc] at course
      exact course
  | faulty before during outcome answer fault led ran fails =>
      obtain ⟨led, clean⟩ := checked_lead lead leads before led false
      obtain ⟨inside, ends⟩ := runs during _ ran
      have course := Course.stopped (s := s) (before ++ [.checked false]) during [] resume answer
        (outcome.map fun _ => ()) (.error fault) led clean inside
        (fun inRange => fail_stop_map _ during outcome (ends inRange)) (by simp)
        (by rw [settled_map, fails]; exact ⟨rfl, rfl⟩)
      simpa [startEvents, stopEvents] using course
  | stopped before during tail outcome answer value _ led ran fine read =>
      obtain ⟨led, clean⟩ := checked_lead lead leads before led false
      obtain ⟨inside, ends⟩ := runs during _ ran
      obtain ⟨outside, last⟩ := reads value tail _ read
      have course := Course.stopped (s := s) (before ++ [.checked false]) during tail resume answer
        (outcome.map fun _ => ()) result led clean inside
        (fun inRange => fail_stop_map _ during outcome (ends inRange)) outside
        (by rw [settled_map, fine]; exact last)
      simpa [startEvents, stopEvents] using course

theorem closing_steady (s : Sequencer) (outcome : Outcome) :
    Steady Part.closing (do
      let measurements ← readSpectra s.channels
      emitAll measurements
      return (⟨outcome, measurements.length⟩ : Summary)) := by
  apply steady_bind _ _ (steady_mono _ _ (read_spectra_steady _) (by decide))
  intro _
  exact steady_bind _ _ (steady_mono _ _ (emit_all_steady _) (by decide)) fun _ => steady_pure _

theorem perform_course (s : Sequencer) (first budget : Nat) (plan : Plan) (events : List Event)
    (result : Except Fault Summary) (valid : plan.validate = .ok ())
    (traced : (s.perform first budget plan).Traced events (some result)) : s.Course events result := by
  cases plan with
  | bounded plan =>
      refine measured_course s _ _ _ _ events result (steady_mono _ _ (configure_steady _ _) (by decide)) ?_ ?_
        (bounded_measured s first budget plan events _ traced)
      · exact steady_mono _ _ (polling_steady first budget) (by decide)
      · exact closing_steady s
  | snapshot plan =>
      obtain ⟨positive, bounded⟩ := check_period_bounds _ _ _ valid
      refine measured_course s _ _ _ _ events result (steady_mono _ _ (configure_steady _ _) (by decide)) ?_
        (fun _ => steady_pure _) (snapshots_measured s budget plan events _ traced)
      refine steady_bind _ _ ?_ fun _ => steady_mono _ _ (take_snapshots_steady _ _ _ _ _) (by decide)
      exact steady_mono _ _ (ticker_steady plan.period positive bounded) (by decide)
  | trace plan =>
      obtain ⟨inside, ends⟩ := trace_steady s plan events _ traced
      exact .unstarted Part.capturing events result (.inr rfl) inside ends

theorem run_course (s : Sequencer) (budget : Nat) (plan : Plan) (events : List Event)
    (result : Except Fault Summary) (traced : (s.run budget plan).Traced events (some result)) :
    (s.channels = [] ∧ events = [] ∧ result = .error (.state .noChannels)) ∨
    (s.channels ≠ [] ∧ ∃ fault, plan.validate = .error fault ∧ events = [] ∧ result = .error fault) ∨
    (s.channels ≠ [] ∧ plan.validate = .ok () ∧ ∃ course, s.Course course result ∧
      events = course ++ [.entered .idle]) := by
  rcases run_traced s budget plan events _ traced with
    ⟨empty, rfl, same⟩ | ⟨channeled, fault, invalid, rfl, same⟩ | ⟨first, others, listed, valid, ended⟩
  · exact .inl ⟨empty, rfl, Option.some.inj same⟩
  · exact .inr (.inl ⟨channeled, fault, invalid, rfl, Option.some.inj same⟩)
  · rcases ended with ⟨-, impossible⟩ | ⟨course, outcome, performed, rfl, same⟩
    · cases impossible
    · cases same
      exact .inr (.inr ⟨by simp [listed], valid, course,
        perform_course s first budget plan course result valid performed, rfl⟩)

-- Surroundings that are cancelled once so many calls have been made. Nothing fails but statistics.
def recalled : (r : Request) → Nat → r.Answer × Nat
  | .api (.setValue _ _ _), n | .api (.startRun _ _), n | .api (.stopRun _), n
  | .api (.special _ _), n => (.ok (), n - 1)
  | .api (.runActive _), n => (.ok true, n - 1)
  | .api (.spectrumLength _), n | .api (.traceLength _), n => (.ok 3, n - 1)
  | .api (.spectrum _ _), n | .api (.snapshotSpectrum _ _), n | .api (.trace _ _), n => (.ok #[], n - 1)
  | .api _, n => (.error 7, n - 1)
  | .link _, n => (.error .earlyEnd, n)
  | .now, n => (0, n)
  | .isCancelled, n => (n == 0, n)
  | .await deadline, n => (if n = 0 then none else some deadline, n)
  | .pause _, n | .enter _, n | .emit _, n | .print _, n => ((), n)

end Sequencer
end PulseAnalyzer
