import PulseAnalyzer.Proofs.Program.History
import PulseAnalyzer.Run.Sequencer

set_option autoImplicit false

namespace PulseAnalyzer

inductive Part where
  | configuration
  | start
  | poll
  | snapshot
  | snapshotRead
  | stop
  | readOut
  | capture
  | captureRead
  | session
  | check
  | clock
  | phase
  | emission
  | aside
deriving DecidableEq, Repr

def Acquisition.Call.part : Acquisition.Call → Part
  | .setValue _ _ _ => .configuration
  | .startRun _ _ => .start
  | .runActive _ => .poll
  | .special _ (.snapshot _) => .snapshot
  | .snapshotSpectrum _ _ | .snapshotStatistics _ => .snapshotRead
  | .stopRun _ => .stop
  | .spectrumLength _ | .spectrum _ _ | .statistics _ => .readOut
  | .special _ (.adcTrace _) => .capture
  | .traceLength _ | .trace _ _ => .captureRead
  | .boardInfo _ | .serialNumber _ | .getValue _ _ => .session

def Request.part : Request → Part
  | .api call => call.part
  | .isCancelled => .check
  | .now | .await _ => .clock
  | .enter _ => .phase
  | .emit _ => .emission
  | .link _ | .pause _ | .print _ => .aside

namespace Event

abbrev success (call : Acquisition.Call) (value : call.Value) : Event := ⟨.api call, .ok value⟩
abbrev failure (call : Acquisition.Call) (code : Int) : Event := ⟨.api call, .error code⟩

def call? : Event → Option Acquisition.Call
  | ⟨.api call, _⟩ => some call
  | _ => none

def part (e : Event) : Part := e.request.part

def fault? : Event → Option Fault
  | ⟨.api call, .error code⟩ => some (.device call.title code)
  | _ => none

def isStarted : Event → Bool
  | ⟨.api (.startRun _ _), .ok _⟩ => true
  | _ => false

def phase (before : Phase) : Event → Phase
  | ⟨.enter phase, _⟩ => phase
  | _ => before

def measurement? : Event → Option Measurement
  | ⟨.emit m, _⟩ => some m
  | _ => none

end Event

def calls (events : List Event) : List Acquisition.Call := events.filterMap Event.call?

def emitted (events : List Event) : List Measurement := events.filterMap Event.measurement?

def phaseAfter (events : List Event) : Phase := events.foldl Event.phase .idle

def Clean (events : List Event) : Prop := ∀ e ∈ events, e.fault? = none

-- The failed call is the last and gives the fault; without a fault nothing failed.
def FailStop {α : Type} (events : List Event) : Option (Except Fault α) → Prop
  | some (.error fault) =>
    ∃ past last, events = past ++ [last] ∧ last.fault? = some fault ∧ Clean past
  | _ => Clean events

-- The clock was read at least one longest period before the last point in time.
def ClockInRange (events : List Event) : Prop :=
  ∀ now, (⟨.now, now⟩ : Event) ∈ events → now + maxPeriod.nanos ≤ Instant.last

theorem clean_nil : Clean [] := by
  intro e member
  cases member

theorem clean_append (a b : List Event) : Clean (a ++ b) ↔ Clean a ∧ Clean b :=
  List.forall_mem_append

theorem clock_in_range_append (a b : List Event) (inRange : ClockInRange (a ++ b)) :
    ClockInRange a ∧ ClockInRange b :=
  ⟨fun now member => inRange now (List.mem_append_left b member),
    fun now member => inRange now (List.mem_append_right a member)⟩

theorem fail_stop_append {α : Type} (a b : List Event) (result : Option (Except Fault α))
    (clean : Clean a) (rest : FailStop b result) : FailStop (a ++ b) result := by
  cases result with
  | none => exact (clean_append a b).mpr ⟨clean, rest⟩
  | some outcome =>
      cases outcome with
      | ok value => exact (clean_append a b).mpr ⟨clean, rest⟩
      | error fault =>
          obtain ⟨past, last, rfl, failed, before⟩ := rest
          exact ⟨a ++ past, last, (List.append_assoc a past [last]).symm, failed,
            (clean_append a past).mpr ⟨clean, before⟩⟩

-- When nothing before the first cut is as it is after the second, the second is not the earlier one.
theorem cut_no_earlier {α : Type} (P : α → Prop) (a b c d : List α) (x y : α) (early : ∀ z ∈ a, ¬ P z) (found : P y)
    (split : a ++ x :: b = c ++ y :: d) : (a = c ∧ x = y ∧ b = d) ∨ ∃ left, c = a ++ x :: left ∧ b = left ++ y :: d := by
  rcases List.append_eq_append_iff.mp split with ⟨left, rfl, same⟩ | ⟨left, rfl, same⟩
  · cases left with
    | nil =>
        obtain ⟨rfl, rfl⟩ := List.cons.inj same
        exact .inl ⟨(List.append_nil a).symm, rfl, rfl⟩
    | cons z left =>
        obtain ⟨rfl, rfl⟩ := List.cons.inj same
        exact .inr ⟨left, rfl, rfl⟩
  · cases left with
    | nil =>
        obtain ⟨rfl, rfl⟩ := List.cons.inj same
        exact .inl ⟨List.append_nil c, rfl, rfl⟩
    | cons z left =>
        obtain ⟨rfl, rfl⟩ := List.cons.inj same
        exact absurd found (early y (by simp))

theorem call_part (e : Event) (call : Acquisition.Call) (found : e.call? = some call) : e.part = call.part := by
  obtain ⟨request, answer⟩ := e
  cases request with
  | api other =>
      cases found
      rfl
  | _ => cases found

section parts
variable {parts : List Part} {events : List Event} (inside : ∀ e ∈ events, e.part ∈ parts)
include inside

theorem parts_phase (still : .phase ∉ parts) (phase : Phase) : events.foldl Event.phase phase = phase := by
  induction events generalizing phase with
  | nil => rfl
  | cons e rest ih =>
      have same : e.phase phase = phase := by
        obtain ⟨request, answer⟩ := e
        cases request with
        | enter next => exact absurd (inside _ List.mem_cons_self) still
        | _ => rfl
      rw [List.foldl_cons, same]
      exact ih (fun x member => inside x (List.mem_cons_of_mem e member)) phase

theorem parts_absent (part : Part) (absent : part ∉ parts) : ∀ e ∈ events, e.part ≠ part := by
  intro e member same
  exact absent (same ▸ inside e member)

theorem parts_not_started (fresh : .start ∉ parts) : ∀ e ∈ events, e.isStarted = false := by
  intro e member
  have other := parts_absent inside .start fresh e member
  unfold Event.isStarted
  split
  · exact absurd rfl other
  · rfl

end parts
end PulseAnalyzer
