import PulseAnalyzer.Proofs.Program.Cut
import PulseAnalyzer.Proofs.Run.Course

set_option autoImplicit false

namespace PulseAnalyzer

def Event.isStop (e : Event) : Bool := e.part = .stop

def started (events : List Event) : Bool := events.any Event.isStarted

def stopped (events : List Event) : Bool := events.any Event.isStop

def phaseDue (before : List Event) (e : Event) : Phase :=
  if e.isStop || stopped before then .stopping else if started before then .running else .idle

def Acquisition.Call.switches : Acquisition.Call → Bool
  | .startRun _ _ | .stopRun _ => true
  | _ => false

def switchings (events : List Event) : List Acquisition.Call :=
  (calls events).filter Acquisition.Call.switches

namespace Part

def measuring : List Part := [.poll, .snapshot, .snapshotRead]

-- Requests of these parts neither start nor stop a run, nor do they change the phase.
def Inert (parts : List Part) : Prop := .start ∉ parts ∧ .stop ∉ parts ∧ .phase ∉ parts

end Part

structure StopDiscipline (target : Target) (events : List Event) : Prop where
  startedThenStopped : started events →
    ∃ resume, switchings events = [.startRun target resume, .stopRun target]
  unstarted : started events = false →
    switchings events = [] ∨ ∃ resume, switchings events = [.startRun target resume]
  measuredBetween : ∀ before e after, events = before ++ e :: after →
    e.part ∈ Part.measuring → started before ∧ stopped before = false ∧ stopped after
  readAfterStop : ∀ before e after, events = before ++ e :: after →
    e.part = .readOut → stopped before
  stopAfterStart : ∀ before e after, events = before ++ e :: after → e.isStop → started before
  phaseSeen : ∀ before e after call, events = before ++ e :: after →
    e.call? = some call → phaseAfter before = phaseDue before e
  idleAfter : phaseAfter events = .idle

-- The place of the calls of each part of a run. Calls of a session have none.
def PlaceOf (started stopped : Bool) (phase : Phase) (stoppedLater : Bool) : Part → Prop
  | .configuration | .start | .capture | .captureRead => started = false ∧ stopped = false ∧ phase = .idle
  | .poll | .snapshot | .snapshotRead =>
    started = true ∧ stopped = false ∧ phase = .running ∧ stoppedLater = true
  | .stop => started = true ∧ stopped = false ∧ phase = .stopping
  | .readOut => stopped = true ∧ phase = .stopping
  | .session => False
  | .check | .clock | .phase | .emission | .aside => True

def InPlace (past : List Event) (e : Event) (future : List Event) : Prop :=
  PlaceOf (started past) (stopped past) (phaseAfter past) (stopped future) e.part

theorem started_append (a b : List Event) : started (a ++ b) = (started a || started b) :=
  List.any_append

theorem stopped_append (a b : List Event) : stopped (a ++ b) = (stopped a || stopped b) :=
  List.any_append

theorem switchings_append (a b : List Event) : switchings (a ++ b) = switchings a ++ switchings b := by
  rw [switchings, calls, List.filterMap_append, List.filter_append]
  rfl

theorem phase_after_append (a b : List Event) :
    phaseAfter (a ++ b) = b.foldl Event.phase (phaseAfter a) :=
  List.foldl_append

section parts
variable {parts : List Part} {events : List Event} (inside : ∀ e ∈ events, e.part ∈ parts)
include inside

theorem parts_started (fresh : .start ∉ parts) : started events = false := by
  rw [started, List.any_eq_false]
  intro e member
  rw [parts_not_started inside fresh e member]
  exact Bool.false_ne_true

theorem parts_stopped (going : .stop ∉ parts) : stopped events = false := by
  rw [stopped, List.any_eq_false]
  intro e member found
  exact parts_absent inside .stop going e member (of_decide_eq_true found)

theorem parts_switchings (inert : Part.Inert parts) : switchings events = [] := by
  rw [switchings, List.filter_eq_nil_iff]
  intro call member switching
  obtain ⟨e, there, found⟩ := List.mem_filterMap.mp member
  have here := call_part e call found
  cases call with
  | startRun target resume => exact parts_absent inside .start inert.1 e there here
  | stopRun target => exact parts_absent inside .stop inert.2.1 e there here
  | _ => cases switching

theorem parts_in_place (past future : List Event) (inert : Part.Inert parts)
    (places : ∀ part ∈ parts, PlaceOf (started past) (stopped past) (phaseAfter past) (stopped future) part) :
    EachCut InPlace past events future := by
  rintro before e after rfl
  have early : ∀ x ∈ before, x.part ∈ parts := fun x member => inside x (by simp [member])
  have late : ∀ x ∈ after, x.part ∈ parts := fun x member => inside x (by simp [member])
  unfold InPlace
  rw [started_append, stopped_append, phase_after_append, stopped_append,
    parts_started early inert.1, parts_stopped early inert.2.1, parts_phase early inert.2.2,
    parts_stopped late inert.2.1, Bool.or_false, Bool.or_false, Bool.false_or]
  exact places e.part (inside e (by simp))

end parts

theorem inert_leading : Part.Inert Part.leading := by
  simp [Part.Inert, Part.leading]

theorem inert_running : Part.Inert Part.running := by
  simp [Part.Inert, Part.running]

theorem inert_closing : Part.Inert Part.closing := by
  simp [Part.Inert, Part.closing]

theorem inert_capturing : Part.Inert Part.capturing := by
  simp [Part.Inert, Part.capturing]

namespace Sequencer

theorem course_in_place (s : Sequencer) (events : List Event) (result : Except Fault Summary)
    (course : s.Course events result) (future : List Event) : EachCut InPlace [] events future := by
  have leadingPlaces : ∀ later, ∀ part ∈ Part.leading, PlaceOf false false .idle later part := by
    simp [Part.leading, PlaceOf]
  cases course with
  | unstarted parts _ _ early inside =>
      rcases early with rfl | rfl
      · exact parts_in_place inside [] future inert_leading (leadingPlaces _)
      · have capturingPlaces : ∀ later, ∀ part ∈ Part.capturing, PlaceOf false false .idle later part := by
          simp [Part.capturing, PlaceOf]
        exact parts_in_place inside [] future inert_capturing (capturingPlaces _)
  | refused before resume code leads =>
      refine each_cut_append InPlace [] before _ future
        (parts_in_place leads [] _ inert_leading (leadingPlaces _)) ?_
      refine each_cut_singleton InPlace _ _ future ?_
      exact ⟨parts_started leads inert_leading.1, parts_stopped leads inert_leading.2.1,
        parts_phase leads inert_leading.2.2 .idle⟩
  | stopped before during tail resume answer outcome _ leads _ ran _ read =>
      let opening : List Event := [.success (.startRun s.target resume) (), .entered .running]
      have fresh : started before = false := parts_started leads inert_leading.1
      have unstopped : stopped before = false := parts_stopped leads inert_leading.2.1
      have opened : started (before ++ opening) = true := by
        rw [started_append, fresh]
        rfl
      have stillOpen : stopped (before ++ opening) = false := by
        rw [stopped_append, unstopped]
        rfl
      have running : phaseAfter (before ++ opening) = .running := by
        rw [phase_after_append]
        rfl
      refine each_cut_append InPlace [] before _ future
        (parts_in_place leads [] _ inert_leading (leadingPlaces _)) ?_
      refine each_cut_append InPlace before opening _ future ?_ ?_
      · refine each_cut_cons InPlace _ _ _ _ ?_ (each_cut_singleton InPlace _ _ _ trivial)
        exact ⟨fresh, unstopped, parts_phase leads inert_leading.2.2 .idle⟩
      refine each_cut_append InPlace (before ++ opening) during _ future ?_ ?_
      · refine parts_in_place ran _ _ inert_running ?_
        rw [opened, stillOpen, running]
        simp [Part.running, PlaceOf, stopped, Event.isStop, Event.part, Request.part, Acquisition.Call.part]
      have startedYet : started (before ++ opening ++ during ++ [.entered .stopping]) = true := by
        rw [started_append, started_append, opened]
        rfl
      have unstoppedYet : stopped (before ++ opening ++ during ++ [.entered .stopping]) = false := by
        rw [stopped_append, stopped_append, stillOpen, parts_stopped ran inert_running.2.1]
        rfl
      have stopping : phaseAfter (before ++ opening ++ during ++ [.entered .stopping]) = .stopping := by
        rw [phase_after_append]
        rfl
      refine each_cut_cons InPlace _ _ _ future trivial (each_cut_cons InPlace _ _ tail future ?_ ?_)
      · exact ⟨startedYet, unstoppedYet, stopping⟩
      · refine parts_in_place read _ _ inert_closing ?_
        rw [stopped_append, unstoppedYet, phase_after_append, stopping]
        simp [Part.closing, PlaceOf, stopped, Event.isStop, Event.part, Request.part, Acquisition.Call.part,
          Event.phase]

theorem course_switchings (s : Sequencer) (events : List Event) (result : Except Fault Summary)
    (course : s.Course events result) :
    (started events = true ∧
      ∃ resume, switchings events = [.startRun s.target resume, .stopRun s.target]) ∨
    (started events = false ∧
      (switchings events = [] ∨ ∃ resume, switchings events = [.startRun s.target resume])) := by
  cases course with
  | unstarted parts _ _ early inside =>
      have inert : Part.Inert parts := by
        rcases early with rfl | rfl
        · exact inert_leading
        · exact inert_capturing
      exact .inr ⟨parts_started inside inert.1, .inl (parts_switchings inside inert)⟩
  | refused before resume code leads =>
      refine .inr ⟨?_, .inr ⟨resume, ?_⟩⟩
      · rw [started_append, parts_started leads inert_leading.1]
        rfl
      · rw [switchings_append, parts_switchings leads inert_leading]
        rfl
  | stopped before during tail resume answer outcome _ leads _ ran _ read =>
      refine .inl ⟨?_, resume, ?_⟩
      · rw [started_append]
        exact Bool.or_true _
      · have opening : switchings before = [] := parts_switchings leads inert_leading
        have measuring : switchings during = [] := parts_switchings ran inert_running
        have reading : switchings tail = [] := parts_switchings read inert_closing
        calc switchings _
            = switchings before ++ .startRun s.target resume ::
                (switchings (during ++ .entered .stopping :: ⟨.api (.stopRun s.target), answer⟩ :: tail)) := by
              rw [switchings_append]
              rfl
          _ = switchings before ++ .startRun s.target resume ::
                (switchings during ++ .stopRun s.target :: switchings tail) := by
              rw [switchings_append during]
              rfl
          _ = [.startRun s.target resume, .stopRun s.target] := by
              rw [opening, measuring, reading]
              rfl

theorem place_phase_due (before : List Event) (e : Event) (after : List Event)
    (call : Acquisition.Call) (found : e.call? = some call) (place : InPlace before e after) :
    phaseAfter before = phaseDue before e := by
  have named := call_part e call found
  unfold InPlace at place
  unfold phaseDue Event.isStop
  rw [named] at place ⊢
  cases call with
  | setValue | startRun | traceLength | trace =>
      obtain ⟨fresh, unstopped, idle⟩ := place
      simp [fresh, unstopped, idle, Acquisition.Call.part]
  | runActive | snapshotSpectrum | snapshotStatistics =>
      obtain ⟨opened, unstopped, running, -⟩ := place
      simp [opened, unstopped, running, Acquisition.Call.part]
  | special target run =>
      cases run with
      | snapshot clear =>
          obtain ⟨opened, unstopped, running, -⟩ := place
          simp [opened, unstopped, running, Acquisition.Call.part]
      | adcTrace period =>
          obtain ⟨fresh, unstopped, idle⟩ := place
          simp [fresh, unstopped, idle, Acquisition.Call.part]
  | stopRun => simp [place.2.2, Acquisition.Call.part]
  | spectrumLength | spectrum | statistics => simp [place.1, place.2, Acquisition.Call.part]
  | boardInfo | serialNumber | getValue => exact False.elim place

theorem stop_discipline_of_places (target : Target) (events : List Event)
    (places : EachCut InPlace [] events [])
    (switched : (started events = true ∧
        ∃ resume, switchings events = [.startRun target resume, .stopRun target]) ∨
      (started events = false ∧
        (switchings events = [] ∨ ∃ resume, switchings events = [.startRun target resume])))
    (idle : phaseAfter events = .idle) : StopDiscipline target events where
  startedThenStopped := by
    intro opened
    rcases switched with ⟨-, both⟩ | ⟨fresh, -⟩
    · exact both
    · rw [fresh] at opened
      cases opened
  unstarted := by
    intro fresh
    rcases switched with ⟨opened, -⟩ | ⟨-, atMost⟩
    · rw [fresh] at opened
      cases opened
    · exact atMost
  measuredBetween := by
    intro before e after split found
    have place := places before e after split
    unfold InPlace at place
    rw [List.append_nil] at place
    rcases List.mem_cons.mp found with poll | reading
    · rw [poll] at place
      exact ⟨place.1, place.2.1, place.2.2.2⟩
    rcases List.mem_cons.mp reading with snapshot | read
    · rw [snapshot] at place
      exact ⟨place.1, place.2.1, place.2.2.2⟩
    · rw [List.mem_singleton.mp read] at place
      exact ⟨place.1, place.2.1, place.2.2.2⟩
  readAfterStop := by
    intro before e after split found
    have place := places before e after split
    unfold InPlace at place
    rw [found] at place
    exact place.1
  stopAfterStart := by
    intro before e after split found
    have place := places before e after split
    unfold InPlace at place
    rw [of_decide_eq_true found] at place
    exact place.1
  phaseSeen := by
    intro before e after call split found
    exact place_phase_due before e _ call found (places before e after split)
  idleAfter := idle

theorem course_places (s : Sequencer) (events : List Event) (result : Except Fault Summary)
    (course : s.Course events result) : EachCut InPlace [] (events ++ [.entered .idle]) [] := by
  refine each_cut_append InPlace [] events _ [] (course_in_place s events result course _) ?_
  exact each_cut_singleton InPlace _ _ [] trivial

theorem course_stop_discipline (s : Sequencer) (events : List Event) (result : Except Fault Summary)
    (course : s.Course events result) : StopDiscipline s.target (events ++ [.entered .idle]) := by
  refine stop_discipline_of_places s.target _ (course_places s events result course) ?_ ?_
  · have quiet : started [Event.entered .idle] = false := rfl
    have silent : switchings [Event.entered .idle] = [] := rfl
    rw [started_append, switchings_append, quiet, silent, Bool.or_false, List.append_nil]
    exact course_switchings s events result course
  · rw [phase_after_append]
    rfl

theorem nothing_stop_discipline (target : Target) : StopDiscipline target [] :=
  stop_discipline_of_places target [] (each_cut_nil InPlace [] []) (.inr ⟨rfl, .inl rfl⟩) rfl

theorem capturing_call (call : Acquisition.Call) (inside : call.part ∈ Part.capturing) :
    call.part = .capture ∨ call.part = .captureRead := by
  cases call with
  | special target run => cases run <;> simp_all [Acquisition.Call.part, Part.capturing]
  | _ => simp_all [Acquisition.Call.part, Part.capturing]

theorem trace_capture (s : Sequencer) (budget : Nat) (plan : TracePlan) (events : List Event)
    (result : Option (Except Fault Summary)) (traced : (s.run budget (.trace plan)).Traced events result)
    (e : Event) (member : e ∈ events) (call : Acquisition.Call) (found : e.call? = some call) :
    e.part = .capture ∨ e.part = .captureRead := by
  have inside : e.part ∈ Part.capturing := by
    rcases run_traced s budget (.trace plan) events result traced with
      ⟨-, rfl, -⟩ | ⟨-, _, -, rfl, -⟩ | ⟨_, _, -, -, ⟨ran, -⟩ | ⟨before, outcome, ran, rfl, -⟩⟩
    · cases member
    · cases member
    · exact (trace_steady s plan events _ ran).1 e member
    · rcases List.mem_append.mp member with before | last
      · exact (trace_steady s plan _ _ ran).1 e before
      · rw [List.mem_singleton.mp last] at found
        cases found
  rw [call_part e call found] at inside ⊢
  exact capturing_call call inside

theorem run_stop_discipline {σ : Type} (answer : (r : Request) → σ → r.Answer × σ) (start : σ)
    (s : Sequencer) (budget : Nat) (plan : Plan) (result : Except Fault Summary)
    (returned : (Program.run answer (s.run budget plan).run start).1 = some result) :
    let events := Program.history answer (s.run budget plan).run start
    StopDiscipline s.target events ∧
      ∀ p, plan = .trace p → ∀ before e after call, events = before ++ e :: after → e.call? = some call →
        (e.part = .capture ∨ e.part = .captureRead) ∧ phaseAfter before = .idle := by
  intro events
  have traced : (s.run budget plan).Traced events (some result) :=
    returned ▸ Program.history_traced answer (s.run budget plan).run start
  rcases run_course s budget plan events result traced with
    ⟨-, silent, -⟩ | ⟨-, _, -, silent, -⟩ | ⟨-, -, course, coursed, ended⟩
  · rw [silent]
    exact ⟨nothing_stop_discipline s.target, by simp⟩
  · rw [silent]
    exact ⟨nothing_stop_discipline s.target, by simp⟩
  · constructor
    · rw [ended]
      exact course_stop_discipline s course result coursed
    · rintro p rfl before e after call split found
      have part := trace_capture s budget p events _ traced e (by simp [split]) call found
      have place := course_places s course result coursed before e after (ended ▸ split)
      unfold InPlace at place
      refine ⟨part, ?_⟩
      rcases part with capture | read
      · rw [capture] at place
        exact place.2.2
      · rw [read] at place
        exact place.2.2

-- Surroundings in which reading statistics fails, and then stopping too.
def faltering : (r : Request) → Unit → r.Answer × Unit
  | .api (.setValue _ _ _), s | .api (.startRun _ _), s | .api (.special _ _), s => (.ok (), s)
  | .api (.snapshotSpectrum _ _), s => (.ok #[], s)
  | .api (.stopRun _), s => (.error 8, s)
  | .api _, s => (.error 7, s)
  | .link _, s => (.error .earlyEnd, s)
  | .now, s => (0, s)
  | .isCancelled, s => (false, s)
  | .await deadline, s => (some deadline, s)
  | .pause _, s | .enter _, s | .emit _, s | .print _, s => ((), s)

theorem faltering_stop_discipline :
    let s : Sequencer := ⟨[0, 1], .channel 1⟩
    let run := (s.run 2 (.snapshot .standard)).run
    (Program.run faltering run ()).1 = some (.error (.device "snapshot_statistics" 7)) ∧
      started (Program.history faltering run ()) ∧
      StopDiscipline (.channel 1) (Program.history faltering run ()) :=
  ⟨rfl, rfl, (run_stop_discipline faltering () ⟨[0, 1], .channel 1⟩ 2 (.snapshot .standard) _ rfl).1⟩

end Sequencer
end PulseAnalyzer
