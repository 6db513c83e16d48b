import PulseAnalyzer.Proofs.Run.Spent

set_option autoImplicit false

namespace PulseAnalyzer

def firstFault (events : List Event) : Option Fault := events.findSome? Event.fault?

def callsDue (target : Target) (before : List Event) (e : Event) : List Acquisition.Call :=
  if started before && !stopped (before ++ [e]) then [.stopRun target] else []

-- What a run tells and still calls. One that came to no result tells no fault.
structure FirstFaultRules {α : Type} (target : Target) (events : List Event)
    (result : Option (Except Fault α)) : Prop where
  verdict : ∀ fault, result = some (.error fault) ↔ firstFault events = some fault
  remainder : ∀ before e after, events = before ++ e :: after → Clean before → e.fault?.isSome →
    calls after = callsDue target before e

theorem first_fault_clean (events : List Event) (clean : Clean events) : firstFault events = none :=
  List.findSome?_eq_none_iff.mpr clean

theorem first_fault_at (past rest : List Event) (last : Event) (fault : Fault) (clean : Clean past)
    (failed : last.fault? = some fault) : firstFault (past ++ last :: rest) = some fault := by
  have quiet : past.findSome? Event.fault? = none := first_fault_clean past clean
  rw [firstFault, List.findSome?_append, quiet, List.findSome?_cons, failed]
  rfl

-- Two cuts at a failure with nothing failed before them are the same cut.
theorem first_failure_unique (past rest before after : List Event) (last e : Event)
    (clean : Clean past) (failed : last.fault?.isSome) (early : Clean before) (fails : e.fault?.isSome)
    (split : past ++ last :: rest = before ++ e :: after) : past = before ∧ last = e ∧ rest = after := by
  have unfailed : ∀ x ∈ past, ¬ x.fault?.isSome := fun x member => by simp [clean x member]
  rcases cut_no_earlier (·.fault?.isSome) past rest before after last e unfailed fails split with same | ⟨left, rfl, -⟩
  · exact same
  · rw [early last (by simp)] at failed
    cases failed

theorem rules_of_clean {α : Type} (target : Target) (events : List Event) (result : Option (Except Fault α))
    (clean : Clean events) (faultless : ∀ fault, result ≠ some (.error fault)) :
    FirstFaultRules target events result where
  verdict := by
    intro fault
    rw [first_fault_clean events clean]
    constructor
    · intro told
      exact absurd told (faultless fault)
    · intro found
      cases found
  remainder := by
    rintro before e after rfl - fails
    rw [clean e (by simp)] at fails
    cases fails

theorem rules_of_failure {α : Type} (target : Target) (past rest : List Event) (last : Event)
    (fault : Fault) (clean : Clean past) (failed : last.fault? = some fault)
    (left : calls rest = callsDue target past last) :
    FirstFaultRules target (past ++ last :: rest) (some (.error fault) : Option (Except Fault α)) where
  verdict := by
    intro other
    rw [first_fault_at past rest last fault clean failed]
    constructor
    · intro same
      cases same
      rfl
    · intro same
      cases same
      rfl
  remainder := by
    intro before e after split early fails
    have known : last.fault?.isSome := by
      rw [failed]
      rfl
    obtain ⟨rfl, rfl, rfl⟩ := first_failure_unique past rest before after last e clean known early fails split
    exact left

theorem rules_of_fail_stop {α : Type} (target : Target) (past events : List Event)
    (result : Except Fault α) (clean : Clean past) (stops : FailStop events (some result))
    (settled : ∀ before e, events = before ++ [e] → callsDue target (past ++ before) e = []) :
    FirstFaultRules target (past ++ events) (some result) := by
  cases result with
  | ok value => exact rules_of_clean target _ _ ((clean_append past events).mpr ⟨clean, stops⟩) nofun
  | error fault =>
      obtain ⟨before, last, rfl, failed, early⟩ := stops
      rw [← List.append_assoc]
      exact rules_of_failure target (past ++ before) [] last fault
        ((clean_append past before).mpr ⟨clean, early⟩) failed (settled before last rfl).symm

theorem first_fault_device (events : List Event) (fault : Fault) (found : firstFault events = some fault) :
    ∃ operation code, fault = .device operation code := by
  obtain ⟨e, -, failed⟩ := List.exists_of_findSome?_eq_some found
  unfold Event.fault? at failed
  split at failed
  · cases failed
    exact ⟨_, _, rfl⟩
  · cases failed

theorem rules_before_idle {α : Type} (target : Target) (events : List Event) (result : Option (Except Fault α))
    (rules : FirstFaultRules target events result) :
    FirstFaultRules target (events ++ [.entered .idle]) result where
  verdict := by
    intro fault
    have silent : [Event.entered .idle].findSome? Event.fault? = none := rfl
    rw [rules.verdict fault, firstFault, firstFault, List.findSome?_append, silent, Option.or_none]
  remainder := by
    intro before e after split early fails
    rcases List.append_eq_append_iff.mp split with ⟨left, rfl, same⟩ | ⟨left, rfl, same⟩
    · cases left with
      | nil =>
          obtain ⟨rfl, -⟩ := List.cons.inj same
          cases fails
      | cons x left => simp at same
    · cases left with
      | nil =>
          obtain ⟨rfl, -⟩ := List.cons.inj same
          cases fails
      | cons x left =>
          obtain ⟨rfl, rfl⟩ := List.cons.inj same
          have found := rules.remainder before e left rfl early fails
          calc calls (left ++ [Event.entered .idle])
              = calls left ++ calls [Event.entered .idle] := List.filterMap_append
            _ = calls left := List.append_nil (calls left)
            _ = callsDue target before e := found

theorem calls_due_unstarted (target : Target) (before : List Event) (e : Event)
    (fresh : started before = false) : callsDue target before e = [] := by
  rw [callsDue, fresh]
  rfl

theorem calls_due_stopped (target : Target) (before : List Event) (e : Event)
    (ended : stopped (before ++ [e])) : callsDue target before e = [] := by
  rw [callsDue, ended, Bool.not_true, Bool.and_false]
  rfl

theorem calls_due_running (target : Target) (before : List Event) (e : Event)
    (opened : started before) (going : stopped (before ++ [e]) = false) :
    callsDue target before e = [.stopRun target] := by
  rw [callsDue, opened, going]
  rfl

theorem validate_range (plan : Plan) (fault : Fault) (rejected : plan.validate = .error fault) :
    ∃ cause, fault = .range cause := by
  cases plan with
  | bounded plan =>
      unfold Plan.validate BoundedPlan.validate at rejected
      dsimp only at rejected
      split at rejected
      · cases rejected
        exact ⟨_, rfl⟩
      · cases rejected
  | snapshot plan =>
      unfold Plan.validate SnapshotPlan.validate checkPeriod at rejected
      dsimp only at rejected
      split at rejected
      · cases rejected
        exact ⟨_, rfl⟩
      · cases rejected
  | trace plan =>
      unfold Plan.validate TracePlan.validate at rejected
      dsimp only at rejected
      split at rejected
      · cases rejected
      · cases rejected
        exact ⟨_, rfl⟩

namespace Sequencer

theorem failing_body_rules {α : Type} (s : Sequencer) (opening past : List Event) (failing : Event) (fault : Fault)
    (answer : Except Int Unit) (begun : started opening) (unstopped : stopped opening = false) (clean : Clean opening)
    (ran : ∀ e ∈ past ++ [failing], e.part ∈ Part.running) (failed : failing.fault? = some fault) (quiet : Clean past) :
    FirstFaultRules s.target (opening ++ past ++ failing :: s.stopEvents answer) (some (.error fault) : Option (Except Fault α)) := by
  have going : stopped (opening ++ past ++ [failing]) = false := by
    rw [List.append_assoc, stopped_append, unstopped, parts_stopped ran inert_running.2.1]
    rfl
  have begunYet : started (opening ++ past) = true := by
    rw [started_append, begun]
    rfl
  exact rules_of_failure s.target (opening ++ past) (s.stopEvents answer) failing fault
    ((clean_append opening past).mpr ⟨clean, quiet⟩) failed (calls_due_running s.target _ failing begunYet going).symm

theorem failing_stop_rules {α : Type} (s : Sequencer) (past : List Event) (code : Int) (clean : Clean past) :
    FirstFaultRules s.target (past ++ s.stopEvents (.error code))
      (some (.error (.device "stop_run" code)) : Option (Except Fault α)) := by
  have ending : Clean (past ++ [.entered .stopping]) :=
    (clean_append past _).mpr ⟨clean, by simp [Clean, Event.fault?]⟩
  have halted : stopped (past ++ [.entered .stopping] ++ [.failure (.stopRun s.target) code]) = true := by
    rw [stopped_append]
    exact Bool.or_true _
  rw [stopEvents, List.append_cons]
  exact rules_of_failure s.target _ [] _ _ ending rfl (calls_due_stopped s.target _ _ halted).symm

theorem closing_rules {α : Type} (s : Sequencer) (past tail : List Event) (result : Except Fault α) (clean : Clean past)
    (ends : FailStop tail (some result)) :
    FirstFaultRules s.target (past ++ s.stopEvents (.ok ()) ++ tail) (some result) := by
  have finished : Clean (past ++ s.stopEvents (.ok ())) :=
    (clean_append past _).mpr ⟨clean, by simp [stopEvents, Clean, Event.fault?]⟩
  refine rules_of_fail_stop s.target _ tail result finished ends ?_
  rintro before e rfl
  refine calls_due_stopped s.target _ e ?_
  rw [stopped_append, stopped_append, stopped_append]
  simp [stopEvents, stopped, Event.isStop, Event.part, Request.part, Acquisition.Call.part]

theorem started_run_rules (s : Sequencer) (opening during tail : List Event) (answer : Except Int Unit)
    (outcome : Except Fault Unit) (result : Except Fault Summary) (begun : started opening)
    (unstopped : stopped opening = false) (clean : Clean opening) (ran : ∀ e ∈ during, e.part ∈ Part.running)
    (ends : FailStop during (some outcome))
    (last : match settled outcome answer with
      | .error fault => tail = [] ∧ result = .error fault
      | .ok _ => FailStop tail (some result)) :
    FirstFaultRules s.target (opening ++ during ++ s.stopEvents answer ++ tail) (some result) := by
  cases outcome with
  | error fault =>
      obtain ⟨rfl, rfl⟩ := last
      obtain ⟨past, failing, rfl, failed, quiet⟩ := ends
      have rules := failing_body_rules (α := Summary) s opening past failing fault answer begun unstopped clean ran failed quiet
      simpa using rules
  | ok value =>
      have measured := (clean_append opening during).mpr ⟨clean, ends⟩
      cases answer with
      | error code =>
          obtain ⟨rfl, rfl⟩ := last
          rw [List.append_nil]
          exact failing_stop_rules s _ code measured
      | ok _ => exact closing_rules s _ tail result measured last

theorem course_first_fault (s : Sequencer) (events : List Event) (result : Except Fault Summary)
    (course : s.Course events result) (inRange : ClockInRange events) :
    FirstFaultRules s.target events (some result) := by
  cases course with
  | unstarted parts _ _ early inside ends =>
      have fresh : .start ∉ parts := by
        rcases early with rfl | rfl
        · exact inert_leading.1
        · exact inert_capturing.1
      refine rules_of_fail_stop s.target [] events result clean_nil (ends inRange) ?_
      rintro before e rfl
      refine calls_due_unstarted s.target before e (parts_started ?_ fresh)
      exact fun x member => inside x (List.mem_append_left _ member)
  | refused before resume code leads clean =>
      have early := (clock_in_range_append before _ inRange).1
      refine rules_of_failure s.target before [] _ _ (clean early) rfl ?_
      exact (calls_due_unstarted s.target before _ (parts_started leads inert_leading.1)).symm
  | stopped before during tail resume answer outcome _ leads clean ran ends read last =>
      let start : List Event := [.success (.startRun s.target resume) (), .entered .running]
      obtain ⟨earlyRange, laterRange⟩ := clock_in_range_append before _ inRange
      have measuredRange := (clock_in_range_append start _ laterRange).2
      obtain ⟨duringRange, closingRange⟩ := clock_in_range_append during _ measuredRange
      have tailRange := (clock_in_range_append (s.stopEvents answer) tail closingRange).2
      have begun : started (before ++ start) = true := by
        rw [started_append]
        exact Bool.or_true _
      have unstopped : stopped (before ++ start) = false := by
        rw [stopped_append, parts_stopped leads inert_leading.2.1]
        rfl
      have opened : Clean (before ++ start) :=
        (clean_append before start).mpr ⟨clean earlyRange, by simp [start, Clean, Event.fault?]⟩
      have rules := started_run_rules s (before ++ start) during tail answer outcome result begun unstopped opened ran
        (ends duringRange) (by
          revert last
          cases settled outcome answer with
          | error fault => exact id
          | ok value => exact fun last => last tailRange)
      simpa [start, stopEvents] using rules

theorem valid_run_rules (s : Sequencer) (budget : Nat) (plan : Plan) (events : List Event)
    (result : Option (Except Fault Summary)) (traced : (s.run budget plan).Traced events result)
    (channeled : s.channels ≠ []) (valid : plan.validate = .ok ()) (inRange : ClockInRange events) :
    FirstFaultRules s.target events result := by
  cases result with
  | none => exact rules_of_clean s.target events none (run_spent s budget plan events traced inRange).clean nofun
  | some outcome =>
      rcases run_course s budget plan events outcome traced with
        ⟨empty, -⟩ | ⟨-, fault, rejected, -⟩ | ⟨-, -, course, coursed, rfl⟩
      · exact absurd empty channeled
      · rw [valid] at rejected
        cases rejected
      · have courseRange := (clock_in_range_append course _ inRange).1
        exact rules_before_idle s.target course _ (course_first_fault s course outcome coursed courseRange)

theorem run_first_fault {σ : Type} (answer : (r : Request) → σ → r.Answer × σ) (start : σ)
    (s : Sequencer) (budget : Nat) (plan : Plan)
    (inRange : ClockInRange (Program.history answer (s.run budget plan).run start)) :
    let events := Program.history answer (s.run budget plan).run start
    let result := (Program.run answer (s.run budget plan).run start).1
    (s.channels = [] → events = [] ∧ result = some (.error (.state .noChannels))) ∧
    (s.channels ≠ [] → ∀ fault, plan.validate = .error fault →
      events = [] ∧ result = some (.error fault) ∧ ∃ cause, fault = .range cause) ∧
    (s.channels ≠ [] → plan.validate = .ok () → FirstFaultRules s.target events result) ∧
    (events ≠ [] → ∀ fault, result = some (.error fault) → ∃ operation code, fault = .device operation code) ∧
    (result = none → Exhausted budget events) := by
  intro events result
  have traced : (s.run budget plan).Traced events result :=
    Program.history_traced answer (s.run budget plan).run start
  have unended : result = none → Exhausted budget events := by
    intro resultless
    rw [resultless] at traced
    exact run_spent s budget plan events traced inRange
  rcases run_traced s budget plan events result traced with
    ⟨empty, silent, ended⟩ | ⟨channeled, fault, rejected, silent, ended⟩ | ⟨first, others, listed, valid, -⟩
  · exact ⟨fun _ => ⟨silent, ended⟩, fun channeled => absurd empty channeled, fun channeled => absurd empty channeled,
      fun called => absurd silent called, unended⟩
  · refine ⟨fun empty => absurd empty channeled, fun _ other reason => ?_, fun _ valid => ?_,
      fun called => absurd silent called, unended⟩
    · rw [rejected] at reason
      cases reason
      exact ⟨silent, ended, validate_range plan fault rejected⟩
    · rw [rejected] at valid
      cases valid
  · have channeled : s.channels ≠ [] := by simp [listed]
    have rules := valid_run_rules s budget plan events result traced channeled valid inRange
    refine ⟨fun empty => absurd empty channeled, fun _ fault rejected => ?_, fun _ _ => rules, fun _ fault told => ?_, unended⟩
    · rw [rejected] at valid
      cases valid
    · exact first_fault_device events fault ((rules.verdict fault).mp told)

theorem clock_in_range_of_answers {σ α : Type} (answer : (r : Request) → σ → r.Answer × σ) (start : σ)
    (p : Program α) (early : ∀ state, (answer .now state).1 + maxPeriod.nanos ≤ Instant.last) :
    ClockInRange (Program.history answer p start) := by
  intro now member
  obtain ⟨state, same⟩ := Program.history_answered answer p start _ member
  have told : now = (answer .now state).1 := same
  rw [told]
  exact early state

-- The fault of the statistics is told, the one of the stop is not.
theorem faltering_first_fault :
    let s : Sequencer := ⟨[0, 1], .channel 1⟩
    let run := (s.run 2 (.snapshot .standard)).run
    (Program.run faltering run ()).1 = some (.error (.device "snapshot_statistics" 7)) ∧
      ClockInRange (Program.history faltering run ()) ∧
      FirstFaultRules (.channel 1) (Program.history faltering run ()) (Program.run faltering run ()).1 := by
  have inRange := clock_in_range_of_answers faltering ()
    (Sequencer.run ⟨[0, 1], .channel 1⟩ 2 (.snapshot .standard)).run fun _ =>
      (by decide : (0 : Instant) + maxPeriod.nanos ≤ Instant.last)
  have rules := run_first_fault faltering () ⟨[0, 1], .channel 1⟩ 2 (.snapshot .standard) inRange
  exact ⟨rfl, inRange, rules.2.2.1 (by decide) rfl⟩

end Sequencer
end PulseAnalyzer
