import PulseAnalyzer.Proofs.Run.Steady

set_option autoImplicit false

namespace PulseAnalyzer

abbrev Event.entered (phase : Phase) : Event := ⟨.enter phase, ()⟩
abbrev Event.checked (cancelled : Bool) : Event := ⟨.isCancelled, cancelled⟩

namespace Sequencer
open Procedure

def startEvents (s : Sequencer) (resume : Bool) : List Event :=
  [.checked false, .success (.startRun s.target resume) (), .entered .running]

def stopEvents (s : Sequencer) (answer : Except Int Unit) : List Event :=
  [.entered .stopping, ⟨.api (.stopRun s.target), answer⟩]

-- What the end of a run's body and the answer to its stop come to.
def settled {α : Type} (outcome : Except Fault α) (answer : Except Int Unit) : Except Fault α :=
  withCleanup outcome (checkStatus "stop_run" answer)

inductive Measured {α : Type} (s : Sequencer) (lead : Procedure Unit) (resume : Bool)
    (body : Procedure α) (rest : α → Procedure Summary) :
    List Event → Option (Except Fault Summary) → Prop where
  | unled (before : List Event) (led : lead.Traced before none) :
      Measured s lead resume body rest before none
  | misled (before : List Event) (fault : Fault) (led : lead.Traced before (some (.error fault))) :
      Measured s lead resume body rest before (some (.error fault))
  | cancelled (before : List Event) (led : lead.Traced before (some (.ok ()))) :
      Measured s lead resume body rest (before ++ [.checked true]) (some (.ok ⟨.cancelled, 0⟩))
  | refused (before : List Event) (code : Int) (led : lead.Traced before (some (.ok ()))) :
      Measured s lead resume body rest
        (before ++ [.checked false, .failure (.startRun s.target resume) code])
        (some (.error (.device "start_run" code)))
  | spent (before during : List Event) (led : lead.Traced before (some (.ok ())))
      (ran : body.Traced during none) :
      Measured s lead resume body rest (before ++ s.startEvents resume ++ during) none
  | faulty (before during : List Event) (outcome : Except Fault α) (answer : Except Int Unit)
      (fault : Fault) (led : lead.Traced before (some (.ok ())))
      (ran : body.Traced during (some outcome)) (fails : settled outcome answer = .error fault) :
      Measured s lead resume body rest
        (before ++ s.startEvents resume ++ during ++ s.stopEvents answer) (some (.error fault))
  | stopped (before during tail : List Event) (outcome : Except Fault α) (answer : Except Int Unit)
      (value : α) (result : Option (Except Fault Summary)) (led : lead.Traced before (some (.ok ())))
      (ran : body.Traced during (some outcome)) (fine : settled outcome answer = .ok value)
      (read : (rest value).Traced tail result) :
      Measured s lead resume body rest
        (before ++ s.startEvents resume ++ during ++ s.stopEvents answer ++ tail) result

theorem begin_traced (s : Sequencer) (resume : Bool) (events : List Event)
    (result : Option (Except Fault Unit)) (traced : (s.begin resume).Traced events result) :
    (events = [.success (.startRun s.target resume) (), .entered .running] ∧
      result = some (.ok ())) ∨
    (∃ code, events = [.failure (.startRun s.target resume) code] ∧
      result = some (.error (.device "start_run" code))) := by
  rcases (traced_api_bind _ _ events result).mp traced with ⟨_, tail, entered, rfl⟩ | failed
  · obtain ⟨_, rfl, rfl⟩ := (traced_ask _ tail _).mp entered
    exact .inl ⟨rfl, rfl⟩
  · exact .inr failed

theorem finish_traced (s : Sequencer) (events : List Event) (result : Option (Except Fault Unit))
    (traced : s.finish.Traced events result) :
    ∃ answer, events = s.stopEvents answer ∧ result = some (checkStatus "stop_run" answer) := by
  obtain ⟨_, called, asked, rfl⟩ := (traced_ask_bind _ _ events result).mp traced
  obtain ⟨answer, rfl, rfl⟩ := (traced_api _ called _).mp asked
  exact ⟨answer, rfl, rfl⟩

theorem between_traced {α : Type} (s : Sequencer) (resume : Bool) (body : Procedure α)
    (events : List Event) (result : Option (Except Fault α))
    (traced : (s.between resume body).Traced events result) :
    (∃ code, events = [.failure (.startRun s.target resume) code] ∧
      result = some (.error (.device "start_run" code))) ∨
    (∃ during, body.Traced during none ∧ result = none ∧
      events = .success (.startRun s.target resume) () :: .entered .running :: during) ∨
    (∃ during outcome answer, body.Traced during (some outcome) ∧
      result = some (settled outcome answer) ∧
      events = .success (.startRun s.target resume) () :: .entered .running ::
        (during ++ s.stopEvents answer)) := by
  rcases (traced_bind _ _ events result).mp traced with
    ⟨_, first, rest, begun, after, rfl⟩ | ⟨fault, failed, rfl⟩ | ⟨stuck, rfl⟩
  · rcases begin_traced s resume first _ begun with ⟨rfl, -⟩ | ⟨_, -, impossible⟩
    · rcases (traced_lift_bind _ _ rest result).mp after with
        ⟨outcome, during, ending, ran, ended, rfl⟩ | ⟨ran, rfl⟩
      · rcases (traced_lift_bind _ _ ending result).mp ended with
          ⟨_, stopping, last, finished, left, rfl⟩ | ⟨finished, -⟩
        · obtain ⟨answer, rfl, same⟩ := finish_traced s stopping _ finished
          obtain ⟨rfl, rfl⟩ := (traced_of_except _ last result).mp left
          cases same
          exact .inr (.inr ⟨during, outcome, answer, ran, rfl, by simp⟩)
        · obtain ⟨_, -, impossible⟩ := finish_traced s ending _ finished
          cases impossible
      · exact .inr (.inl ⟨rest, ran, rfl, rfl⟩)
    · cases impossible
  · rcases begin_traced s resume events _ failed with ⟨-, impossible⟩ | ⟨code, rfl, same⟩
    · cases impossible
    · cases same
      exact .inl ⟨code, rfl, rfl⟩
  · rcases begin_traced s resume events _ stuck with ⟨-, impossible⟩ | ⟨_, -, impossible⟩
    · cases impossible
    · cases impossible

-- Runs to a preset and runs by snapshots are both of this form.
theorem measured_traced {α : Type} (s : Sequencer) (lead : Procedure Unit) (resume : Bool)
    (body : Procedure α) (rest : α → Procedure Summary) (events : List Event)
    (result : Option (Except Fault Summary))
    (traced : Traced (do
      lead
      if ← ask .isCancelled then return ⟨.cancelled, 0⟩
      let value ← s.between resume body
      rest value) events result) :
    Measured s lead resume body rest events result := by
  rcases (traced_bind _ _ events result).mp traced with
    ⟨_, before, after, led, begun, rfl⟩ | ⟨fault, failed, rfl⟩ | ⟨stuck, rfl⟩
  · obtain ⟨cancelled, following, checked, rfl⟩ := (traced_ask_bind .isCancelled _ after result).mp begun
    cases cancelled with
    | true =>
        obtain ⟨rfl, rfl⟩ := (traced_pure _ following result).mp checked
        exact .cancelled before led
    | false =>
        rcases (traced_bind _ _ following result).mp checked with
          ⟨value, first, tail, measured, read, rfl⟩ | ⟨fault, failed, rfl⟩ | ⟨stuck, rfl⟩
        · rcases between_traced s resume body first _ measured with
            ⟨_, -, impossible⟩ | ⟨_, -, impossible, -⟩ | ⟨during, outcome, answer, ran, fine, rfl⟩
          · cases impossible
          · cases impossible
          · have same := Option.some.inj fine
            simpa [startEvents] using Measured.stopped before during tail outcome answer value result
              led ran same.symm read
        · rcases between_traced s resume body following _ failed with
            ⟨code, rfl, same⟩ | ⟨_, -, impossible, -⟩ | ⟨during, outcome, answer, ran, fails, rfl⟩
          · cases same
            exact .refused before code led
          · cases impossible
          · have same := Option.some.inj fails
            simpa [startEvents] using Measured.faulty before during outcome answer fault led ran same.symm
        · rcases between_traced s resume body following _ stuck with
            ⟨_, -, impossible⟩ | ⟨during, ran, -, rfl⟩ | ⟨_, _, _, -, impossible, -⟩
          · cases impossible
          · simpa [startEvents] using Measured.spent before during led ran
          · cases impossible
  · exact .misled events fault failed
  · exact .unled events stuck

theorem bounded_measured (s : Sequencer) (first budget : Nat) (plan : BoundedPlan)
    (events : List Event) (result : Option (Except Fault Summary))
    (traced : (s.bounded first budget plan).Traced events result) :
    Measured s
      (configure [("preset_type", plan.presetType.code), ("preset_value", plan.presetValue)] s.channels)
      plan.resume (do poll first budget (← ticker pollInterval))
      (fun outcome => do
        let measurements ← readSpectra s.channels
        emitAll measurements
        return ⟨outcome, measurements.length⟩)
      events result :=
  measured_traced s _ _ _ _ events result traced

theorem snapshots_measured (s : Sequencer) (budget : Nat) (plan : SnapshotPlan)
    (events : List Event) (result : Option (Except Fault Summary))
    (traced : (s.snapshots budget plan).Traced events result) :
    Measured s
      (configure [("number_mca_channels", Float.ofNat snapshotLength), ("preset_type", 0.0)] s.channels)
      false (do s.takeSnapshots plan.clear budget (← ticker plan.period) 0)
      (fun records => return ⟨.cancelled, records⟩)
      events result :=
  measured_traced s _ _ _ _ events result traced

theorem run_traced (s : Sequencer) (budget : Nat) (plan : Plan) (events : List Event)
    (result : Option (Except Fault Summary)) (traced : (s.run budget plan).Traced events result) :
    (s.channels = [] ∧ events = [] ∧ result = some (.error (.state .noChannels))) ∨
    (s.channels ≠ [] ∧ ∃ fault, plan.validate = .error fault ∧ events = [] ∧
      result = some (.error fault)) ∨
    (∃ first others, s.channels = first :: others ∧ plan.validate = .ok () ∧
      ((s.perform first budget plan).Traced events none ∧ result = none ∨
        ∃ before outcome, (s.perform first budget plan).Traced before (some outcome) ∧
          events = before ++ [.entered .idle] ∧ result = some outcome)) := by
  unfold run at traced
  split at traced
  · rename_i empty
    exact .inl ⟨empty, (traced_of_except _ events result).mp traced⟩
  · rename_i first others listed
    refine .inr ?_
    rcases (traced_bind _ _ events result).mp traced with
      ⟨_, begun, rest, validated, performed, rfl⟩ | ⟨fault, rejected, rfl⟩ | ⟨stuck, rfl⟩
    · obtain ⟨rfl, accepted⟩ := (traced_of_except _ begun _).mp validated
      refine .inr ⟨first, others, listed, (Option.some.inj accepted).symm, ?_⟩
      rcases (traced_lift_bind _ _ rest result).mp performed with
        ⟨outcome, before, ending, ran, ended, rfl⟩ | spent
      · obtain ⟨_, last, left, rfl⟩ := (traced_ask_bind _ _ ending result).mp ended
        obtain ⟨rfl, rfl⟩ := (traced_of_except _ last result).mp left
        exact .inr ⟨before, outcome, ran, rfl, rfl⟩
      · exact .inl spent
    · obtain ⟨rfl, same⟩ := (traced_of_except _ events _).mp rejected
      exact .inl ⟨by simp [listed], fault, (Option.some.inj same).symm, rfl, rfl⟩
    · obtain ⟨-, impossible⟩ := (traced_of_except _ events _).mp stuck
      cases impossible

end Sequencer
end PulseAnalyzer
