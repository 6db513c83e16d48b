import PulseAnalyzer.Proofs.Run.Guard
import PulseAnalyzer.Proofs.Run.StopDiscipline
import PulseAnalyzer.Proofs.Run.Writes

set_option autoImplicit false

namespace PulseAnalyzer

def Spared (plan : Plan) (before : List Event) (call : Acquisition.Call) : Prop :=
  started before ∧ (call.part = .stop ∨ call.part = .readOut ∧ ∃ p, plan = .bounded p)

-- The points after which a run makes another call although it is cancelled there.
inductive Exposed (s : Sequencer) (plan : Plan) (before : List Event) : Prop where
  | led (led : Led before)
  | writing (measuring : ∀ p, plan ≠ .trace p) (clean : Clean before)
      (unfinished : (calls before).length < 2 * s.channels.length)

inductive Heed (s : Sequencer) (plan : Plan) (before : List Event) (e : Event) (_after : List Event) : Prop where
  | silent (quiet : e.call? = none)
  | exposed (here : Exposed s plan before)
  | closing (call : Acquisition.Call) (found : e.call? = some call) (spared : Spared plan before call)

namespace Sequencer
open Procedure

-- Neither the writes of a configuration nor the read-out after a stop lead to a call.
theorem parts_free (parts : List Part) (events : List Event) (inside : ∀ e ∈ events, e.part ∈ parts)
    (noCheck : .check ∉ parts) (noTrace : .captureRead ∉ parts) : ∀ e ∈ events, e.leads = false := by
  intro e member
  have check := parts_absent inside .check noCheck e member
  have trace := parts_absent inside .captureRead noTrace e member
  unfold Event.leads
  split
  · exact absurd rfl check
  · exact absurd rfl trace
  · rfl

theorem closing_call (e : Event) (call : Acquisition.Call) (closing : e.part ∈ Part.closing)
    (found : e.call? = some call) : call.part = .readOut := by
  rw [call_part e call found] at closing
  rcases List.mem_cons.mp closing with readOut | emission
  · exact readOut
  · cases call with
    | special target special => cases special <;> simp [Acquisition.Call.part] at emission
    | _ => simp [Acquisition.Call.part] at emission

def Lawful (s : Sequencer) (plan : Plan) (before : List Event) (e : Event) (after : List Event) : Prop :=
  Heed s plan before e after ∧ Followed e after

section measured
variable (s : Sequencer) (plan : Plan)

theorem guarded_lawful (past events future : List Event) (guards : EachCut Guarded past events future) :
    EachCut (Lawful s plan) past events future := by
  refine each_cut_mono Guarded _ past events future ?_ guards
  intro before e after guard
  refine ⟨?_, guard.2⟩
  cases found : e.call? with
  | none => exact .silent found
  | some call => exact .exposed (.led (guard.1 call found))

theorem writes_lawful (measuring : ∀ p, plan ≠ .trace p) (events future : List Event)
    (outcome : Except Fault Unit) (writes : Writes (2 * s.channels.length) events outcome)
    (written : ∀ e ∈ events, e.part ∈ [Part.configuration]) : EachCut (Lawful s plan) [] events future := by
  intro before e after split
  have free := parts_free _ events written (by decide) (by decide) e (by rw [split]; simp)
  obtain ⟨clean, few⟩ := writes_cut _ before after e outcome (split ▸ writes)
  refine ⟨.exposed (.writing measuring clean ?_), followed_free e _ free⟩
  exact Nat.lt_of_le_of_lt (List.length_filterMap_le _ before) few

theorem start_guarded (resume : Bool) (past future : List Event) :
    EachCut Guarded past (s.startEvents resume) future := by
  refine each_cut_cons Guarded _ _ _ _ ?_ (each_cut_cons Guarded _ _ _ _ ?_ (each_cut_singleton Guarded _ _ _ ?_))
  · exact ⟨nofun, fun _ => ⟨_, _, _, rfl, nofun, nofun⟩⟩
  · exact guarded_led _ _ _ ⟨_, List.getLast?_concat, rfl⟩ rfl
  · exact guarded_silent _ _ _ rfl rfl

theorem stop_lawful (answer : Except Int Unit) (past future : List Event) (opened : started past) :
    EachCut (Lawful s plan) past (s.stopEvents answer) future := by
  refine each_cut_cons (Lawful s plan) _ _ _ _ ?_ (each_cut_singleton (Lawful s plan) _ _ _ ?_)
  · exact ⟨.silent rfl, followed_free _ _ rfl⟩
  · refine ⟨.closing _ rfl ⟨?_, .inl rfl⟩, followed_free _ _ rfl⟩
    rw [started_append, opened]
    rfl

theorem reads_lawful (p : BoundedPlan) (same : plan = .bounded p) (past events future : List Event)
    (opened : started past) (reads : ∀ e ∈ events, e.part ∈ Part.closing) :
    EachCut (Lawful s plan) past events future := by
  intro before e after split
  have member : e ∈ events := by rw [split]; simp
  have free := parts_free _ events reads (by decide) (by decide) e member
  refine ⟨?_, followed_free e _ free⟩
  cases found : e.call? with
  | none => exact .silent found
  | some call =>
      refine .closing call found ⟨?_, .inr ⟨closing_call e call (reads e member) found, p, same⟩⟩
      rw [started_append, opened]
      rfl

theorem measured_lawful {α : Type} (lead : Procedure Unit) (resume : Bool) (body : Procedure α)
    (rest : α → Procedure Summary) (events future : List Event) (result : Option (Except Fault Summary))
    (measuring : ∀ p, plan ≠ .trace p)
    (leads : ∀ events result, lead.Traced events result →
      ∃ outcome, result = some outcome ∧ Writes (2 * s.channels.length) events outcome)
    (written : ∀ events result, lead.Traced events result → ∀ e ∈ events, e.part ∈ [Part.configuration])
    (guards : Each Guarded (fun _ => True) body)
    (reads : ∀ value past tail result future, started past → (rest value).Traced tail result →
      EachCut (Lawful s plan) past tail future)
    (measured : Measured s lead resume body rest events result) :
    EachCut (Lawful s plan) [] events future := by
  have written : ∀ before outcome future, lead.Traced before outcome →
      EachCut (Lawful s plan) [] before future := by
    intro before outcome future led
    obtain ⟨found, rfl, writes⟩ := leads before outcome led
    exact writes_lawful s plan measuring before future found writes (written before _ led)
  have opening : ∀ before outcome future, lead.Traced before outcome →
      EachCut (Lawful s plan) [] (before ++ s.startEvents resume) future := by
    intro before outcome future led
    refine each_cut_append (Lawful s plan) [] before _ future (written before outcome _ led) ?_
    exact guarded_lawful s plan _ _ future (start_guarded s resume _ future)
  have running : ∀ before during outcome (ended : Option (Except Fault α)) future,
      lead.Traced before outcome → body.Traced during ended →
      EachCut (Lawful s plan) [] (before ++ s.startEvents resume ++ during) future := by
    intro before during outcome ended future led ran
    refine each_cut_append (Lawful s plan) [] _ during future (opening before outcome _ led) ?_
    exact guarded_lawful s plan _ during future (guards during ended ran _ future trivial)
  have opened : ∀ before during, started (before ++ s.startEvents resume ++ during) = true := by
    intro before during
    rw [started_append, started_append]
    exact (congrArg (· || started during) (Bool.or_true _)).trans (Bool.true_or _)
  have stopping : ∀ before during outcome (ended : Option (Except Fault α)) answer future,
      lead.Traced before outcome → body.Traced during ended →
      EachCut (Lawful s plan) [] (before ++ s.startEvents resume ++ during ++ s.stopEvents answer) future := by
    intro before during outcome ended answer future led ran
    refine each_cut_append (Lawful s plan) [] _ _ future (running before during outcome ended _ led ran) ?_
    exact stop_lawful s plan answer _ future (opened before during)
  cases measured with
  | unled _ led => exact written events _ future led
  | misled _ fault led => exact written events _ future led
  | cancelled before led =>
      refine each_cut_append (Lawful s plan) [] before _ future (written before _ _ led) ?_
      exact each_cut_singleton (Lawful s plan) _ _ future ⟨.silent rfl, followed_free _ _ rfl⟩
  | refused before code led =>
      refine each_cut_append (Lawful s plan) [] before _ future (written before _ _ led) ?_
      refine guarded_lawful s plan _ _ future (each_cut_cons Guarded _ _ _ _ ?_ (each_cut_singleton Guarded _ _ _ ?_))
      · exact ⟨nofun, fun _ => ⟨_, _, _, rfl, nofun, nofun⟩⟩
      · exact guarded_led _ _ _ ⟨_, List.getLast?_concat, rfl⟩ rfl
  | spent before during led ran => exact running before during _ _ future led ran
  | faulty before during outcome answer fault led ran fails =>
      exact stopping before during _ _ answer future led ran
  | stopped before during tail outcome answer value _ led ran fine read =>
      refine each_cut_append (Lawful s plan) [] _ tail future
        (stopping before during _ _ answer _ led ran) (reads value _ tail result future ?_ read)
      rw [List.nil_append, started_append, opened before during]
      rfl

theorem perform_lawful (first budget : Nat) (events future : List Event)
    (result : Option (Except Fault Summary)) (traced : (s.perform first budget plan).Traced events result) :
    EachCut (Lawful s plan) [] events future := by
  cases plan with
  | bounded p =>
      refine measured_lawful s (.bounded p) _ p.resume _ _ events future result nofun
        (configure_writes _ s.channels) (fun writes ended led => (configure_steady _ _ writes ended led).1) ?_ ?_
        (bounded_measured s first budget p events result traced)
      · exact each_bind Guarded _ _ _ (ticker_guarded pollInterval) fun _ => poll_guarded first budget _
      · intro outcome past tail ended future opened read
        exact reads_lawful s (.bounded p) p rfl past tail future opened (closing_steady s outcome tail ended read).1
  | snapshot p =>
      refine measured_lawful s (.snapshot p) _ false _ _ events future result nofun
        (configure_writes _ s.channels) (fun writes ended led => (configure_steady _ _ writes ended led).1) ?_ ?_
        (snapshots_measured s budget p events result traced)
      · exact each_bind Guarded _ _ _ (ticker_guarded p.period) fun _ => take_snapshots_guarded s _ _ _ _
      · intro records past tail ended future _ read
        exact each_pure _ (fun _ => True) _ tail ended read past future trivial
  | trace p =>
      exact guarded_lawful s (.trace p) [] events future (trace_guarded s p events result traced [] future trivial)

theorem run_lawful (budget : Nat) (events : List Event) (result : Option (Except Fault Summary))
    (traced : (s.run budget plan).Traced events result) : EachCut (Lawful s plan) [] events [] := by
  rcases run_traced s budget plan events result traced with
    ⟨-, rfl, -⟩ | ⟨-, _, -, rfl, -⟩ | ⟨first, _, -, -, ⟨ran, -⟩ | ⟨before, outcome, ran, rfl, -⟩⟩
  · exact each_cut_nil _ [] []
  · exact each_cut_nil _ [] []
  · exact perform_lawful s plan first budget events [] _ ran
  · refine each_cut_append (Lawful s plan) [] before _ [] (perform_lawful s plan first budget before _ _ ran) ?_
    exact each_cut_singleton (Lawful s plan) _ _ [] ⟨.silent rfl, followed_free _ _ rfl⟩

end measured
end Sequencer
end PulseAnalyzer
