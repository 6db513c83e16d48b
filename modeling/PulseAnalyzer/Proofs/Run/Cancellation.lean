import Mathlib.Data.List.Induction
import PulseAnalyzer.Proofs.Run.Lawful

set_option autoImplicit false

namespace PulseAnalyzer

def Cancelled (events : List Event) : Prop :=
  ∀ answer, (⟨.isCancelled, answer⟩ : Event) ∈ events → answer = true

theorem exposed_earlier (s : Sequencer) (plan : Plan) (measuring : ∀ p, plan ≠ .trace p)
    (before between : List Event) (clean : Clean (before ++ between))
    (unfinished : (calls (before ++ between)).length < 2 * s.channels.length) : Exposed s plan before := by
  refine .writing measuring ((clean_append before between).mp clean).1 ?_
  rw [calls, List.filterMap_append, List.length_append] at unfinished
  exact Nat.lt_of_le_of_lt (Nat.le_add_right _ _) unfinished

theorem started_call (e : Event) (begins : e.isStarted) :
    ∃ target resume, e.call? = some (.startRun target resume) := by
  unfold Event.isStarted at begins
  split at begins
  · exact ⟨_, _, rfl⟩
  · cases begins

section late
variable (s : Sequencer) (plan : Plan) (before after : List Event)
  (heeds : EachCut (Heed s plan) [] (before ++ after) []) (cancelled : Cancelled after)
  (hidden : ¬ Exposed s plan before)
include heeds cancelled hidden

-- By induction from the point of cancellation on: what leads to a call is a check that finds the
-- run going on, or itself a call that something had to lead to.
theorem late_hidden (between rest : List Event) (split : after = between ++ rest) :
    ¬ Exposed s plan (before ++ between) := by
  induction between using List.reverseRecOn generalizing rest with
  | nil =>
      rw [List.append_nil]
      exact hidden
  | append_singleton left x ih =>
      intro exposed
      cases exposed with
      | writing measuring clean unfinished =>
          exact hidden (exposed_earlier s plan measuring before _ clean unfinished)
      | led led =>
          obtain ⟨e, last, leads⟩ := led
          rw [← List.append_assoc, List.getLast?_concat] at last
          have same : x = e := Option.some.inj last
          rw [← same] at leads
          have whole : before ++ after = (before ++ left) ++ x :: rest := by
            rw [split, List.append_assoc, List.append_assoc]
            rfl
          have here := heeds (before ++ left) x rest whole
          unfold Event.leads at leads
          split at leads
          · cases cancelled false (by rw [split]; simp)
          · cases here with
            | silent quiet => cases quiet
            | exposed earlier => exact ih (_ :: rest) (by rw [split, List.append_assoc]; rfl) earlier
            | closing call found spared =>
                cases found
                rcases spared.2 with impossible | ⟨impossible, -⟩
                · cases impossible
                · cases impossible
          · cases leads

theorem late_call (between rest : List Event) (e : Event) (split : after = between ++ e :: rest)
    (call : Acquisition.Call) (found : e.call? = some call) : Spared plan (before ++ between) call := by
  have whole : before ++ after = (before ++ between) ++ e :: rest := by
    rw [split, List.append_assoc]
  cases heeds (before ++ between) e rest whole with
  | silent quiet =>
      rw [quiet] at found
      cases found
  | exposed here => exact absurd here (late_hidden s plan before after heeds cancelled hidden between _ split)
  | closing other same spared =>
      rw [same] at found
      cases found
      exact spared

-- The run is not started after the point of cancellation, so it was before.
theorem late_calls_spared (call : Acquisition.Call) (member : call ∈ calls after) : Spared plan before call := by
  obtain ⟨e, there, found⟩ := List.mem_filterMap.mp member
  obtain ⟨between, rest, split⟩ := List.append_of_mem there
  have late := late_call s plan before after heeds cancelled hidden
  obtain ⟨opened, last⟩ := late between rest e split call found
  refine ⟨?_, last⟩
  rw [started_append] at opened
  cases early : started before with
  | true => rfl
  | false =>
      rw [early, Bool.false_or] at opened
      obtain ⟨x, inside, begins⟩ := List.any_eq_true.mp opened
      obtain ⟨target, resume, called⟩ := started_call x begins
      obtain ⟨left, right, cut⟩ := List.append_of_mem inside
      have whole : after = left ++ x :: (right ++ e :: rest) := by
        rw [split, cut, List.append_assoc]
        rfl
      rcases (late left _ x whole _ called).2 with impossible | ⟨impossible, -⟩
      · cases impossible
      · cases impossible

end late

namespace Sequencer

theorem unspared_not_spared (plan : Plan) (before : List Event) (call : Acquisition.Call)
    (unspared : Unspared call) : ¬ Spared plan before call := by
  rintro ⟨-, stop | ⟨readOut, -⟩⟩
  · exact unspared.1 stop
  · exact unspared.2 readOut

theorem led_goes_on (s : Sequencer) (plan : Plan) (before after : List Event) (led : Led before)
    (lawful : EachCut (Lawful s plan) [] (before ++ after) []) :
    ∃ call ∈ calls after, ¬ Spared plan before call := by
  obtain ⟨e, last, leads⟩ := led
  obtain ⟨init, rfl⟩ := List.getLast?_eq_some_iff.mp last
  have whole : init ++ [e] ++ after = init ++ e :: after := by rw [List.append_assoc]; rfl
  obtain ⟨call, answer, rest, rfl, unspared⟩ := by
    have found := (lawful init e after whole).2 leads
    rw [List.append_nil] at found
    exact found
  exact ⟨call, List.mem_cons_self, unspared_not_spared plan _ call unspared⟩

theorem writing_goes_on (s : Sequencer) (plan : Plan) (before after writes tail : List Event)
    (outcome : Except Fault Unit) (clean : Clean before)
    (unfinished : (calls before).length < 2 * s.channels.length) (split : before ++ after = writes ++ tail)
    (whole : Writes (2 * s.channels.length) writes outcome) (written : ∀ e ∈ writes, e.part ∈ [Part.configuration]) :
    ∃ call ∈ calls after, ¬ Spared plan before call := by
  rcases List.append_eq_append_iff.mp split with ⟨left, rfl, rfl⟩ | ⟨left, rfl, rfl⟩
  · cases left with
    | nil =>
        have many := writes_over _ _ [] outcome whole written (by simpa using clean)
        rw [List.append_nil, List.append_nil] at many
        omega
    | cons e rest =>
        obtain ⟨call, found, configures⟩ := written_call e (written e (by simp))
        refine ⟨call, List.mem_filterMap.mpr ⟨e, by simp, found⟩, unspared_not_spared plan _ call ?_⟩
        rw [Unspared, configures]
        decide
  · have many := writes_over _ writes left outcome whole written clean
    omega

theorem run_heeds_cancellation {σ : Type} (answer : (r : Request) → σ → r.Answer × σ) (start : σ)
    (s : Sequencer) (budget : Nat) (plan : Plan) (channeled : s.channels ≠ []) (valid : plan.validate = .ok ())
    (before after : List Event)
    (split : Program.history answer (s.run budget plan).run start = before ++ after)
    (cancelled : Cancelled after) :
    (∀ call ∈ calls after, Spared plan before call) ↔ ¬ Exposed s plan before := by
  have traced : (s.run budget plan).Traced (before ++ after) _ :=
    split ▸ Program.history_traced answer (s.run budget plan).run start
  have lawful := run_lawful s plan budget (before ++ after) _ traced
  constructor
  · intro spared exposed
    have goesOn : ∃ call ∈ calls after, ¬ Spared plan before call := by
      cases exposed with
      | led led => exact led_goes_on s plan before after led lawful
      | writing measuring clean unfinished =>
          rcases run_traced s budget plan _ _ traced with
            ⟨empty, -⟩ | ⟨-, _, invalid, -⟩ | ⟨first, _, -, -, ⟨ran, -⟩ | ⟨course, outcome, ran, ended, -⟩⟩
          · exact absurd empty channeled
          · rw [valid] at invalid
            cases invalid
          · obtain ⟨writes, found, tail, same, whole, written⟩ :=
              perform_writes s first budget plan _ _ measuring ran
            exact writing_goes_on s plan before after writes tail found clean unfinished same whole written
          · obtain ⟨writes, found, tail, rfl, whole, written⟩ :=
              perform_writes s first budget plan _ _ measuring ran
            rw [List.append_assoc] at ended
            exact writing_goes_on s plan before after writes _ found clean unfinished ended whole written
    obtain ⟨call, member, denied⟩ := goesOn
    exact denied (spared call member)
  · intro hidden call member
    have heeds : EachCut (Heed s plan) [] (before ++ after) [] :=
      each_cut_mono _ _ [] _ [] (fun _ _ _ law => law.1) lawful
    exact late_calls_spared s plan before after heeds cancelled hidden call member

-- Cancelled while the snapshot is taken, a run only stops.
theorem recalled_heeds_cancellation :
    let events := Program.history recalled (Sequencer.run ⟨[0], .channel 0⟩ 2 (.snapshot .standard)).run 4
    calls (events.drop 9) = [.stopRun (.channel 0)] ∧ Cancelled (events.drop 9) ∧
      ((∀ call ∈ calls (events.drop 9), Spared (.snapshot .standard) (events.take 9) call) ↔
        ¬ Exposed ⟨[0], .channel 0⟩ (.snapshot .standard) (events.take 9)) := by
  have rest : (Program.history recalled (Sequencer.run ⟨[0], .channel 0⟩ 2 (.snapshot .standard)).run 4).drop 9 =
      [.checked true, .entered .stopping, .success (.stopRun (.channel 0)) (), .entered .idle] := rfl
  have cancelled : Cancelled (List.drop 9
      (Program.history recalled (Sequencer.run ⟨[0], .channel 0⟩ 2 (.snapshot .standard)).run 4)) := by
    rw [rest]
    intro answer member
    rcases List.mem_cons.mp member with same | later
    · cases same
      rfl
    · simp at later
  exact ⟨rfl, cancelled, run_heeds_cancellation recalled 4 ⟨[0], .channel 0⟩ 2 (.snapshot .standard)
    (List.cons_ne_nil 0 []) rfl _ _ (List.take_append_drop 9 _).symm cancelled⟩

-- Cancelled while the length of a trace is read, a run still reads the trace.
theorem recalled_reads_trace :
    let events := Program.history recalled (Sequencer.run ⟨[0], .channel 0⟩ 2 (.trace .standard)).run 2
    TracePlan.standard.validate = .ok () ∧
      (events.take 4).getLast? = some (.success (.traceLength 0) 3) ∧ Cancelled (events.drop 4) ∧
      ¬ ∀ call ∈ calls (events.drop 4), Spared (.trace .standard) (events.take 4) call := by
  have rest : (Program.history recalled (Sequencer.run ⟨[0], .channel 0⟩ 2 (.trace .standard)).run 2).drop 4 =
      [.success (.trace 0 3) #[], ⟨.emit (.trace 0 #[]), ()⟩, .entered .idle] := rfl
  refine ⟨rfl, rfl, ?_, fun spared => ?_⟩
  · rw [rest]
    intro answer member
    simp at member
  · have read := spared (.trace 0 3) (by rw [rest]; exact List.mem_cons_self)
    rcases read.2 with impossible | ⟨impossible, -⟩
    · cases impossible
    · cases impossible

end Sequencer
end PulseAnalyzer
