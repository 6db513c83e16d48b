import PulseAnalyzer.Proofs.Program.Clock
import PulseAnalyzer.Proofs.Simulator.Hosting

set_option autoImplicit false

namespace PulseAnalyzer
namespace Bench

def Simulates (b : Bench) : Prop := ∃ l, b.link = .simulated l

-- Cancelled once it is time, and not before.
structure Due (b : Bench) (due : Option Nat) : Prop where
  planned : b.plan = ⟨due, none, none⟩
  told : b.cancelled = due.any (· ≤ b.millis)

theorem elapse_millis (b : Bench) (millis : Nat) : (b.elapse millis).millis = max b.millis millis := by
  unfold elapse
  split
  · rename_i past
    exact (Nat.max_eq_left past).symm
  · rename_i ahead
    exact (Nat.max_eq_right (Nat.le_of_not_le ahead)).symm

theorem elapse_link (b : Bench) (millis : Nat) : (b.elapse millis).link = b.link := by
  unfold elapse
  split <;> rfl

theorem elapse_plan (b : Bench) (millis : Nat) : (b.elapse millis).plan = b.plan := by
  unfold elapse
  split <;> rfl

theorem stand_in_keeps (b : Bench) (call : Link.Call) (answer : call.Answer) :
    (b.standInResponse call answer).2.millis = b.millis ∧ (b.standInResponse call answer).2.link = b.link ∧
      (b.standInResponse call answer).2.plan = b.plan ∧ (b.standInResponse call answer).2.cancelled = b.cancelled := by
  unfold standInResponse
  split
  · split <;> exact ⟨rfl, rfl, rfl, rfl⟩
  · exact ⟨rfl, rfl, rfl, rfl⟩

theorem await_takes (b : Bench) (deadline : Instant) :
    (b.await deadline).2.link = b.link ∧
      Event.Takes b.millis ⟨.await deadline, (b.await deadline).1⟩ (b.await deadline).2.millis := by
  have link := b.elapse_link (wakeMillis deadline)
  have woken := b.elapse_millis (wakeMillis deadline)
  obtain ⟨later, elapsed, ended⟩ := b.await_cases deadline
  rw [← elapsed] at link woken
  rcases ended with ⟨-, ended⟩ | ⟨-, -, ended⟩ | ⟨-, -, ended⟩
  · rw [ended]
    exact ⟨rfl, Nat.le_refl _⟩
  · rw [ended]
    exact ⟨link, Nat.le_max_left _ _⟩
  · rw [ended]
    exact ⟨link, woken, rfl⟩

theorem answer_takes (b : Bench) (simulates : b.Simulates) (r : Request) :
    (answer r b).2.Simulates ∧ Event.Takes b.millis ⟨r, (answer r b).1⟩ (answer r b).2.millis := by
  cases r with
  | api call => exact ⟨simulates, rfl⟩
  | now => exact ⟨simulates, rfl, rfl⟩
  | isCancelled | enter phase | emit m | print line => exact ⟨simulates, rfl⟩
  | pause millis =>
      refine ⟨?_, ?_⟩
      · obtain ⟨l, simulated⟩ := simulates
        exact ⟨l, (b.elapse_link _).trans simulated⟩
      · exact (b.elapse_millis _).trans (Nat.max_eq_right (Nat.le_add_right _ _))
  | await deadline =>
      obtain ⟨l, simulated⟩ := simulates
      obtain ⟨link, takes⟩ := b.await_takes deadline
      exact ⟨⟨l, link.trans simulated⟩, takes⟩
  | link call =>
      obtain ⟨l, simulated⟩ := simulates
      have noted : (b.noteWrite call).link = .simulated l ∧ (b.noteWrite call).millis = b.millis := by
        cases call <;> exact ⟨simulated, rfl⟩
      simp only [answer, callLink]
      split
      · rename_i m found
        obtain ⟨time, link, -, -⟩ :=
          stand_in_keeps { b.noteWrite call with link := .simulated (m.answer call).2 } call (m.answer call).1
        exact ⟨⟨_, link⟩, time.trans noted.2⟩
      · rename_i ports found
        rw [noted.1] at found
        cases found

theorem due_of_same (b c : Bench) (due : Option Nat) (timely : b.Due due) (plan : c.plan = b.plan)
    (millis : c.millis = b.millis) (cancelled : c.cancelled = b.cancelled) : c.Due due :=
  ⟨plan.trans timely.planned, by rw [cancelled, millis, timely.told]⟩

theorem due_elapse (b : Bench) (due : Option Nat) (timely : b.Due due) (millis : Nat) : (b.elapse millis).Due due := by
  refine ⟨(b.elapse_plan millis).trans timely.planned, ?_⟩
  unfold elapse
  split
  · exact timely.told
  · rename_i ahead
    simp only [timely.told, timely.planned]
    cases due with
    | none => rfl
    | some c =>
        rw [Bool.eq_iff_iff]
        simp only [Option.any_some, Bool.or_eq_true, decide_eq_true_eq]
        omega

theorem due_note (b : Bench) (due : Option Nat) (timely : b.Due due) (call : Link.Call) : (b.noteWrite call).Due due := by
  cases call with
  | write handle address data =>
      have same : (b.noteWrite (.write handle address data)).cancelled = b.cancelled := by
        simp only [noteWrite, timely.planned, countDown, Bool.or_false]
      refine due_of_same b _ due timely ?_ rfl same
      simp only [noteWrite, timely.planned, countDown]
  | _ => exact timely

theorem due_replaced (b : Bench) (due : Option Nat) (timely : b.Due due) (link : BenchLink) (call : Link.Call)
    (answer : call.Answer) : ({ b with link }.standInResponse call answer).2.Due due := by
  obtain ⟨millis, -, plan, cancelled⟩ := stand_in_keeps { b with link } call answer
  exact due_of_same b _ due timely plan millis cancelled

theorem due_link (b : Bench) (due : Option Nat) (timely : b.Due due) (call : Link.Call) : (b.callLink call).2.Due due := by
  have noted := b.due_note due timely call
  unfold callLink
  dsimp only
  split
  · exact due_replaced _ due noted _ call _
  · exact due_replaced _ due (due_elapse _ due noted _) _ call _

theorem past_due (due : Option Nat) (t : Nat) (past : due.any (· ≤ t) = true) : ∃ c, due = some c ∧ c ≤ t := by
  cases due with
  | none => cases past
  | some c => exact ⟨c, rfl, of_decide_eq_true past⟩

theorem before_due (due : Option Nat) (t : Nat) (early : due.any (· ≤ t) = false) (c : Nat) (planned : due = some c) :
    t < c := by
  subst planned
  exact Nat.lt_of_not_le (of_decide_eq_false early)

-- A wait that is cancelled ends at the time of that, or when it was asked for if that is later.
theorem due_await (b : Bench) (due : Option Nat) (timely : b.Due due) (deadline : Instant) :
    (b.await deadline).2.Due due ∧
      Event.Heeds due b.millis ⟨.await deadline, (b.await deadline).1⟩ (b.await deadline).2.millis := by
  have waited := due_elapse b due timely (wakeMillis deadline)
  have woken := b.elapse_millis (wakeMillis deadline)
  obtain ⟨later, elapsed, ended⟩ := b.await_cases deadline
  rw [← elapsed] at waited woken
  rcases ended with ⟨cancelled, ended⟩ | ⟨-, cancelled, ended⟩ | ⟨going, quiet, ended⟩
  · obtain ⟨c, planned, late⟩ := past_due due b.millis (timely.told ▸ cancelled)
    rw [ended]
    exact ⟨timely, c, planned, (Nat.max_eq_left late).symm, Nat.le_trans late (Nat.le_max_left _ _)⟩
  · obtain ⟨c, rfl, late⟩ := past_due due later.millis (waited.told ▸ cancelled)
    rw [ended, timely.planned]
    refine ⟨⟨waited.planned, ?_⟩, c, rfl, rfl, woken ▸ late⟩
    have told : (some c).any (· ≤ max b.millis c) = true := decide_eq_true (Nat.le_max_right b.millis c)
    exact cancelled.trans told.symm
  · rw [ended]
    refine ⟨waited, fun c planned => ⟨before_due due b.millis (timely.told ▸ going) c planned, ?_⟩⟩
    have late := before_due due later.millis (waited.told ▸ quiet) c planned
    rw [woken] at late
    exact Nat.le_of_lt (Nat.lt_of_le_of_lt (Nat.le_max_right _ _) late)

theorem answer_heeds (b : Bench) (due : Option Nat) (timely : b.Due due) (r : Request) :
    (answer r b).2.Due due ∧ Event.Heeds due b.millis ⟨r, (answer r b).1⟩ (answer r b).2.millis := by
  cases r with
  | api call =>
      have same : (b.callApi call).2.cancelled = b.cancelled := by
        simp only [callApi, timely.planned, countDown, Bool.or_false]
      refine ⟨due_of_same b _ due timely ?_ rfl same, trivial⟩
      simp only [answer, callApi, timely.planned, countDown]
  | link call => exact ⟨b.due_link due timely call, trivial⟩
  | pause millis => exact ⟨b.due_elapse due timely _, trivial⟩
  | await deadline => exact b.due_await due timely deadline
  | isCancelled => exact ⟨timely, timely.told⟩
  | now => exact ⟨timely, trivial⟩
  | enter phase | emit m | print line => exact ⟨⟨timely.planned, timely.told⟩, trivial⟩

theorem keeps_time {α : Type} (b : Bench) (simulates : b.Simulates) (p : Program α) :
    p.Keeps answer millis Event.Takes b :=
  Program.keeps_of_steps answer millis Event.Takes Simulates (fun c here => c.answer_takes here) p b simulates

theorem keeps_due {α : Type} (b : Bench) (due : Option Nat) (timely : b.Due due) (p : Program α) :
    p.Keeps answer millis (Event.Heeds due) b :=
  Program.keeps_of_steps answer millis _ (Due · due) (fun c here => c.answer_heeds due here) p b timely

end Bench
end PulseAnalyzer
